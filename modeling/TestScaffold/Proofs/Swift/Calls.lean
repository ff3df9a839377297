import TestScaffold.Proofs.Swift.Literals
import TestScaffold.Swift.Elements

namespace TestScaffold.Swift

open Text Pattern

def isHeadChar (c : Char) : Bool := isWord c || isBlank c || c == '(' || c == '\x7b'

def callNames : List (List Char) :=
  ["Button", "TextField", "SecureField", "Text", "Toggle", "NavigationLink", "Label"].map String.toList

def IsCallStart (p : List Char) : Prop :=
  ∃ w u v, p = w ++ (u ++ '(' :: v) ∧ w ∈ callNames ∧ (∀ c ∈ u, isBlank c = true) ∧
    ∀ c ∈ v, isBlank c = true

structure Opens (cs : List Char) : Prop where
  start : ∀ c ∈ cs.head?, isBlank c = false
  literal : ∃ u p l r, cs = u ++ (p ++ '"' :: (l ++ '"' :: r)) ∧ (∀ c ∈ u, isHeadChar c = true) ∧
    IsCallStart p ∧ '\n' ∉ l

structure Starts (names : List (List Char)) (s : Cursor Slot) : Prop where
  free : s.before.any isWord = false
  name : ∃ w ∈ names, IsWordText w ∧ ∃ c r, s.ahead = w ++ c :: r ∧ isWord c = false
  opens : Opens s.ahead ∨ ∃ r, '\x7b' :: r <:+ s.ahead ∧ Opens ('\x7b' :: r)

section

variable {p w cs : List Char}

theorem isWordText_callNames : ∀ w ∈ callNames, IsWordText w := by decide

namespace IsCallStart

theorem heads (h : IsCallStart p) : ∀ c ∈ p, isHeadChar c = true := by
  obtain ⟨w, u, v, rfl, hw, hu, hv⟩ := h
  intro c hc
  simp only [List.mem_append, List.mem_cons] at hc
  rcases hc with hc | hc | rfl | hc
  · simp [isHeadChar, (isWordText_callNames w hw).2 c hc]
  · simp [isHeadChar, hu c hc]
  · rfl
  · simp [isHeadChar, hv c hc]

theorem head (h : IsCallStart p) : ∃ c q, p = c :: q ∧ isWord c = true := by
  obtain ⟨w, u, v, rfl, hw, -⟩ := h
  obtain ⟨c, w, rfl, hc⟩ := (isWordText_callNames w hw).head
  exact ⟨c, _, rfl, hc⟩

end IsCallStart

def Labels (cs : List Char) : Prop :=
  ∃ u v l r, cs = u ++ '(' :: (v ++ '"' :: (l ++ '"' :: r)) ∧ (∀ c ∈ u, isBlank c = true) ∧
    (∀ c ∈ v, isBlank c = true) ∧ '\n' ∉ l

theorem Labels.opens (h : Labels cs) (hw : w ∈ callNames) : Opens (w ++ cs) := by
  obtain ⟨u, v, l, r, rfl, hu, hv, hl⟩ := h
  have hstart : IsCallStart (w ++ (u ++ '(' :: v)) := ⟨w, u, v, rfl, hw, hu, hv⟩
  obtain ⟨c, q, hq, hc⟩ := hstart.head
  have htext : w ++ (u ++ '(' :: (v ++ '"' :: (l ++ '"' :: r))) =
      w ++ (u ++ '(' :: v) ++ '"' :: (l ++ '"' :: r) := by simp
  refine ⟨?_, [], w ++ (u ++ '(' :: v), l, r, htext, by simp, hstart, hl⟩
  rw [htext, hq]
  rintro d ⟨⟩
  exact isBlank_eq_false_of_isWord hc

theorem Labels.head (h : Labels cs) : ∃ c r, cs = c :: r ∧ isWord c = false := by
  obtain ⟨u, v, l, r, rfl, hu, -, -⟩ := h
  cases u with
  | nil => exact ⟨'(', _, rfl, by decide⟩
  | cons c u => exact ⟨c, _, rfl, isWord_eq_false_of_isBlank (hu c List.mem_cons_self)⟩

theorem Opens.brace {u : List Char} (h : Opens cs) (hu : ∀ c ∈ u, isBlank c = true) :
    Opens ('\x7b' :: (u ++ cs)) := by
  obtain ⟨v, p, l, r, rfl, hv, hp, hl⟩ := h.literal
  refine ⟨?_, '\x7b' :: (u ++ v), p, l, r, by simp, fun c hc => ?_, hp, hl⟩
  · rintro d ⟨⟩
    decide
  · rcases List.mem_cons.1 hc with rfl | hc
    · decide
    · rcases List.mem_append.1 hc with hc | hc
      · simp [isHeadChar, hu c hc]
      · exact hv c hc

end

namespace Grammar

variable {s t : Cursor Slot}

theorem labels_of_mem {i : Slot} {ps : List Grammar}
    (h : t ∈ (all (blanks :: Pattern.char '(' :: blanks :: string i :: ps)).ways s) :
    Labels s.ahead := by
  obtain ⟨m₁, h₁, h⟩ := mem_all_cons.1 h
  obtain ⟨m₂, h₂, h⟩ := mem_all_cons.1 h
  obtain ⟨m₃, h₃, h⟩ := mem_all_cons.1 h
  obtain ⟨m₄, h₄⟩ := mem_all_head h
  obtain ⟨u, hu, hub⟩ := mem_blanks h₁
  obtain ⟨v, hv, hvb⟩ := mem_blanks h₃
  obtain ⟨l, hl, hline⟩ := mem_string h₄
  exact ⟨u, v, l, m₄.ahead, by rw [hu.ahead, mem_char h₂, hv.ahead, hl], hub, hvb, hline⟩

theorem starts_of_labels {names : List (List Char)} {w r : List Char} (hmem : w ∈ names)
    (hw : w ∈ callNames) (hs : s.ahead = w ++ r) (hfree : s.before.any isWord = false)
    (h : Labels r) : Starts names s := by
  obtain ⟨c, r', rfl, hc⟩ := h.head
  exact ⟨hfree, ⟨w, hmem, isWordText_callNames w hw, c, r', hs, hc⟩, .inl (hs ▸ h.opens hw)⟩

theorem opens_of_labelClosure {i : Slot} (h : t ∈ (labelClosure i).ways s) :
    ∃ r, s.ahead = '\x7b' :: r ∧ Opens s.ahead := by
  obtain ⟨m₁, h₁, h⟩ := mem_all_cons.1 h
  obtain ⟨m₂, h₂, h⟩ := mem_all_cons.1 h
  obtain ⟨m₃, h₃, h⟩ := mem_all_cons.1 h
  obtain ⟨u, hu, hub⟩ := mem_blanks h₂
  obtain ⟨p, hp, h₃⟩ := mem_any.1 h₃
  have hword : ∃ w ∈ callNames, m₂.ahead = w ++ m₃.ahead := by
    simp only [List.mem_cons, List.not_mem_nil, or_false] at hp
    rcases hp with rfl | rfl
    · exact ⟨_, by decide, (reads_lit h₃).ahead⟩
    · exact ⟨_, by decide, (reads_lit h₃).ahead⟩
  obtain ⟨w, hw, hahead⟩ := hword
  have hopens : Opens m₂.ahead := hahead ▸ (labels_of_mem h).opens hw
  have hs : s.ahead = '\x7b' :: (u ++ m₂.ahead) := by rw [mem_char h₁, hu.ahead]
  exact ⟨u ++ m₂.ahead, hs, hs ▸ hopens.brace hub⟩

theorem starts_labelled {control : String} {call : Grammar} (hname : control.toList ∈ callNames)
    (hcall : ∀ {s t : Cursor Slot}, t ∈ call.ways s → ∃ r, s.ahead = '(' :: r)
    (h : t ∈ (labelled control call).ways s) : Starts [control.toList] s := by
  have hw := isWordText_callNames _ hname
  obtain ⟨m₁, h₁, htail⟩ := mem_all_cons.1 h
  obtain ⟨m₂, h₂, htail⟩ := mem_all_cons.1 htail
  obtain ⟨m₃, h₃, htail⟩ := mem_all_cons.1 htail
  have hs : s.ahead = control.toList ++ m₂.ahead := by
    obtain ⟨-, rfl⟩ := mem_wordEdge h₁
    exact (reads_lit h₂).ahead
  have hfree := free_of_wordEdge h₁ hs hw
  obtain ⟨u, hu, hub⟩ := mem_blanks h₃
  -- The label closure at the end of a call that starts otherwise opens with a brace.
  have closing {n : Cursor Slot} {i : Slot} (hhead : ∃ c r, m₃.ahead = c :: r ∧ isWord c = false)
      (hn : n.ahead <:+ m₃.ahead) (hi : t ∈ (labelClosure i).ways n) :
      Starts [control.toList] s := by
    obtain ⟨c, r, hr, hc⟩ := hhead
    obtain ⟨r', hr', hopens⟩ := opens_of_labelClosure hi
    refine ⟨hfree, ⟨_, List.mem_singleton_self _, hw, ?_⟩, .inr ⟨r', ?_, hr' ▸ hopens⟩⟩
    · cases u with
      | nil => exact ⟨c, r, by rw [hs, hu.ahead, hr]; rfl, hc⟩
      | cons d u =>
        exact ⟨d, u ++ m₃.ahead, by rw [hs, hu.ahead]; rfl,
          isWord_eq_false_of_isBlank (hub d List.mem_cons_self)⟩
    · rw [← hr', hs, hu.ahead, ← List.append_assoc]
      exact hn.trans (List.suffix_append _ _)
  obtain ⟨p, hp, halt⟩ := mem_any.1 htail
  simp only [List.mem_cons, List.not_mem_nil, or_false] at hp
  rcases hp with rfl | rfl | rfl
  · exact starts_of_labels (List.mem_singleton_self _) hname hs hfree
      (labels_of_mem (mem_all_cons.2 ⟨m₃, h₃, halt⟩))
  · obtain ⟨n₁, hn₁, halt⟩ := mem_all_cons.1 halt
    obtain ⟨n₂, hn₂, halt⟩ := mem_all_cons.1 halt
    obtain ⟨r, hr⟩ := hcall hn₁
    exact closing ⟨_, r, hr, by decide⟩ ((suffix_of_mem hn₂).trans (suffix_of_mem hn₁)) halt
  · obtain ⟨n₁, hn₁, halt⟩ := mem_all_cons.1 halt
    obtain ⟨n₂, hn₂, halt⟩ := mem_all_cons.1 halt
    obtain ⟨n₃, hn₃, halt⟩ := mem_all_cons.1 halt
    obtain ⟨n₄, hn₄, halt⟩ := mem_all_cons.1 halt
    obtain ⟨n, hn, -⟩ := mem_all_cons.1 hn₁
    have hsuffix : n₄.ahead <:+ m₃.ahead :=
      (suffix_of_mem hn₄).trans <| (suffix_of_mem hn₃).trans <|
        (suffix_of_mem hn₂).trans (suffix_of_mem hn₁)
    exact closing ⟨_, n.ahead, mem_char hn, by decide⟩ hsuffix halt

theorem starts_button (h : t ∈ button.ways s) : Starts ["Button".toList] s := by
  refine starts_labelled (by decide) (fun {s t} hcall => ?_) h
  obtain ⟨n, hn, -⟩ := mem_all_cons.1 hcall
  exact ⟨n.ahead, mem_char hn⟩

theorem starts_navigationLink (h : t ∈ navigationLink.ways s) :
    Starts ["NavigationLink".toList] s := by
  refine starts_labelled (by decide) (fun {s t} hcall => ?_) h
  obtain ⟨n, hn, -⟩ := mem_all_cons.1 hcall
  exact ⟨n.ahead, mem_char hn⟩

theorem starts_textInput (h : t ∈ textInput.ways s) :
    Starts ["TextField".toList, "SecureField".toList] s := by
  obtain ⟨m₁, h₁, htail⟩ := mem_all_cons.1 h
  obtain ⟨m₂', h₂', htail⟩ := mem_all_cons.1 htail
  obtain ⟨m₂, h₂, rfl⟩ := mem_capture.1 h₂'
  obtain ⟨-, hm⟩ := mem_wordEdge h₁
  have hlabels : Labels (m₂.capture .control m₁).ahead := labels_of_mem htail
  rcases mem_alt.1 h₂ with h₂ | h₂
  · have hs := hm ▸ (reads_lit h₂).ahead
    exact starts_of_labels (by simp) (by decide) hs (free_of_wordEdge h₁ hs (by decide)) hlabels
  · have hs := hm ▸ (reads_lit h₂).ahead
    exact starts_of_labels (by simp) (by decide) hs (free_of_wordEdge h₁ hs (by decide)) hlabels

theorem starts_toggle (h : t ∈ toggle.ways s) : Starts ["Toggle".toList] s := by
  obtain ⟨m₁, h₁, htail⟩ := mem_all_cons.1 h
  obtain ⟨m₂, h₂, htail⟩ := mem_all_cons.1 htail
  obtain ⟨-, hm⟩ := mem_wordEdge h₁
  have hs := hm ▸ (reads_lit h₂).ahead
  exact starts_of_labels (List.mem_singleton_self _) (by decide) hs
    (free_of_wordEdge h₁ hs (by decide)) (labels_of_mem htail)

theorem starts_staticText (h : t ∈ staticText.ways s) : Starts ["Text".toList] s := by
  obtain ⟨m₁, h₁, htail⟩ := mem_all_cons.1 h
  obtain ⟨m₂, h₂, htail⟩ := mem_all_cons.1 htail
  obtain ⟨hfree, hm⟩ := mem_place.1 h₁
  have hs := hm ▸ (reads_lit h₂).ahead
  refine starts_of_labels (List.mem_singleton_self _) (by decide) hs ?_ (labels_of_mem htail)
  cases hb : s.before with
  | none => rfl
  | some c =>
    rw [hb] at hfree
    simp only [Option.any_some, Bool.not_eq_true', Bool.or_eq_false_iff] at hfree
    simp [hfree.1]

end Grammar

end TestScaffold.Swift
