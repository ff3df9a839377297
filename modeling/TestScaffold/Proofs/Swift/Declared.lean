import TestScaffold.Proofs.Swift.Lexemes

namespace TestScaffold.Swift

open Text Pattern

def isLeadChar (c : Char) : Bool := isWord c || isBlank c || c == '(' || c == ')'

def isSmall (c : Char) : Bool := 'a' ≤ c && c ≤ 'z'

structure Introduced (keywords : List (List Char)) (s : Cursor Slot) : Prop where
  free : s.before.any isWord = false
  small : ∃ c, s.ahead.head? = some c ∧ isSmall c = true
  keyword : ∃ w ∈ keywords, ∃ u c r, s.ahead = u ++ w ++ c :: r ∧ isBlank c = true ∧
    (∀ d ∈ u, isLeadChar d = true) ∧ (u.getLast?.or s.before).any isWord = false

def Introduces (keywords : List (List Char)) (p : Grammar) : Prop :=
  ∀ s, ∀ t ∈ p.ways s, Introduced keywords s

def IsSmallWord (w : List Char) : Prop := w ≠ [] ∧ ∀ c ∈ w, isSmall c = true

instance (w : List Char) : Decidable (IsSmallWord w) := inferInstanceAs (Decidable (_ ∧ _))

theorem isWord_of_isSmall {c : Char} (h : isSmall c = true) : isWord c = true := by
  have hletter : isAsciiLetter c = true := by
    rw [isAsciiLetter, show ('a' ≤ c && c ≤ 'z') = true from h]
    rfl
  simp [isWord, hletter]

theorem IsSmallWord.isWordText {w : List Char} (h : IsSmallWord w) : IsWordText w :=
  ⟨h.1, fun c hc => isWord_of_isSmall (h.2 c hc)⟩

namespace Grammar

variable {s t : Cursor Slot} {extra : List String}

def qualifierRound (extra : List String) : Grammar :=
  all [wordEdge, any ((access ++ extra).map lit), setterMark, someBlanks]

theorem over_qualifierRound (h : ∀ w ∈ access ++ extra, IsSmallWord w.toList) :
    (qualifierRound extra).Over fun c => isLeadChar c = true := by
  have hwords : (any ((access ++ extra).map lit) : Grammar).Over fun c => isLeadChar c = true := by
    refine over_any fun p hp => ?_
    obtain ⟨w, hw, rfl⟩ := List.mem_map.1 hp
    refine over_lit fun c hc => ?_
    simp [isLeadChar, isWord_of_isSmall ((h w hw).2 c hc)]
  have hblank : blank.Over fun c => isLeadChar c = true := fun c hc => by
    simp [isLeadChar, show isBlank c = true from hc]
  exact ⟨trivial, hwords, ⟨over_lit (by decide), trivial⟩, hblank, hblank⟩

theorem mem_qualifiers (h : ∀ w ∈ access ++ extra, IsSmallWord w.toList)
    (ht : t ∈ (qualifiers extra).ways s) : ∃ u, s.Reads u t ∧ (∀ c ∈ u, isLeadChar c = true) ∧
      (u = [] ∨ s.before.any isWord = false ∧ ∃ c, s.ahead.head? = some c ∧ isSmall c = true) := by
  obtain ⟨m, hm, rfl⟩ := mem_capture.1 ht
  have hover : (qualifierRound extra).star.Over fun c => isLeadChar c = true :=
    over_qualifierRound h
  obtain ⟨u, hu, hlead⟩ := hover.reads hm
  refine ⟨u, hu.capture, hlead, ?_⟩
  rcases mem_star.1 hm with ⟨n, hn, -, -⟩ | rfl
  · obtain ⟨m₁, h₁, hn⟩ := mem_all_cons.1 hn
    obtain ⟨m₂, h₂, -⟩ := mem_all_cons.1 hn
    obtain ⟨p, hp, h₂⟩ := mem_any.1 h₂
    obtain ⟨w, hw, rfl⟩ := List.mem_map.1 hp
    obtain ⟨-, hm₁⟩ := mem_wordEdge h₁
    have hs := hm₁ ▸ (reads_lit h₂).ahead
    refine .inr ⟨free_of_wordEdge h₁ hs (h w hw).isWordText, ?_⟩
    obtain ⟨c, v, hv⟩ := List.exists_cons_of_ne_nil (h w hw).1
    exact ⟨c, by rw [hs, hv]; rfl, (h w hw).2 c (hv ▸ List.mem_cons_self)⟩
  · have hlen := hu.offset
    exact .inl (List.eq_nil_of_length_eq_zero (by omega))

theorem introduced_of_reads {keywords : List (List Char)} {w : List Char} {m n l : Cursor Slot}
    (h : ∀ w ∈ access ++ extra, IsSmallWord w.toList) (hmem : w ∈ keywords) (hw : IsSmallWord w)
    (hqualifiers : m ∈ (qualifiers extra).ways s) (hedge : n ∈ wordEdge.ways m)
    (hkeyword : n.Reads w l) (hblanks : t ∈ someBlanks.ways l) : Introduced keywords s := by
  obtain ⟨u, hu, hlead, hstart⟩ := mem_qualifiers h hqualifiers
  obtain ⟨c, v, hv, hc, -⟩ := mem_someBlanks hblanks
  obtain ⟨-, hn⟩ := mem_wordEdge hedge
  subst hn
  have hfree := free_of_wordEdge hedge hkeyword.ahead hw.isWordText
  have hahead : s.ahead = u ++ w ++ c :: (v ++ t.ahead) := by
    rw [hu.ahead, hkeyword.ahead, hv.ahead]
    simp
  have hkey : ∃ w ∈ keywords, ∃ u c r, s.ahead = u ++ w ++ c :: r ∧ isBlank c = true ∧
      (∀ d ∈ u, isLeadChar d = true) ∧ (u.getLast?.or s.before).any isWord = false :=
    ⟨w, hmem, u, c, _, hahead, hc, hlead, by rw [← hu.before]; exact hfree⟩
  rcases hstart with rfl | ⟨hbefore, hsmall⟩
  · obtain ⟨d, x, rfl⟩ := List.exists_cons_of_ne_nil hw.1
    refine ⟨?_, ⟨d, by rw [hahead]; rfl, hw.2 d List.mem_cons_self⟩, hkey⟩
    rw [hu.before] at hfree
    exact hfree
  · exact ⟨hbefore, hsmall, hkey⟩

theorem introduces_function : Introduces ["func".toList] function := by
  rintro s t h
  obtain ⟨m₁, h₁, h⟩ := mem_all_cons.1 h
  obtain ⟨m₂, h₂, h⟩ := mem_all_cons.1 h
  obtain ⟨m₃, h₃, h⟩ := mem_all_cons.1 h
  obtain ⟨m₄, h₄, -⟩ := mem_all_cons.1 h
  exact introduced_of_reads (by decide) (List.mem_singleton_self _) (by decide) h₁ h₂ (reads_lit h₃) h₄

theorem introduces_property : Introduces ["var".toList, "let".toList] property := by
  rintro s t h
  obtain ⟨m₁, h₁, h⟩ := mem_all_cons.1 h
  obtain ⟨m₂, h₂, h⟩ := mem_all_cons.1 h
  obtain ⟨m₃', h₃', h⟩ := mem_all_cons.1 h
  obtain ⟨m₃, h₃, rfl⟩ := mem_capture.1 h₃'
  obtain ⟨m₄, h₄, -⟩ := mem_all_cons.1 h
  obtain ⟨p, hp, h₃⟩ := mem_any.1 h₃
  simp only [List.mem_cons, List.not_mem_nil, or_false] at hp
  rcases hp with rfl | rfl
  · exact introduced_of_reads (by decide) (by simp) (by decide) h₁ h₂ (reads_lit h₃).capture h₄
  · exact introduced_of_reads (by decide) (by simp) (by decide) h₁ h₂ (reads_lit h₃).capture h₄

end Grammar

namespace Introduces

variable {keywords : List (List Char)} {p : Grammar} {b : Option Char} {u r X : List Char} {stop : Char}

theorem ways_eq_nil (h : Introduces keywords p) {s : Cursor Slot} (hs : ¬ Introduced keywords s) :
    p.ways s = [] :=
  List.eq_nil_iff_forall_not_mem.2 fun t ht => hs (h s t ht)

theorem silent_noSmall (h : Introduces keywords p) (hu : ∀ c ∈ u, isSmall c = false) :
    p.Silent b u r := by
  rintro a c v rfl o
  refine h.ways_eq_nil fun hs => ?_
  obtain ⟨d, hd, hsmall⟩ := hs.small
  obtain rfl : c = d := by simpa using hd
  simp [hu c (by simp)] at hsmall

theorem silent_capital (h : Introduces keywords p) (hu : ∀ c ∈ u, isWord c = true)
    (hhead : ∀ c ∈ u.head?, isSmall c = false) : p.Silent b u r := by
  rintro a c v rfl o
  refine h.ways_eq_nil fun hs => ?_
  rcases List.eq_nil_or_concat a with rfl | ⟨a, x, rfl⟩
  · obtain ⟨d, hd, hsmall⟩ := hs.small
    obtain rfl : c = d := by simpa using hd
    simp [hhead c (by simp)] at hsmall
  · have hfree := hs.free
    simp [hu x (by simp)] at hfree

theorem silent_front (h : Introduces keywords p) (hX : ∀ w ∈ keywords, ¬ Stands w X)
    (hw : ∀ w ∈ keywords, IsSmallWord w) (hstop : isLeadChar stop = false) :
    p.Silent b X (stop :: r) := by
  rintro a c v rfl o
  refine h.ways_eq_nil fun hs => ?_
  obtain ⟨w, hmem, u, d, r', hahead, hd, hlead, hfree⟩ := hs.keyword
  have hnot : stop ∉ u ++ w ++ [d] := by
    have hblank : isLeadChar d = true := by simp [isLeadChar, hd]
    have hword : ∀ x ∈ w, isLeadChar x = true := fun x hx => by
      simp [isLeadChar, isWord_of_isSmall ((hw w hmem).2 x hx)]
    intro hs
    simp only [List.mem_append, List.mem_singleton] at hs
    rcases hs with (hs | hs) | rfl
    · simp [hlead stop hs] at hstop
    · simp [hword stop hs] at hstop
    · simp [hblank] at hstop
  have heq : c :: v ++ stop :: r = (u ++ w ++ [d]) ++ r' := by
    rw [List.append_assoc _ [d]]
    exact hahead
  -- None of these characters is the one that stops, so all of them are read before it.
  have hprefix : ∃ x, c :: v = (u ++ w ++ [d]) ++ x := by
    rcases List.append_eq_append_iff.1 heq with ⟨x, hx, hr⟩ | ⟨x, hx, -⟩
    · cases x with
      | nil => exact ⟨[], by simpa using hx.symm⟩
      | cons e x =>
        obtain ⟨rfl, -⟩ := List.cons.inj hr
        exact absurd (hx ▸ by simp) hnot
    · exact ⟨x, hx⟩
  obtain ⟨x, hx⟩ := hprefix
  refine hX w hmem ⟨a ++ u, d, x, by rw [hx]; simp, ?_, hd⟩
  rw [List.getLast?_append]
  cases hu : u.getLast? with
  | some y => simpa [hu] using hfree
  | none => cases ha : a.getLast? <;> simp_all

end Introduces

end TestScaffold.Swift
