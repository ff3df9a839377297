import TestScaffold.Proofs.Pattern.Cuts
import TestScaffold.Proofs.Swift.Attachments

namespace TestScaffold.Swift

open Text Pattern

variable {p u v w w' : List Char} {x x' : String}

theorem point_not_mem_blank (h : ∀ c ∈ u, isBlank c = true) : '.' ∉ u := fun hmem =>
  absurd (h _ hmem) (by decide)

def IsAttached (w : List Char) (id : String) : Prop :=
  ∃ p l, w = p ++ '"' :: (l ++ ['"']) ∧ IsMarker p ∧ l ≠ [] ∧ (∀ c ∈ l, c ≠ '"' ∧ c ≠ '\n') ∧
    id = String.ofList l

theorem IsMarker.point_not_mem_tail (h : IsMarker p) : '.' ∉ p.tail := by
  rcases h with ⟨u, v, rfl, hu, hv⟩ | ⟨u, v, w, rfl, hu, hv, hw⟩
  · simp [point_not_mem_blank hu, point_not_mem_blank hv]
  · simp [point_not_mem_blank hu, point_not_mem_blank hv, point_not_mem_blank hw]

theorem IsAttached.eq_of_infix (h : IsAttached w x) (h' : IsAttached w' x') (hpart : w' <:+: w) :
    w' = w := by
  obtain ⟨p, l, rfl, hp, -, hl, -⟩ := h
  obtain ⟨p', l', rfl, hp', -, hl', -⟩ := h'
  obtain ⟨s, t, heq⟩ := hpart
  have plain {l : List Char} (hl : ∀ c ∈ l, c ≠ '"' ∧ c ≠ '\n') : '"' ∉ l := fun hmem =>
    (hl _ hmem).1 rfl
  -- Each has two quotes, so both of `w` are in the part that is `w'`.
  have hs : '"' ∉ s := by
    have hcount := congrArg (List.count '"') heq
    simp only [List.count_append, List.count_cons_self, List.count_nil,
      List.count_eq_zero_of_not_mem (plain hl), List.count_eq_zero_of_not_mem (plain hl'),
      List.count_eq_zero_of_not_mem hp.quote_not_mem,
      List.count_eq_zero_of_not_mem hp'.quote_not_mem] at hcount
    exact List.count_eq_zero.1 (by omega)
  have hfront : '"' ∉ s ++ p' := by simp [hs, hp'.quote_not_mem]
  have hquotes : (s ++ p') ++ '"' :: (l' ++ '"' :: t) = p ++ '"' :: (l ++ '"' :: []) := by
    rw [← heq]
    simp
  obtain ⟨rfl, hrest⟩ := quote_unique hfront hp.quote_not_mem hquotes
  obtain ⟨rfl, -⟩ := quote_unique (plain hl') (plain hl) hrest
  obtain ⟨q, rfl⟩ := hp'.head
  cases s with
  | nil => rfl
  | cons c s =>
    -- The part starts with a point, and the marker has no other one than its own first.
    have hpoint := hp.point_not_mem_tail
    simp at hpoint

namespace Grammar

theorem spells_accessibilityIdentifier :
    accessibilityIdentifier.Spells (·.string .identifier) IsAttached where
  form {b o r} t ht := by
    obtain ⟨p, l, n, hread, hp, hne, hl, hkept⟩ := mem_accessibilityIdentifier ht
    exact ⟨_, ⟨p, l, rfl, hp, hne, hl, Found.string_eq hkept⟩, hread⟩
  found := by
    rintro w x ⟨p, l, rfl, hp, hne, hl, rfl⟩ b o r
    obtain ⟨t, n, hprefers, hstop, hkept⟩ :=
      prefers_accessibilityIdentifier (b := b) (o := o) (r := r) hp hne hl
    refine ⟨⟨o, t.offset, t.captures⟩, ?_, ?_, Found.string_eq (by rw [hkept]; rfl)⟩
    · have htext : p ++ '"' :: (l ++ ['"']) ++ r = p ++ '"' :: (l ++ '"' :: r) := by simp
      rw [htext]
      exact hprefers.here?
    · rw [hstop]
      simp
      omega
  part h h' hpart := h.eq_of_infix h' hpart
  ne_nil := by
    rintro w x ⟨p, l, rfl, -⟩
    simp

end Grammar

theorem identifier?_nil : identifier? [] = none := by
  rw [identifier?, search?, searchFrom, Grammar.spells_accessibilityIdentifier.here?_nil]
  rfl

theorem identifier?_append (h : identifier? u = some x) (v : List Char) :
    identifier? (u ++ v) = some x := by
  obtain ⟨m, hm, rfl⟩ := Option.map_eq_some_iff.1 h
  obtain ⟨m', hm', hsame⟩ := Grammar.spells_accessibilityIdentifier.search?_append hm v
  rw [identifier?, hm', Option.map_some, hsame]

def IsModifier (w : List Char) (x : String) : Prop :=
  ∃ (i : Identifier) (u : List Char), w = '.' :: (i.text ++ u ++ ['(']) ∧
    (∀ c ∈ u, isBlank c = true) ∧ x = String.ofList i.text

theorem IsModifier.eq_of_infix (h : IsModifier w x) (h' : IsModifier w' x') (hpart : w' <:+: w) :
    w' = w := by
  obtain ⟨i, u, rfl, hu, -⟩ := h
  obtain ⟨i', u', rfl, hu', -⟩ := h'
  obtain ⟨s, t, heq⟩ := hpart
  -- Between the point at the start and the parenthesis at the end there are no others.
  have plain {c : Char} (hname : isNameChar c = false) (hblank : isBlank c = false) (i : Identifier)
      {u : List Char} (hu : ∀ c ∈ u, isBlank c = true) : c ∉ i.text ++ u := by
    intro hmem
    rcases List.mem_append.1 hmem with hmem | hmem
    · simp [i.isNameChar_of_mem c hmem] at hname
    · simp [hu c hmem] at hblank
  cases s with
  | nil =>
    have htail : (i'.text ++ u') ++ '(' :: t = (i.text ++ u) ++ '(' :: [] := by
      simpa using heq
    rw [(mark_unique (plain (by decide) (by decide) i' hu')
      (plain (by decide) (by decide) i hu) htail).1]
  | cons c s =>
    have hpoint : '.' ∈ (i.text ++ u) ++ ['('] := by
      rw [← (List.cons.inj heq).2]
      simp
    rcases List.mem_append.1 hpoint with hpoint | hpoint
    · exact absurd hpoint (plain (by decide) (by decide) i hu)
    · exact absurd hpoint (by decide)

namespace Grammar

theorem spells_modifier : modifier.Spells (·.string .name) IsModifier where
  form {b o r} t ht := by
    obtain ⟨m₁, h₁, ht⟩ := mem_all_cons.1 ht
    obtain ⟨m₂', h₂', ht⟩ := mem_all_cons.1 ht
    obtain ⟨m₂, h₂, rfl⟩ := mem_capture.1 h₂'
    obtain ⟨m₃, h₃, ht⟩ := mem_all_cons.1 ht
    obtain ⟨i, hi⟩ := mem_name h₂
    obtain ⟨u, hu, hblank⟩ := mem_blanks h₃
    have hblanks : blanks.Captures .name fun _ => False := trivial
    have hclose : (Pattern.char '(' : Grammar).Captures .name fun _ => False := trivial
    have hkept : t.captures.find? (·.1 = .name) = some (.name, m₁.upTo m₂) := by
      rw [hclose.find?_eq ht, hblanks.find?_eq h₃]
      rfl
    rw [Cursor.upTo, hi.ahead, hi.offset, Nat.add_sub_cancel_left] at hkept
    refine ⟨_, ⟨i, u, rfl, hblank, Found.string_eq hkept⟩, ?_⟩
    have hread := (reads_char h₁).trans <| hi.capture.trans <| hu.trans (reads_char ht)
    simpa using hread
  found := by
    rintro w x ⟨i, u, rfl, hu, rfl⟩ b o r
    have hname : ∀ c ∈ (u ++ '(' :: r).head?, isNameChar c = false := by
      cases u with
      | nil =>
        rintro c ⟨⟩
        decide
      | cons c u =>
        rintro d ⟨⟩
        exact isNameChar_eq_false_of_isBlank (hu c List.mem_cons_self)
    have hprefers : modifier.Prefers ⟨b, o, '.' :: (i.text ++ (u ++ '(' :: r)), []⟩ _ :=
      (prefers_char '.').cons <| ((prefers_name i hname).capture rfl .name).cons <|
        (prefers_blanks hu (by simp; decide)).cons (prefers_char '(')
    have htext : '.' :: (i.text ++ u ++ ['(']) ++ r = '.' :: (i.text ++ (u ++ '(' :: r)) := by simp
    rw [htext]
    refine ⟨_, hprefers.here?, ?_, Found.string_eq rfl⟩
    simp
    omega
  part h h' hpart := h.eq_of_infix h' hpart
  ne_nil := by
    rintro w x ⟨i, u, rfl, -⟩
    simp

end Grammar

theorem modifiers_nil : modifiers [] = [] := by
  rw [modifiers, scan, scanFrom, Grammar.spells_modifier.here?_nil]
  rfl

theorem modifiers_prefix (u v : List Char) : modifiers u <+: modifiers (u ++ v) :=
  Grammar.spells_modifier.scan_append u v

end TestScaffold.Swift
