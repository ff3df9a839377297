import TestScaffold.Proofs.Swift.Lexemes

namespace TestScaffold.Swift

open Text Pattern

/-- The inside of a string literal on one line: no quote and no backslash but in an escape. -/
inductive IsLiteral : List Char → Prop
  | nil : IsLiteral []
  | plain {c : Char} {l : List Char} (quote : c ≠ '"') (slash : c ≠ '\\') (line : c ≠ '\n')
      (rest : IsLiteral l) : IsLiteral (c :: l)
  | escape {c : Char} {l : List Char} (line : c ≠ '\n') (rest : IsLiteral l) :
      IsLiteral ('\\' :: c :: l)

theorem isLiteral_of_plain {l : List Char} (h : ∀ c ∈ l, c ≠ '"' ∧ c ≠ '\\' ∧ c ≠ '\n') :
    IsLiteral l := by
  induction l with
  | nil => exact .nil
  | cons c l ih =>
    obtain ⟨quote, slash, line⟩ := h c List.mem_cons_self
    exact .plain quote slash line (ih fun d hd => h d (List.mem_cons_of_mem c hd))

theorem quote_unique {u v r r' : List Char} (hu : '"' ∉ u) (hv : '"' ∉ v)
    (h : u ++ '"' :: r = v ++ '"' :: r') : u = v ∧ r = r' :=
  mark_unique hu hv h

namespace IsLiteral

variable {l x y z : List Char}

theorem escaped (h : IsLiteral l) (hl : l = x ++ '"' :: z) : x.getLast? = some '\\' := by
  induction h generalizing x with
  | nil => simp at hl
  | @plain c l quote slash line rest ih =>
    cases x with
    | nil => exact absurd (List.cons.inj hl).1 quote
    | cons d x =>
      obtain ⟨-, hrest⟩ := List.cons.inj hl
      rw [List.getLast?_cons, ih hrest]
      rfl
  | @escape c l line rest ih =>
    match x with
    | [] => simp at hl
    | [d] => simpa using (List.cons.inj hl).1.symm
    | d :: e :: x =>
      have hrest : l = x ++ '"' :: z := (List.cons.inj (List.cons.inj hl).2).2
      rw [List.getLast?_cons_cons, List.getLast?_cons, ih hrest]
      rfl

theorem inline (h : IsLiteral l) : ∀ c ∈ l, c ≠ '\n' := by
  induction h with
  | nil => simp
  | plain quote slash line rest ih => simpa [line] using ih
  | escape line rest ih => simpa [line] using ih

theorem cut {u v w : List Char} (h : IsLiteral l) (hl : l = x ++ v) (hne : u ≠ []) (hu : '"' ∉ u)
    (hslash : u.getLast? ≠ some '\\') (heq : v ++ '"' :: w = u ++ '"' :: z) : v = u ∧ w = z := by
  by_cases hv : '"' ∈ v
  · obtain ⟨y, y', rfl, hy⟩ := List.eq_append_cons_of_mem hv
    rw [List.append_assoc, List.cons_append] at heq
    obtain ⟨rfl, -⟩ := quote_unique hy hu heq
    have hlast := h.escaped (x := x ++ y) (z := y') (by rw [hl, List.append_assoc])
    rw [List.getLast?_append_of_ne_nil x hne] at hlast
    exact absurd hlast hslash
  · exact quote_unique hv hu heq

end IsLiteral

namespace Grammar

variable {s t : Cursor Slot} {b : Option Char} {o : Nat} {l r : List Char}
  {k : List (Slot × Stretch)}

theorem prefers_stringBody (hl : IsLiteral l) : stringBody.Prefers ⟨b, o, l ++ '"' :: r, k⟩
    ⟨l.getLast?.or b, o + l.length, '"' :: r, k⟩ := by
  induction hl generalizing b o with
  | nil => exact prefers_star_stop (by simp [stringUnit, except, char, ways])
  | @plain c l quote slash line rest ih =>
    rw [last_cons, add_length_cons]
    have hunit : stringUnit.Prefers ⟨b, o, c :: (l ++ '"' :: r), k⟩
        ⟨some c, o + 1, l ++ '"' :: r, k⟩ :=
      Prefers.left (prefers_one (by simp [quote, slash, line])) _
    exact hunit.star (Nat.lt_succ_self o) ih
  | @escape c l line rest ih =>
    rw [last_cons, add_length_cons, last_cons, add_length_cons]
    have hunit : stringUnit.Prefers ⟨b, o, '\\' :: c :: (l ++ '"' :: r), k⟩
        ⟨some c, o + 1 + 1, l ++ '"' :: r, k⟩ :=
      Prefers.right (by simp [except, ways])
        ((prefers_char '\\').seq (prefers_one (by simp [line])))
    exact hunit.star (Nat.lt_add_of_pos_right Nat.two_pos) ih

theorem prefers_string (hl : IsLiteral l) (i : Slot) :
    (string i).Prefers ⟨b, o, '"' :: (l ++ '"' :: r), k⟩
      ⟨some '"', o + 1 + l.length + 1, r, (i, ⟨o + 1, l ++ '"' :: r, l.length⟩) :: k⟩ :=
  (prefers_char '"').cons (((prefers_stringBody hl).capture rfl i).cons (prefers_char '"'))

theorem over_stringBody : stringBody.Over fun c => c ≠ '\n' := by
  simp [stringBody, stringUnit, Pattern.star, Over, except, Pattern.char]

theorem mem_string {i : Slot} (h : t ∈ (string i).ways s) :
    ∃ l, s.ahead = '"' :: (l ++ '"' :: t.ahead) ∧ '\n' ∉ l := by
  obtain ⟨m, hm, h⟩ := mem_all_cons.1 h
  obtain ⟨n', hn', h⟩ := mem_all_cons.1 h
  obtain ⟨n, hn, rfl⟩ := mem_capture.1 hn'
  obtain ⟨c, hc, hopen⟩ := reads_one hm
  obtain ⟨d, hd, hclose⟩ := reads_one h
  obtain ⟨l, hl, hline⟩ := over_stringBody.reads hn
  obtain rfl := eq_of_beq hc
  obtain rfl := eq_of_beq hd
  refine ⟨l, ?_, fun hmem => hline '\n' hmem rfl⟩
  have hbody : n.ahead = '"' :: t.ahead := hclose.ahead
  rw [hopen.ahead, hl.ahead, hbody]
  rfl

end Grammar

end TestScaffold.Swift
