import TestScaffold.Proofs.Swift.Literals
import TestScaffold.Swift.Body

namespace TestScaffold.Swift

variable {d : Nat} {c : Char} {l u r : List Char}

def isPlain (c : Char) : Bool := !(['"', '/', '\x7b', '\x7d'].contains c)

theorem upToClose_plain (hc : isPlain c = true) :
    upToClose .code d (c :: r) = (upToClose .code d r).map (c :: ·) := by
  rw [upToClose.eq_def]
  split <;> simp_all [isPlain]

theorem upToClose_plains (hu : ∀ c ∈ u, isPlain c = true) :
    upToClose .code d (u ++ r) = (upToClose .code d r).map (u ++ ·) := by
  induction u with
  | nil => simp
  | cons c u ih =>
    rw [List.cons_append, upToClose_plain (hu c List.mem_cons_self),
      ih fun x hx => hu x (List.mem_cons_of_mem _ hx), Option.map_map]
    rfl

theorem upToClose_unit (quote : c ≠ '"') (slash : c ≠ '\\') (line : c ≠ '\n') :
    upToClose .string d (c :: r) = (upToClose .string d r).map (c :: ·) := by
  rw [upToClose.eq_def]
  split <;> simp_all

theorem upToClose_quote (hc : c ≠ '"') :
    upToClose .code d ('"' :: c :: r) = (upToClose .string d (c :: r)).map ('"' :: ·) := by
  rw [upToClose.eq_def]
  simp only
  split <;> simp_all

theorem upToClose_escape :
    upToClose .string d ('\\' :: c :: r) = (upToClose .string d r).map ('\\' :: c :: ·) := by
  rw [upToClose]
  rfl

theorem upToClose_stringEnd (ending : c = '"' ∨ c = '\n') :
    upToClose .string d (c :: r) = (upToClose .code d r).map (c :: ·) := by
  rcases ending with rfl | rfl <;> simp [upToClose]

/-- The inside of a string literal as the search reads it: a backslash takes any character with it. -/
inductive StringUnits : List Char → Prop
  | nil : StringUnits []
  | escape {c : Char} {u : List Char} (rest : StringUnits u) : StringUnits ('\\' :: c :: u)
  | plain {c : Char} {u : List Char} (quote : c ≠ '"') (slash : c ≠ '\\') (line : c ≠ '\n')
      (rest : StringUnits u) : StringUnits (c :: u)

theorem upToClose_units (units : StringUnits u) (ending : c = '"' ∨ c = '\n') :
    upToClose .string d (u ++ c :: r) = (upToClose .code d r).map (u ++ c :: ·) := by
  induction units with
  | nil => exact upToClose_stringEnd ending
  | escape rest ih =>
    rw [List.cons_append, List.cons_append, upToClose_escape, ih, Option.map_map]
    rfl
  | plain quote slash line rest ih =>
    rw [List.cons_append, upToClose_unit quote slash line, ih, Option.map_map]
    rfl

theorem IsLiteral.stringUnits (hl : IsLiteral l) : StringUnits l := by
  induction hl with
  | nil => exact .nil
  | plain quote slash line rest ih => exact .plain quote slash line ih
  | escape line rest ih => exact .escape ih

theorem upToClose_inString (hl : IsLiteral l) :
    upToClose .string d (l ++ '"' :: r) = (upToClose .code d r).map (l ++ '"' :: ·) :=
  upToClose_units hl.stringUnits (.inl rfl)

theorem IsLiteral.head_ne (hl : IsLiteral (c :: l)) : c ≠ '"' := by
  cases hl with
  | plain quote => exact quote
  | escape => decide

theorem upToClose_literal (hl : IsLiteral l) (hne : l ≠ []) :
    upToClose .code d ('"' :: (l ++ '"' :: r)) =
      (upToClose .code d r).map fun x => '"' :: (l ++ '"' :: x) := by
  obtain ⟨c, v, rfl⟩ := List.exists_cons_of_ne_nil hne
  have hstring := upToClose_inString (d := d) (r := r) hl
  rw [List.cons_append] at hstring ⊢
  rw [upToClose_quote hl.head_ne, hstring, Option.map_map]
  rfl

theorem upToClose_braces : upToClose .code d ('\x7b' :: '\x7d' :: r) =
    (upToClose .code d r).map ('\x7b' :: '\x7d' :: ·) := by
  rw [upToClose.eq_def]
  simp only
  rw [upToClose.eq_def]
  simp [Option.map_map, Function.comp_def]

end TestScaffold.Swift
