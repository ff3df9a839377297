import TestScaffold.Extraction
import TestScaffold.Proofs.Swift.Declared

namespace TestScaffold.Swift

open Text Pattern

inductive IsShallow : List Char → Prop
  | nil : IsShallow []
  | plain {c : Char} {p : List Char} (opening : c ≠ '(') (closing : c ≠ ')') (rest : IsShallow p) :
      IsShallow (c :: p)
  | group {u p : List Char} (inside : ∀ c ∈ u, c ≠ '(' ∧ c ≠ ')') (rest : IsShallow p) :
      IsShallow ('(' :: (u ++ ')' :: p))

structure ParameterText where
  text : List Char
  shallow : IsShallow text
  free : ∀ w ∈ ["func", "var", "let"], ¬ HasWord w.toList text

structure ReturnText where
  text : List Char
  ne_nil : text ≠ []
  stripped : strip text = text
  line : '\n' ∉ text
  brace : '\x7b' ∉ text
  free : ∀ w ∈ ["func", "var", "let", "where"], ¬ HasWord w.toList text

structure TypeIdentifier extends Identifier where
  capital : 'A' ≤ first ∧ first ≤ 'Z'

structure TypeWord where
  first : Char
  rest : List Char
  capital : 'A' ≤ first ∧ first ≤ 'Z'
  word : ∀ c ∈ rest, isWord c = true

theorem isSmall_eq_false_of_capital {c : Char} (h : 'A' ≤ c ∧ c ≤ 'Z') : isSmall c = false := by
  have hle : c.toNat ≤ 'Z'.toNat := (char_le_iff _ _).1 h.2
  rw [isSmall, Bool.and_eq_false_iff, decide_eq_false_iff_not, char_le_iff]
  simp only [Char.reduceToNat] at *
  omega

theorem TypeIdentifier.not_small (t : TypeIdentifier) : ∀ c ∈ t.text.head?, isSmall c = false := by
  rintro c ⟨⟩
  exact isSmall_eq_false_of_capital t.capital

namespace TypeWord

def text (u : TypeWord) : List Char := u.first :: u.rest

theorem isNameStart_first (u : TypeWord) : isNameStart u.first = true := by
  simp [isNameStart, isAsciiLetter, u.capital.1, u.capital.2]

theorem isWordText (u : TypeWord) : IsWordText u.text := by
  refine ⟨by simp [text], fun c hc => ?_⟩
  rcases List.mem_cons.1 hc with rfl | hc
  · exact isWord_of_isNameChar (by simp [isNameChar, u.isNameStart_first])
  · exact u.word c hc

theorem not_isBlank_head? (u : TypeWord) (r : List Char) :
    ∀ c ∈ (u.text ++ r).head?, isBlank c = false := by
  rintro c ⟨⟩
  exact isBlank_eq_false_of_isWord (u.isWordText.2 _ List.mem_cons_self)

theorem not_small (u : TypeWord) : ∀ c ∈ u.text.head?, isSmall c = false := by
  rintro c ⟨⟩
  exact isSmall_eq_false_of_capital u.capital

end TypeWord

inductive Form where
  | function (parameters : ParameterText) (isAsync isThrowing : Bool) (returns : Option ReturnText)
  | property (type : TypeWord)

structure Member where
  isStatic : Bool
  name : Identifier
  form : Form

def effectWords (isAsync isThrowing : Bool) : List String :=
  (if isAsync then ["async"] else []) ++ (if isThrowing then ["throws"] else [])

def staticMark (isStatic : Bool) : List Char := if isStatic then "static ".toList else []

def returnsText : Option ReturnText → List Char
  | none => []
  | some r => " -> ".toList ++ r.text

namespace Form

def keyword : Form → String
  | .function .. => "func"
  | .property _ => "var"

def text : Form → List Char
  | .function p isAsync isThrowing r =>
    '(' :: (p.text ++ ')' :: ((effectWords isAsync isThrowing).flatMap (fun w => ' ' :: w.toList) ++
      (returnsText r ++ " \x7b\x7d".toList)))
  | .property u => ": ".toList ++ u.text

end Form

namespace Member

def front (m : Member) : List Char := staticMark m.isStatic ++ (m.form.keyword.toList ++ [' '])

def line (m : Member) : List Char := m.front ++ (m.name.text ++ (m.form.text ++ ['\n']))

def fact (m : Member) : Fact :=
  match m.form with
  | .function p isAsync isThrowing r =>
    { kind := .function
      name := String.ofList m.name.text
      isStatic := m.isStatic
      modifiers := effectWords isAsync isThrowing
      declaredType := r.map fun t => String.ofList t.text
      parameters := if allBlank p.text then none else some (String.ofList (strip p.text)) }
  | .property u =>
    { kind := .property
      name := String.ofList m.name.text
      isStatic := m.isStatic
      declaredType := some (String.ofList u.text) }

def factAt (o : Nat) (m : Member) : Fact := { m.fact with position := (o + m.front.length : Nat) }

end Member

section

variable {z : List Char}

def arrowText : Option ReturnText → List Char
  | none => []
  | some r => '-' :: '>' :: ' ' :: (r.text ++ [' '])

theorem behind_eq (ws : List String) (r : Option ReturnText) :
    ws.flatMap (fun w => ' ' :: w.toList) ++ (returnsText r ++ ' ' :: z) =
      ' ' :: (ws.flatMap (fun w => w.toList ++ [' ']) ++ (arrowText r ++ z)) := by
  induction ws with
  | nil => cases r <;> simp [returnsText, arrowText]
  | cons w ws ih => simp only [List.flatMap_cons, List.append_assoc, ih]; simp

end

namespace Member

variable {m : Member} {w z : List Char}

theorem not_stands_front (hw : IsWordText w) (hstatic : w ≠ "static".toList)
    (hkeyword : w ≠ m.form.keyword.toList) (h : ¬ Stands w z) : ¬ Stands w (m.front ++ z) := by
  have hrest : ¬ Stands w (m.form.keyword.toList ++ ' ' :: z) := by
    refine not_stands_word hw (by decide) ?_ (.inl hkeyword) h
    cases m.form <;> simp only [Form.keyword] <;> decide
  rw [front, List.append_assoc, List.append_assoc, List.singleton_append, staticMark]
  split
  · exact not_stands_word (X := "static".toList) hw (by decide) (by decide) (.inl hstatic) hrest
  · exact hrest

end Member

def signature (p : ParameterText) (ws : List String) (r : Option ReturnText) : List Char :=
  '(' :: (p.text ++ ')' :: ' ' :: (ws.flatMap (fun w => w.toList ++ [' ']) ++ arrowText r))

section

variable {m : Member} {w : List Char} {p : ParameterText} {isAsync isThrowing : Bool}
  {r : Option ReturnText} {u : TypeWord}

theorem line_function (h : m.form = .function p isAsync isThrowing r) :
    m.line = (m.front ++ (m.name.text ++ signature p (effectWords isAsync isThrowing) r)) ++
      ['\x7b', '\x7d', '\n'] := by
  have hbehind := behind_eq (z := ['\x7b', '\x7d', '\n']) (effectWords isAsync isThrowing) r
  have hbraces : " \x7b\x7d".toList ++ ['\n'] = ' ' :: ['\x7b', '\x7d', '\n'] := by decide
  rw [Member.line, h, Form.text]
  simp only [List.append_assoc, List.cons_append, signature, hbraces, hbehind]

theorem line_property (h : m.form = .property u) :
    m.line = (m.front ++ m.name.text) ++ (':' :: ' ' :: (u.text ++ ['\n'])) := by
  rw [Member.line, h, Form.text]
  simp

theorem not_stands_spaced {ws : List String} {z : List Char} (hw : IsWordText w)
    (hws : ∀ x ∈ ws, IsWordText x.toList ∧ w ≠ x.toList) (h : ¬ Stands w z) :
    ¬ Stands w (spaced ws ++ z) := by
  induction ws with
  | nil => exact h
  | cons x ws ih =>
    obtain ⟨hx, hne⟩ := hws x List.mem_cons_self
    rw [spaced_cons, List.append_assoc, List.cons_append]
    exact not_stands_word hw (by decide) hx.2 (.inl hne)
      (ih fun y hy => hws y (List.mem_cons_of_mem _ hy))

theorem not_stands_arrow (hw : IsWordText w) (hr : ∀ t ∈ r, ¬ HasWord w t.text) :
    ¬ Stands w (arrowText r) := by
  cases r with
  | none => exact not_stands_of_word (by simp [arrowText])
  | some t =>
    refine not_stands_cons hw (by decide) <| not_stands_cons hw (by decide) <|
      not_stands_cons hw (by decide) <| not_stands_text hw (by decide) (hr t rfl) ?_
    exact not_stands_of_word (by simp)

theorem not_stands_signature (kw : String) (hkw : kw ∈ ["func", "var", "let"]) :
    ¬ Stands kw.toList (m.name.text ++ signature p (effectWords isAsync isThrowing) r) := by
  have hw : IsWordText kw.toList := by
    revert kw
    decide
  have heffects : ∀ x ∈ effectWords isAsync isThrowing,
      IsWordText x.toList ∧ kw.toList ≠ x.toList := by
    revert kw
    cases isAsync <;> cases isThrowing <;> decide
  have hreturns : ∀ t ∈ r, ¬ HasWord kw.toList t.text := fun t _ => t.free kw (by
    simp only [List.mem_cons, List.not_mem_nil, or_false] at hkw ⊢
    rcases hkw with rfl | rfl | rfl <;> simp)
  exact not_stands_word hw (by decide) m.name.isWordText.2 (.inr (by decide)) <|
    not_stands_text hw (by decide) (p.free kw hkw) <| not_stands_cons hw (by decide) <|
    not_stands_spaced hw heffects (not_stands_arrow hw hreturns)

end

namespace Member

variable {m : Member} {p : ParameterText} {isAsync isThrowing : Bool}
  {t : Option ReturnText} {u : TypeWord} {b : Option Char} {r : List Char}

theorem silent_property (h : m.form = .function p isAsync isThrowing t) :
    Grammar.property.Silent b m.line r := by
  have hfront : ∀ w ∈ ["var".toList, "let".toList], ¬ Stands w
      (m.front ++ (m.name.text ++ signature p (effectWords isAsync isThrowing) t)) := by
    have hkeyword : m.form.keyword = "func" := by rw [h]; rfl
    rintro w hw
    simp only [List.mem_cons, List.not_mem_nil, or_false] at hw
    rcases hw with rfl | rfl
    · exact not_stands_front (by decide) (by decide) (by rw [hkeyword]; decide)
        (not_stands_signature "var" (by decide))
    · exact not_stands_front (by decide) (by decide) (by rw [hkeyword]; decide)
        (not_stands_signature "let" (by decide))
  rw [line_function h]
  exact (Grammar.introduces_property.silent_front hfront (by decide) (by decide)).append
    (Grammar.introduces_property.silent_noSmall (by decide))

theorem silent_function (h : m.form = .property u) : Grammar.function.Silent b m.line r := by
  have hfront : ∀ w ∈ ["func".toList], ¬ Stands w (m.front ++ m.name.text) := by
    have hkeyword : m.form.keyword = "var" := by rw [h]; rfl
    rintro w hw
    obtain rfl := List.mem_singleton.1 hw
    exact not_stands_front (by decide) (by decide) (by rw [hkeyword]; decide)
      (not_stands_of_word m.name.isWordText.2)
  rw [line_property h]
  refine (Grammar.introduces_function.silent_front hfront (by decide) (by decide)).append ?_
  refine (Grammar.introduces_function.silent_noSmall (u := [':', ' ']) (by decide)).append ?_
  exact (Grammar.introduces_function.silent_capital u.isWordText.2 u.not_small).append
    (Grammar.introduces_function.silent_noSmall (by decide))

end Member

end TestScaffold.Swift
