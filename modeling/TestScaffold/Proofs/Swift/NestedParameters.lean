import TestScaffold.Proofs.Pattern.Captures
import TestScaffold.Proofs.Swift.MemberPasses

namespace TestScaffold.Swift

open Text Pattern

variable {p q r r' : List Char} {c : Char} {d n : Nat}

def levelAfter? (d : Nat) (c : Char) : Option Nat :=
  if c = '(' then some (d + 1)
  else if c = ')' then (if d = 0 then none else some (d - 1))
  else some d

def nestingFrom? : Nat → List Char → Option Nat
  | d, [] => if d = 0 then some 0 else none
  | d, c :: cs => (levelAfter? d c).bind fun e => (nestingFrom? e cs).map (max e)

/-- How deep parentheses are nested, if they are balanced. -/
def nesting? (cs : List Char) : Option Nat := nestingFrom? 0 cs

theorem levelAfter?_plain (opening : c ≠ '(') (closing : c ≠ ')') : levelAfter? d c = some d := by
  rw [levelAfter?, if_neg opening, if_neg closing]

theorem nestingFrom?_cons_eq_some : nestingFrom? d (c :: p) = some n ↔
    ∃ e m, levelAfter? d c = some e ∧ nestingFrom? e p = some m ∧ max e m = n := by
  simp [nestingFrom?, Option.bind_eq_some_iff]

theorem eq_zero_of_nestingFrom?_nil (h : nestingFrom? d [] = some n) : d = 0 := by
  rw [nestingFrom?] at h
  split at h
  · assumption
  · cases h

theorem nesting_unique {m : Nat} (hp : nestingFrom? d p = some n) (hq : nestingFrom? d q = some m)
    (h : p ++ ')' :: r = q ++ ')' :: r') : p = q := by
  have hclosed {cs : List Char} {n : Nat} : nestingFrom? 0 (')' :: cs) ≠ some n := by
    simp [nestingFrom?, levelAfter?]
  induction p generalizing d n m q with
  | nil =>
    obtain rfl := eq_zero_of_nestingFrom?_nil hp
    cases q with
    | nil => rfl
    | cons c q =>
      obtain ⟨rfl, -⟩ := List.cons.inj h
      exact absurd hq hclosed
  | cons c p ih =>
    cases q with
    | nil =>
      obtain rfl := eq_zero_of_nestingFrom?_nil hq
      obtain ⟨rfl, -⟩ := List.cons.inj h
      exact absurd hp hclosed
    | cons c' q =>
      obtain ⟨rfl, hrest⟩ := List.cons.inj h
      obtain ⟨e, _, he, hp', -⟩ := nestingFrom?_cons_eq_some.1 hp
      obtain ⟨e', _, he', hq', -⟩ := nestingFrom?_cons_eq_some.1 hq
      obtain rfl := Option.some.inj (he.symm.trans he')
      rw [ih hp' hq' hrest]

namespace IsShallow

theorem append (hp : IsShallow p) (hq : IsShallow q) : IsShallow (p ++ q) := by
  induction hp with
  | nil => exact hq
  | plain opening closing _ ih => exact .plain opening closing ih
  | group inside _ ih =>
    rw [List.cons_append, List.append_assoc, List.cons_append]
    exact .group inside ih

theorem nestingFrom?_group {u : List Char} (inside : ∀ c ∈ u, c ≠ '(' ∧ c ≠ ')')
    (h : ∃ n ≤ 1, nestingFrom? 0 p = some n) : ∃ n ≤ 1, nestingFrom? 1 (u ++ ')' :: p) = some n := by
  induction u with
  | nil =>
    obtain ⟨n, hn, h⟩ := h
    exact ⟨_, by omega, nestingFrom?_cons_eq_some.2 ⟨0, n, rfl, h, rfl⟩⟩
  | cons c u ih =>
    rw [List.forall_mem_cons] at inside
    obtain ⟨n, hn, hu⟩ := ih inside.2
    exact ⟨_, by omega,
      nestingFrom?_cons_eq_some.2 ⟨1, n, levelAfter?_plain inside.1.1 inside.1.2, hu, rfl⟩⟩

theorem nesting (h : IsShallow p) : ∃ n ≤ 1, nesting? p = some n := by
  induction h with
  | nil => exact ⟨0, by omega, rfl⟩
  | plain opening closing _ ih =>
    obtain ⟨n, hn, h⟩ := ih
    exact ⟨_, by omega, nestingFrom?_cons_eq_some.2 ⟨0, n, levelAfter?_plain opening closing, h, rfl⟩⟩
  | group inside _ ih =>
    obtain ⟨n, hn, h⟩ := nestingFrom?_group inside ih
    exact ⟨_, by omega, nestingFrom?_cons_eq_some.2 ⟨1, n, rfl, h, rfl⟩⟩

theorem of_nestingFrom (p : List Char) :
    (∀ n ≤ 1, nestingFrom? 0 p = some n → IsShallow p) ∧
    (∀ n ≤ 1, nestingFrom? 1 p = some n →
      ∃ u q, p = u ++ ')' :: q ∧ (∀ c ∈ u, c ≠ '(' ∧ c ≠ ')') ∧ IsShallow q) := by
  induction p with
  | nil =>
    refine ⟨fun _ _ _ => .nil, fun n _ h => ?_⟩
    exact absurd (eq_zero_of_nestingFrom?_nil h) (by omega)
  | cons c p ih =>
    obtain ⟨ih₀, ih₁⟩ := ih
    constructor
    · intro n hn h
      obtain ⟨e, m, he, hm, rfl⟩ := nestingFrom?_cons_eq_some.1 h
      by_cases hopen : c = '('
      · subst hopen
        obtain rfl : 1 = e := Option.some.inj he
        obtain ⟨u, q, rfl, hu, hq⟩ := ih₁ m (by omega) hm
        exact .group hu hq
      by_cases hclose : c = ')'
      · subst hclose
        cases he
      · obtain rfl : 0 = e := Option.some.inj ((levelAfter?_plain hopen hclose).symm.trans he)
        exact .plain hopen hclose (ih₀ m (by omega) hm)
    · intro n hn h
      obtain ⟨e, m, he, hm, rfl⟩ := nestingFrom?_cons_eq_some.1 h
      by_cases hopen : c = '('
      · subst hopen
        obtain rfl : 2 = e := Option.some.inj he
        omega
      by_cases hclose : c = ')'
      · subst hclose
        obtain rfl : 0 = e := Option.some.inj he
        exact ⟨[], p, rfl, by simp, ih₀ m (by omega) hm⟩
      · obtain rfl : 1 = e := Option.some.inj ((levelAfter?_plain hopen hclose).symm.trans he)
        obtain ⟨u, q, rfl, hu, hq⟩ := ih₁ m (by omega) hm
        exact ⟨c :: u, q, rfl, List.forall_mem_cons.2 ⟨⟨hopen, hclose⟩, hu⟩, hq⟩

end IsShallow

theorem isShallow_iff (h : nesting? p = some n) : IsShallow p ↔ n ≤ 1 := by
  constructor
  · intro hp
    obtain ⟨m, hm, hnesting⟩ := hp.nesting
    obtain rfl := Option.some.inj (h.symm.trans hnesting)
    exact hm
  · exact fun hn => (IsShallow.of_nestingFrom p).1 n hn h

namespace Grammar

variable {s t : Cursor Slot}

theorem over_plain : (except ['(', ')'] : Grammar).Over fun c => c ≠ '(' ∧ c ≠ ')' := by
  intro c hc
  simpa using hc

theorem mem_parameters (h : t ∈ parameters.ways s) : ∃ p, s.Reads p t ∧ IsShallow p := by
  let R (s t : Cursor Slot) : Prop := ∃ p, s.Reads p t ∧ IsShallow p
  refine repeats_rel (R := R) (fun s => ⟨[], .refl s, .nil⟩) ?_ ?_ true s.ahead h
  · rintro s m t ⟨p, hp, hshallow⟩ ⟨q, hq, hshallow'⟩
    exact ⟨p ++ q, hp.trans hq, hshallow.append hshallow'⟩
  · intro s t h
    rcases mem_alt.1 h with h | h
    · obtain ⟨c, hc, hread⟩ := reads_one h
      obtain ⟨opening, closing⟩ := over_plain c hc
      exact ⟨[c], hread, .plain opening closing .nil⟩
    · obtain ⟨m₁, h₁, h⟩ := mem_all_cons.1 h
      obtain ⟨m₂, h₂, h₃⟩ := mem_all_cons.1 h
      obtain ⟨u, hu, inside⟩ := Over.reads (p := star (except ['(', ')'])) over_plain h₂
      exact ⟨_, (reads_char h₁).trans (hu.trans (reads_char h₃)), .group inside .nil⟩

def EndsName (cs : List Char) : Prop :=
  ∃ c r, cs = c :: r ∧ isNameChar c = false ∧ (c = '(' → ∃ p r', r = p ++ ')' :: r' ∧ IsShallow p)

theorem endsName_blanks {u : List Char} (hu : s.Reads u t) (hblank : ∀ c ∈ u, isBlank c = true)
    (ht : EndsName t.ahead) : EndsName s.ahead := by
  rw [hu.ahead]
  cases u with
  | nil => exact ht
  | cons c u =>
    have hc := hblank c List.mem_cons_self
    refine ⟨c, u ++ t.ahead, rfl, isNameChar_eq_false_of_isBlank hc, ?_⟩
    rintro rfl
    exact absurd hc (by decide)

theorem endsName_of_mem {ps : List Grammar}
    (h : t ∈ (all (blanks :: optional generics :: blanks :: Pattern.char '(' ::
      .capture .parameters parameters :: Pattern.char ')' :: ps)).ways s) : EndsName s.ahead := by
  obtain ⟨m₁, h₁, h⟩ := mem_all_cons.1 h
  obtain ⟨m₂, h₂, h⟩ := mem_all_cons.1 h
  obtain ⟨m₃, h₃, h⟩ := mem_all_cons.1 h
  obtain ⟨m₄, h₄, h⟩ := mem_all_cons.1 h
  obtain ⟨m₅', h₅', h⟩ := mem_all_cons.1 h
  obtain ⟨m₅, h₅, rfl⟩ := mem_capture.1 h₅'
  obtain ⟨m₆, h₆⟩ := mem_all_head h
  obtain ⟨u, hu, hublank⟩ := mem_blanks h₁
  obtain ⟨v, hv, hvblank⟩ := mem_blanks h₃
  have hopening : EndsName m₃.ahead := by
    obtain ⟨p, hp, hshallow⟩ := mem_parameters h₅
    have hclose : (m₅.capture .parameters m₄).ahead = ')' :: m₆.ahead := mem_char h₆
    refine ⟨'(', m₄.ahead, mem_char h₄, by decide, fun _ => ?_⟩
    exact ⟨p, m₆.ahead, hp.ahead.trans (congrArg (p ++ ·) hclose), hshallow⟩
  apply endsName_blanks hu hublank
  rcases mem_alt.1 h₂ with hgenerics | hnone
  · obtain ⟨m, hm, -⟩ := mem_all_cons.1 hgenerics
    exact ⟨'<', m.ahead, mem_char hm, by decide, fun heq => absurd heq (by decide)⟩
  · obtain rfl : m₂ = m₁ := List.mem_singleton.1 hnone
    exact endsName_blanks hv hvblank hopening

theorem mem_function (h : t ∈ function.ways s) : ∃ u c v, ∃ name : Identifier, ∃ r,
    s.ahead = u ++ ("func".toList ++ c :: (v ++ (name.text ++ r))) ∧
    (u.getLast?.or s.before).any isWord = false ∧ isBlank c = true ∧ (∀ d ∈ v, isBlank d = true) ∧
    EndsName r := by
  obtain ⟨m₁, h₁, h⟩ := mem_all_cons.1 h
  obtain ⟨m₂, h₂, h⟩ := mem_all_cons.1 h
  obtain ⟨m₃, h₃, h⟩ := mem_all_cons.1 h
  obtain ⟨m₄, h₄, h⟩ := mem_all_cons.1 h
  obtain ⟨m₅', h₅', h⟩ := mem_all_cons.1 h
  obtain ⟨m₅, h₅, rfl⟩ := mem_capture.1 h₅'
  obtain ⟨u, hu⟩ := reads_of_mem h₁
  have hfunc := (mem_wordEdge h₂).2 ▸ reads_lit h₃
  obtain ⟨c, v, hv, hc, hvblank⟩ := mem_someBlanks h₄
  obtain ⟨name, hname⟩ := mem_name h₅
  have hfree := free_of_wordEdge h₂ hfunc.ahead (by decide)
  rw [hu.before] at hfree
  have hend : EndsName (m₅.capture .name m₄).ahead := endsName_of_mem h
  refine ⟨u, c, v, name, m₅.ahead, ?_, hfree, hc, hvblank, hend⟩
  rw [hu.ahead, hfunc.ahead, hv.ahead, hname.ahead]
  rfl

end Grammar

variable {qs : List String} {name : Identifier}

def declaredFunction (qs : List String) (name : Identifier) (p : List Char) : List Char :=
  spaced qs ++ ("func ".toList ++ (name.text ++ '(' :: (p ++ ") \x7b".toList)))

theorem isShallow_of_mem_function {t : Cursor Slot} {a : List Char} {o : Nat} {k : List (Slot × Stretch)}
    (hqs : ∀ q ∈ qs, q ∈ Grammar.functionQualifiers) (hp : nesting? p = some n)
    (hfree : ¬ HasWord "func".toList p) (htext : declaredFunction qs name p = a ++ r)
    (h : t ∈ Grammar.function.ways ⟨a.getLast?, o, r, k⟩) : IsShallow p := by
  obtain ⟨u, b, v, name', z, hahead, hbefore, hb, hv, c, z', rfl, hc, hparameters⟩ :=
    Grammar.mem_function h
  let front := spaced qs
  let behind := name.text ++ '(' :: (p ++ ')' :: [' ', '\x7b'])
  have hfunc : IsWordText "func".toList := by decide
  have hfront : ¬ Stands "func".toList front := by
    have hwords : ∀ q ∈ Grammar.functionQualifiers,
        IsWordText q.toList ∧ "func".toList ≠ q.toList := by
      decide
    have hnil : ¬ Stands "func".toList [] := not_stands_of_word (by simp)
    have hspaced := not_stands_spaced hfunc (fun q hq => hwords q (hqs q hq)) hnil
    rwa [List.append_nil] at hspaced
  have hbehind : ¬ Stands "func".toList behind :=
    not_stands_word hfunc (by decide) name.isWordText.2 (.inr (by decide)) <|
      not_stands_text hfunc (by decide) hfree <| not_stands_cons hfunc (by decide) <|
      not_stands_cons hfunc (by decide) (not_stands_of_word (by simp))
  have heq : front ++ ("func".toList ++ ' ' :: behind) =
      (a ++ u) ++ ("func".toList ++ b :: (v ++ (name'.text ++ c :: z'))) := by
    have hshape : declaredFunction qs name p = front ++ ("func".toList ++ ' ' :: behind) := by
      simp [declaredFunction, front, behind]
    rw [← hshape, htext, show r = _ from hahead, List.append_assoc]
  obtain ⟨-, -, hrest⟩ := stands_unique hfunc hfront hbehind (getLast?_spaced qs)
    (by rwa [List.getLast?_append]) hb heq
  obtain rfl : v = [] := by
    cases v with
    | nil => rfl
    | cons d v =>
      obtain ⟨rfl, -⟩ := List.cons.inj hrest
      have hblank := hv _ List.mem_cons_self
      rw [isBlank_eq_false_of_isWord (name.isWordText.2 _ List.mem_cons_self)] at hblank
      cases hblank
  obtain ⟨-, rfl, hlist⟩ :=
    run_unique name.isNameChar_of_mem name'.isNameChar_of_mem (by decide) hc hrest
  obtain ⟨p', r', rfl, hshallow⟩ := hparameters rfl
  obtain ⟨m, -, hm⟩ := hshallow.nesting
  rwa [nesting_unique hp hm hlist]

/-- A function with balanced parameters is found, and nothing else, if their parentheses are nested at
most one deep. If they are nested deeper, nothing is found. -/
theorem functions_declaredFunction (hqs : ∀ q ∈ qs, q ∈ Grammar.functionQualifiers) (name : Identifier)
    (hp : nesting? p = some n) (hfree : ¬ HasWord "func".toList p) :
    functions (declaredFunction qs name p) =
      if n ≤ 1 then
        [{ kind := .function, name := String.ofList name.text,
           start := (spaced qs).length + "func ".toList.length, qualifiers := qs,
           parameters := if allBlank p then none else some (String.ofList (strip p)) }]
      else [] := by
  split
  · rename_i hn
    have hhead : declaredFunction qs name p = Grammar.functionHead qs name p [] none := by
      have hnil : spaced [] = [] := rfl
      simp [declaredFunction, Grammar.functionHead, arrowText, hnil]
    have heffects : ∀ w ∈ [], w ∈ Grammar.effectNames := fun w hw => absurd hw List.not_mem_nil
    have hscan := scans_functionHead (b := none) (o := 0) (r := []) hqs name ((isShallow_iff hp).2 hn)
      heffects none rfl
    have hend : Grammar.function.ways ⟨(declaredFunction qs name p).getLast?,
        (declaredFunction qs name p).length, [], []⟩ = [] := by
      refine Grammar.introduces_function.ways_eq_nil fun hs => ?_
      obtain ⟨c, hc, -⟩ := hs.small
      cases hc
    rw [← hhead, Nat.zero_add, strippedText?_eq] at hscan
    exact hscan.scan hend
  · rename_i hn
    refine List.eq_nil_iff_forall_not_mem.2 fun f hf => ?_
    obtain ⟨m, hm, -⟩ := List.mem_map.1 hf
    obtain ⟨a, r, htext, hhere⟩ := exists_of_mem_scan hm
    rw [here?_eq] at hhere
    obtain ⟨t, ht, -⟩ := Option.map_eq_some_iff.1 hhere
    exact hn ((isShallow_iff hp).1 (isShallow_of_mem_function hqs hp hfree htext (List.mem_of_head? ht)))

def loadName : Identifier := ⟨'l', "oad".toList, by decide, by decide⟩

theorem functions_declaredFunction_load :
    nesting? "completion: (Int) -> Void".toList = some 1 ∧
    functions "public static func load(completion: (Int) -> Void) \x7b".toList =
      [{ kind := .function, name := "load", start := 19, qualifiers := ["public", "static"],
         parameters := some "completion: (Int) -> Void" }] := by
  have hqs : ∀ q ∈ ["public", "static"], q ∈ Grammar.functionQualifiers := by decide
  have hp : nesting? "completion: (Int) -> Void".toList = some 1 := by decide
  have hfree : ¬ HasWord "func".toList "completion: (Int) -> Void".toList :=
    not_hasWord_of_notMem (c := 'f') (by decide) (by decide)
  refine ⟨hp, (functions_declaredFunction hqs loadName hp hfree).trans ?_⟩
  decide +kernel

theorem functions_optionalClosure :
    nesting? "completion: ((Int) -> Void)?".toList = some 2 ∧
    functions "func load(completion: ((Int) -> Void)?) \x7b".toList = [] ∧
    functions "func größe() \x7b".toList = [] := by
  refine ⟨?_, ?_, ?_⟩ <;> decide +kernel

end TestScaffold.Swift
