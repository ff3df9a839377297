/-!
Text patterns with captures. A pattern is matched by trying its ways in order of preference and taking
the first that lets the rest match: the left branch of a choice, one more round of a greedy
repetition, no further round of a lazy one. `Pattern.run` is that search, and there is one equation
for each form of pattern.
-/

namespace TestScaffold

universe u v

structure Stretch where
  start : Nat
  source : List Char
  length : Nat

namespace Stretch

def text (s : Stretch) : List Char := s.source.take s.length

def string (s : Stretch) : String := String.ofList s.text

def stop (s : Stretch) : Nat := s.start + s.length

end Stretch

/-- Where a search stands: the character before, the offset, the text still ahead, and what was
captured, the latest first. -/
structure Cursor (ι : Type u) where
  before : Option Char
  offset : Nat
  ahead : List Char
  captures : List (ι × Stretch)

namespace Cursor

variable {ι : Type u}

def ofText (cs : List Char) : Cursor ι := ⟨none, 0, cs, []⟩

def upTo (s t : Cursor ι) : Stretch := ⟨s.offset, s.ahead, t.offset - s.offset⟩

def capture (t : Cursor ι) (i : ι) (s : Cursor ι) : Cursor ι :=
  { t with captures := (i, s.upTo t) :: t.captures }

end Cursor

inductive Pattern (ι : Type u) where
  | empty
  | one (p : Char → Bool)
  | place (p : Option Char → Option Char → Bool)
  | seq (p q : Pattern ι)
  | alt (p q : Pattern ι)
  | many (greedy : Bool) (p : Pattern ι)
  | capture (i : ι) (p : Pattern ι)

namespace Pattern

variable {ι : Type u} {α : Type v}

/-- Rounds of a step, at most one for each of the given characters; a round that takes nothing is not
counted. -/
def rounds (step : (Cursor ι → Option α) → Cursor ι → Option α) (greedy : Bool)
    (k : Cursor ι → Option α) : List Char → Cursor ι → Option α
  | [], s => k s
  | _ :: left, s =>
    let more := fun _ : Unit =>
      step (fun t => if s.offset < t.offset then rounds step greedy k left t else none) s
    if greedy then (more ()).orElse fun _ => k s else (k s).orElse more

/-- The result of the first way to match after which the rest, given by `k`, has a result. -/
def run : Pattern ι → (Cursor ι → Option α) → Cursor ι → Option α
  | .empty, k, s => k s
  | .one p, k, s =>
    match s.ahead with
    | [] => none
    | c :: cs =>
      if p c then k { s with before := some c, offset := s.offset + 1, ahead := cs } else none
  | .place p, k, s => if p s.before s.ahead.head? then k s else none
  | .seq p q, k, s => p.run (q.run k) s
  | .alt p q, k, s => (p.run k s).orElse fun _ => q.run k s
  | .many greedy p, k, s => rounds (fun k' => p.run k') greedy k s.ahead s
  | .capture i p, k, s => p.run (fun t => k (t.capture i s)) s

section

variable (k : Cursor ι → Option α) (s : Cursor ι)

@[simp] theorem run_empty : (empty : Pattern ι).run k s = k s := rfl

@[simp] theorem run_seq (p q : Pattern ι) : (p.seq q).run k s = p.run (q.run k) s := rfl

@[simp] theorem run_alt (p q : Pattern ι) :
    (p.alt q).run k s = (p.run k s).orElse fun _ => q.run k s := rfl

@[simp] theorem run_capture (i : ι) (p : Pattern ι) :
    (p.capture i).run k s = p.run (fun t => k (t.capture i s)) s := rfl

@[simp] theorem run_place (p : Option Char → Option Char → Bool) :
    (place p : Pattern ι).run k s = if p s.before s.ahead.head? then k s else none := rfl

end

def optional (p : Pattern ι) : Pattern ι := p.alt .empty

def star (p : Pattern ι) : Pattern ι := .many true p

def plus (p : Pattern ι) : Pattern ι := p.seq p.star

def starLazy (p : Pattern ι) : Pattern ι := .many false p

def plusLazy (p : Pattern ι) : Pattern ι := p.seq p.starLazy

def all : List (Pattern ι) → Pattern ι
  | [] => .empty
  | [p] => p
  | p :: ps => .seq p (all ps)

def any : List (Pattern ι) → Pattern ι
  | [] => .one fun _ => false
  | [p] => p
  | p :: ps => .alt p (any ps)

def char (c : Char) : Pattern ι := .one (· == c)

def chars (w : List Char) : Pattern ι := all (w.map char)

def lit (w : String) : Pattern ι := chars w.toList

def except (cs : List Char) : Pattern ι := .one (!cs.contains ·)

def anyChar : Pattern ι := .one fun _ => true

end Pattern

end TestScaffold
