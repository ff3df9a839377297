import TestScaffold.Decimal.Field
import TestScaffold.Json.Reader

namespace TestScaffold

universe u v

inductive Checked (α : Type u) where
  | valid (a : α)
  | invalid (paths : List (List String))

namespace Checked

variable {α : Type u} {β : Type v}

def map (f : α → β) : Checked α → Checked β
  | valid a => valid (f a)
  | invalid ps => invalid ps

def ap : Checked (α → β) → Checked α → Checked β
  | valid f, valid a => valid (f a)
  | valid _, invalid ps => invalid ps
  | invalid ps, valid _ => invalid ps
  | invalid ps, invalid qs => invalid (ps ++ qs)

instance : Applicative Checked where
  pure := valid
  map := Checked.map
  seq f x := f.ap (x ())

def within (name : String) : Checked α → Checked α
  | valid a => valid a
  | invalid ps => invalid (ps.map (name :: ·))

def all : List (Checked α) → Checked (List α)
  | [] => valid []
  | c :: cs => (c.map List.cons).ap (all cs)

def fault : Checked α := invalid [[]]

def ofOption : Option α → Checked α
  | some a => valid a
  | none => fault

end Checked

abbrev Decoder (α : Type u) := Json → Checked α

namespace Decoder

variable {α : Type}

def string : Decoder String
  | .string s => .valid s
  | _ => .fault

def optional (d : Decoder α) : Decoder (Option α)
  | .null => .valid none
  | j => (d j).map some

def list (d : Decoder α) : Decoder (List α)
  | .list js => .all (js.zipIdx.map fun p => (d p.1).within (toString p.2))
  | _ => .fault

def table (d : Decoder α) : Decoder (Entries α)
  | .object ms => .all (ms.map fun m => ((d m.2).within m.1).map (m.1, ·))
  | _ => .fault

def oneOf (names : List (String × α)) : Decoder α
  | .string s => .ofOption (Entries.get? names s)
  | _ => .fault

def truthOfText (s : String) : Option Bool :=
  let t := String.ofList (Decimal.foldAscii s.toList)
  if ["0", "off", "f", "false", "n", "no"].contains t then some false
  else if ["1", "on", "t", "true", "y", "yes"].contains t then some true
  else none

def truthOfInt (n : Int) : Option Bool :=
  if n = 0 then some false else if n = 1 then some true else none

def bool : Decoder Bool
  | .bool b => .valid b
  | .int n => .ofOption (truthOfInt n)
  | .float x => .ofOption ((Decimal.whole? x).bind truthOfInt)
  | .string s => .ofOption (truthOfText s)
  | _ => .fault

def intOfFloat (x : Float) : Option Int :=
  (Decimal.whole? x).filter fun n => decide (n.natAbs < Nat.pow 2 63)

def int : Decoder Int
  | .int n => .valid n
  | .bool b => .valid (if b then 1 else 0)
  | .float x => .ofOption (intOfFloat x)
  | .string s => .ofOption (Decimal.fieldInt? s.toList)
  | _ => .fault

def floatOfInt (n : Int) : Option Float :=
  let x := Decimal.nearest n.natAbs 0
  if x.isInf then none else some (if n < 0 then -x else x)

def float : Decoder Float
  | .float x => .valid x
  | .int n => .ofOption (floatOfInt n)
  | .bool b => .valid (if b then 1 else 0)
  | .string s => .ofOption (Decimal.fieldFloat? s.toList)
  | _ => .fault

def restrict (d : Decoder α) (ok : α → Bool) : Decoder α := fun j =>
  match d j with
  | .valid a => if ok a then .valid a else .fault
  | .invalid ps => .invalid ps

def record (d : Entries Json → Checked α) : Decoder α
  | .object ms => d ms
  | _ => .fault

def field (ms : Entries Json) (names : List String) (d : Decoder α) (default? : Option α) :
    Checked α :=
  match names.findSome? fun n => (ms.get? n).map (n, ·) with
  | some (n, j) => (d j).within n
  | none =>
    match default? with
    | some a => .valid a
    | none => (Checked.fault).within (names.headD "")

end Decoder

end TestScaffold
