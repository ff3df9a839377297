import TestScaffold.Url.Host.Composition.Table
import TestScaffold.Url.Host.Marks

namespace TestScaffold.Url

def compositions : List (List (Nat × Nat × Nat)) := [earlyCompositions, lateCompositions]

def parts? (c : Char) : Option (Char × Char) :=
  (compositions.findSome? (·.find? (·.1 == c.toNat))).map fun e => (Char.ofNat e.2.1, Char.ofNat e.2.2)

def composed? (c mark : Char) : Option Char :=
  (compositions.findSome? (·.find? fun e => e.2 == (c.toNat, mark.toNat))).map fun e => Char.ofNat e.1

def takeApart : Nat → Char → List Char
  | 0, c => [c]
  | n + 1, c =>
    match parts? c with
    | some (d, mark) => takeApart n d ++ [mark]
    | none => [c]

def compositionSteps : Nat := 3

def settleMark (c : Char) : List Char → List Char
  | [] => [c]
  | d :: ds => if 0 < markClass c && markClass c < markClass d then d :: settleMark c ds else c :: d :: ds

structure Composing where
  done : List Char := []
  base : Option Char := none
  marks : List Char := []

namespace Composing

def all (s : Composing) : List Char := s.marks ++ s.base.toList ++ s.done

def reaches (s : Composing) (c : Char) : Bool := s.marks.head?.all (markClass · < markClass c)

def add (s : Composing) (c : Char) : Composing :=
  match (s.base.filter fun _ => s.reaches c).bind (composed? · c) with
  | some d => { s with base := some d }
  | none =>
    if markClass c = 0 then { done := s.all, base := some c } else { s with marks := c :: s.marks }

end Composing

def compose (cs : List Char) : List Char :=
  let apart := cs.flatMap (takeApart compositionSteps)
  let settled := (apart.foldl (fun done c => settleMark c done) []).reverse
  (settled.foldl Composing.add {}).all.reverse

def isComposed (cs : List Char) : Bool := cs.all (·.toNat < 0x80) || compose cs == cs

end TestScaffold.Url
