import TestScaffold.Text.Casing.Table

namespace TestScaffold.Text

def mapCase (expansions : List (Nat × List Nat)) (runs : List CaseRun) (c : Char) : List Char :=
  match expansions.find? (·.1 == c.toNat) with
  | some (_, cs) => cs.map Char.ofNat
  | none =>
    match runs.find? (·.covers c.toNat) with
    | some r => [Char.ofNat (c.toNat + r.shift).toNat]
    | none => [c]

def upperChar (c : Char) : List Char := mapCase upperExpansions upperRuns c

def lowerChar (c : Char) : List Char := mapCase lowerExpansions lowerRuns c

def casedNext (cs : List Char) : Bool :=
  match cs.find? (!caseIgnorableRanges.has ·) with
  | some c => casedRanges.has c
  | none => false

def lowerAfter (before : List Char) : List Char → List Char
  | [] => []
  | c :: cs =>
    let here :=
      if c == 'Σ' then [if casedNext before && !casedNext cs then 'ς' else 'σ'] else lowerChar c
    here ++ lowerAfter (c :: before) cs

def lower (cs : List Char) : List Char := lowerAfter [] cs

def lowercased (s : String) : String := String.ofList (lower s.toList)

end TestScaffold.Text
