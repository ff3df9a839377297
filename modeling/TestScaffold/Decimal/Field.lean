import TestScaffold.Decimal.Reading

namespace TestScaffold.Decimal

open Text

def joined? (cs : List Char) : Option (List Char) :=
  if !cs.contains '_' || cs.head? == some '_' || cs.getLast? == some '_' ||
      (cs.zip cs.tail).contains ('_', '_') then none
  else some (cs.filter (· != '_'))

def behindZeros (last : Char) : List Char → Option (List Char)
  | [] => some [last]
  | c :: cs =>
    if c == '0' || c == '_' then behindZeros c cs
    else if c == '.' then some (last :: c :: cs)
    else if isAsciiDigit c then some (c :: cs)
    else none

def withoutZeros : List Char → Option (List Char)
  | [] => none
  | c :: cs =>
    if c == '0' then behindZeros c cs
    else if c == '-' || isAsciiDigit c then some (c :: cs)
    else none

def withoutPlaces (cs : List Char) : List Char :=
  match cs.dropWhile (· != '.') with
  | [] => cs
  | _ :: places => if places.all (· == '0') then cs.takeWhile (· != '.') else cs

def withoutPlus : List Char → Option (List Char)
  | '+' :: '-' :: _ => none
  | '+' :: cs => some cs
  | cs => some cs

def plainInt? (cs : List Char) : Option Int :=
  let negative := cs.head? == some '-'
  let ds := if negative then cs.drop 1 else cs
  if cs.length ≤ digitLimit && !ds.isEmpty && ds.all isAsciiDigit &&
      (ds.head? != some '0' || ds.length == 1) then
    some (signed negative (ofDigits (ds.map (·.toNat - 48))))
  else none

def fieldInt? (cs : List Char) : Option Int := do
  let digits := withoutPlaces (← withoutZeros (← withoutPlus (trim cs)))
  plainInt? ((joined? digits).getD digits)

def fieldFloat? (cs : List Char) : Option Float :=
  if cs.contains '_' then (joined? cs).bind (number? asciiDigit?) else float? asciiDigit? cs

end TestScaffold.Decimal
