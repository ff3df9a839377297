import TestScaffold.Decimal.Binary
import TestScaffold.Text.Blank
import TestScaffold.Text.Word

namespace TestScaffold.Decimal

open Text

def ofDigits (ds : List Nat) : Nat := ds.foldl (fun n d => 10 * n + d) 0

def takeDigits (digit? : Char → Option Nat) (inside : Bool) : List Char → List Nat × List Char
  | [] => ([], [])
  | c :: cs =>
    match digit? c with
    | some d =>
      let r := takeDigits digit? true cs
      (d :: r.1, r.2)
    | none =>
      if inside && c == '_' && (cs.head?.bind digit?).isSome then takeDigits digit? false cs
      else ([], c :: cs)

def takeSign : List Char → Bool × List Char
  | '-' :: cs => (true, cs)
  | '+' :: cs => (false, cs)
  | cs => (false, cs)

def signed (negative : Bool) (n : Nat) : Int := if negative then -n else n

def digitLimit : Nat := 4300

def trim (cs : List Char) : List Char := stripOf isWhite cs

def int? (digit? : Char → Option Nat) (cs : List Char) : Option Int :=
  let (negative, rest) := takeSign (trim cs)
  match takeDigits digit? false rest with
  | ([], _) => none
  | (ds, []) => if ds.length ≤ digitLimit then some (signed negative (ofDigits ds)) else none
  | _ => none

def asciiDigit? (c : Char) : Option Nat :=
  if isAsciiDigit c then some (c.toNat - 48) else none

def foldAscii (cs : List Char) : List Char :=
  cs.map fun c => if 'A' ≤ c && c ≤ 'Z' then Char.ofNat (c.toNat + 32) else c

def takeExponent (digit? : Char → Option Nat) : List Char → Option Int
  | [] => some 0
  | c :: cs =>
    if c == 'e' || c == 'E' then
      let (negative, rest) := takeSign cs
      match takeDigits digit? false rest with
      | ([], _) => none
      | (ds, []) => some (signed negative (ofDigits ds))
      | _ => none
    else none

def magnitude? (digit? : Char → Option Nat) (cs : List Char) : Option Float :=
  let folded := String.ofList (foldAscii cs)
  if folded == "inf" || folded == "infinity" then some (1 / 0)
  else if folded == "nan" then some (0 / 0)
  else
    let (whole, rest) := takeDigits digit? false cs
    let (places, rest) :=
      match rest with
      | '.' :: more => takeDigits digit? false more
      | _ => ([], rest)
    if whole.isEmpty && places.isEmpty then none
    else (takeExponent digit? rest).map fun e =>
      nearest (ofDigits (whole ++ places)) (e - places.length)

def number? (digit? : Char → Option Nat) (cs : List Char) : Option Float :=
  let (negative, rest) := takeSign cs
  (magnitude? digit? rest).map fun x => if negative then -x else x

def float? (digit? : Char → Option Nat) (cs : List Char) : Option Float := number? digit? (trim cs)

end TestScaffold.Decimal
