import TestScaffold.Decimal.Reading
import TestScaffold.Json.Value

/-!
Reading JSON text. Blanks are the space, the tab, and the two line characters. The names of infinity
and of the undefined number are numbers. Of two members with one name the last gives the value and the
first the place. No byte order mark may stand in front.
-/

namespace TestScaffold.Json

inductive ReadError where
  | malformed
  | tooManyDigits
  | tooDeep
  deriving DecidableEq, Repr

def isSpace (c : Char) : Bool := c == ' ' || c == '\t' || c == '\n' || c == '\r'

def skipSpace (cs : List Char) : List Char := cs.dropWhile isSpace

def hexValue? (c : Char) : Option Nat :=
  if '0' ≤ c && c ≤ '9' then some (c.toNat - 48)
  else if 'a' ≤ c && c ≤ 'f' then some (c.toNat - 87)
  else if 'A' ≤ c && c ≤ 'F' then some (c.toNat - 55)
  else none

def unit? : List Char → Option (Nat × List Char)
  | a :: b :: c :: d :: cs => do
    let a ← hexValue? a
    let b ← hexValue? b
    let c ← hexValue? c
    let d ← hexValue? d
    return (((a * 16 + b) * 16 + c) * 16 + d, cs)
  | _ => none

def isHighHalf (n : Nat) : Bool := 0xd800 ≤ n && n ≤ 0xdbff

def isLowHalf (n : Nat) : Bool := 0xdc00 ≤ n && n ≤ 0xdfff

/-- The character of a code unit. A half without its partner becomes the replacement character. -/
def charOfUnit (n : Nat) : Char :=
  if isHighHalf n || isLowHalf n then '\ufffd' else Char.ofNat n

def unitEscape? (cs : List Char) : Option (Char × List Char) := do
  let (n, rest) ← unit? cs
  match rest with
  | '\\' :: 'u' :: more =>
    if isHighHalf n then
      match unit? more with
      | some (m, final) =>
        if isLowHalf m then
          return (Char.ofNat (0x10000 + (n - 0xd800) * 0x400 + (m - 0xdc00)), final)
        else return (charOfUnit n, rest)
      | none => return (charOfUnit n, rest)
    else return (charOfUnit n, rest)
  | _ => return (charOfUnit n, rest)

def simpleEscape? : Char → Option Char
  | '"' => some '"'
  | '\\' => some '\\'
  | '/' => some '/'
  | 'b' => some '\x08'
  | 'f' => some '\x0c'
  | 'n' => some '\n'
  | 'r' => some '\r'
  | 't' => some '\t'
  | _ => none

def stringTail : Nat → List Char → Except ReadError (List Char × List Char)
  | 0, _ => .error .malformed
  | _ + 1, [] => .error .malformed
  | fuel + 1, c :: cs =>
    if c == '"' then .ok ([], cs)
    else if c == '\\' then
      match cs with
      | 'u' :: more =>
        match unitEscape? more with
        | some (d, rest) => (stringTail fuel rest).map fun r => (d :: r.1, r.2)
        | none => .error .malformed
      | e :: more =>
        match simpleEscape? e with
        | some d => (stringTail fuel more).map fun r => (d :: r.1, r.2)
        | none => .error .malformed
      | [] => .error .malformed
    else if c.toNat < 32 then .error .malformed
    else (stringTail fuel cs).map fun r => (c :: r.1, r.2)

def stringRest (cs : List Char) : Except ReadError (String × List Char) :=
  (stringTail (cs.length + 1) cs).map fun r => (String.ofList r.1, r.2)

def takeAsciiDigits (cs : List Char) : List Nat × List Char :=
  ((cs.takeWhile Text.isAsciiDigit).map (·.toNat - 48), cs.dropWhile Text.isAsciiDigit)

def wholePart : List Char → Option (List Nat × List Char)
  | '0' :: cs => some ([0], cs)
  | cs =>
    match takeAsciiDigits cs with
    | ([], _) => none
    | r => some r

def places : List Char → Option (List Nat × List Char)
  | '.' :: cs =>
    match takeAsciiDigits cs with
    | ([], _) => none
    | r => some r
  | _ => none

def exponent : List Char → Option (Int × List Char)
  | c :: cs =>
    if c == 'e' || c == 'E' then
      let (negative, rest) := Decimal.takeSign cs
      match takeAsciiDigits rest with
      | ([], _) => none
      | (ds, more) => some (Decimal.signed negative (Decimal.ofDigits ds), more)
    else none
  | [] => none

def size (negative : Bool) (cs : List Char) : Except ReadError (Json × List Char) :=
  match wholePart cs with
  | none => .error .malformed
  | some (whole, rest) =>
    let frac := places rest
    let rest := (frac.map (·.2)).getD rest
    let exp := exponent rest
    let rest := (exp.map (·.2)).getD rest
    if frac.isNone && exp.isNone then
      if Decimal.digitLimit < whole.length then .error .tooManyDigits
      else .ok (.int (Decimal.signed negative (Decimal.ofDigits whole)), rest)
    else
      let ps := (frac.map (·.1)).getD []
      let e := (exp.map (·.1)).getD 0
      let x := Decimal.nearest (Decimal.ofDigits (whole ++ ps)) (e - ps.length)
      .ok (.float (if negative then -x else x), rest)

def names : List (String × Json) :=
  [("null", .null), ("true", .bool true), ("false", .bool false), ("NaN", .float (0 / 0)),
   ("Infinity", .float (1 / 0)), ("-Infinity", .float (-1 / 0))]

def named? (cs : List Char) : Option (Json × List Char) :=
  names.findSome? fun n =>
    if n.1.toList.isPrefixOf cs then some (n.2, cs.drop n.1.length) else none

mutual

/-- A value, with room for so many lists and objects within one another; the text is longer than the fuel
allows only if it is nested deeper. -/
def value : Nat → Nat → List Char → Except ReadError (Json × List Char)
  | 0, _, _ => .error .malformed
  | fuel + 1, room, cs =>
    match cs with
    | '"' :: more => (stringRest more).map fun r => (.string r.1, r.2)
    | '[' :: more =>
      if room = 0 then .error .tooDeep
      else
        match skipSpace more with
        | ']' :: rest => .ok (.list [], rest)
        | rest => (items fuel (room - 1) rest).map fun r => (.list r.1, r.2)
    | '\x7b' :: more =>
      if room = 0 then .error .tooDeep
      else
        match skipSpace more with
        | '\x7d' :: rest => .ok (.object [], rest)
        | rest => (members fuel (room - 1) rest).map fun r => (.object (Entries.ofList r.1), r.2)
    | _ =>
      match named? cs with
      | some r => .ok r
      | none =>
        match cs with
        | '-' :: more => size true more
        | _ => size false cs

def items : Nat → Nat → List Char → Except ReadError (List Json × List Char)
  | 0, _, _ => .error .malformed
  | fuel + 1, room, cs => do
    let (j, rest) ← value fuel room cs
    match skipSpace rest with
    | ']' :: more => return ([j], more)
    | ',' :: more =>
      let (js, final) ← items fuel room (skipSpace more)
      return (j :: js, final)
    | _ => .error .malformed

def members : Nat → Nat → List Char → Except ReadError (List (String × Json) × List Char)
  | 0, _, _ => .error .malformed
  | fuel + 1, room, cs =>
    match cs with
    | '"' :: more => do
      let (k, rest) ← stringRest more
      match skipSpace rest with
      | ':' :: rest =>
        let (j, rest) ← value fuel room (skipSpace rest)
        match skipSpace rest with
        | '\x7d' :: more => return ([(k, j)], more)
        | ',' :: more =>
          let (ms, final) ← members fuel room (skipSpace more)
          return ((k, j) :: ms, final)
        | _ => .error .malformed
      | _ => .error .malformed
    | _ => .error .malformed

end

/-- The value that is the whole text, with blanks around it. At most `limit` lists and objects may stand
within one another; what the limit is depends on the calls that have led to the reader. -/
def read (limit : Nat) (cs : List Char) : Except ReadError Json :=
  match value (2 * cs.length + 2) limit (skipSpace cs) with
  | .ok (j, rest) => if (skipSpace rest).isEmpty then .ok j else .error .malformed
  | .error e => .error e

def ofText (limit : Nat) (s : String) : Except ReadError Json := read limit s.toList

end TestScaffold.Json
