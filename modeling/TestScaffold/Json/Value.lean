import TestScaffold.Decimal.Shortest
import TestScaffold.Entries

namespace TestScaffold

inductive Json where
  | null
  | bool (b : Bool)
  | int (n : Int)
  | float (x : Float)
  | string (s : String)
  | list (items : List Json)
  | object (members : List (String × Json))
  deriving Inhabited

namespace Json

def ofOption {α : Type} (f : α → Json) (o : Option α) : Json := (o.map f).getD .null

def strings (ss : List String) : Json := .list (ss.map .string)

def optionalString (s : Option String) : Json := ofOption .string s

def get? (j : Json) (k : String) : Option Json :=
  match j with
  | .object ms => Entries.get? ms k
  | _ => none

def hexDigit (n : Nat) : Char := if n < 10 then Char.ofNat (48 + n) else Char.ofNat (87 + n)

def hex : Nat → Nat → List Char
  | 0, _ => []
  | w + 1, n => hex w (n / 16) ++ [hexDigit (n % 16)]

def unitEscape (n : Nat) : List Char := '\\' :: 'u' :: hex 4 n

def escaped (c : Char) : List Char :=
  match c with
  | '"' => ['\\', '"']
  | '\\' => ['\\', '\\']
  | '\n' => ['\\', 'n']
  | '\r' => ['\\', 'r']
  | '\t' => ['\\', 't']
  | _ =>
    let n := c.toNat
    if 32 ≤ n && n < 127 then [c]
    else if n < 0x10000 then unitEscape n
    else unitEscape (0xd800 + (n - 0x10000) / 0x400) ++ unitEscape (0xdc00 + (n - 0x10000) % 0x400)

def quoted (s : String) : String := "\"" ++ String.ofList (s.toList.flatMap escaped) ++ "\""

def floatText (x : Float) : String :=
  if x.isFinite then Decimal.text x else quoted (Decimal.text x)

mutual

def render : Json → String
  | .null => "null"
  | .bool b => if b then "true" else "false"
  | .int n => toString n
  | .float x => floatText x
  | .string s => quoted s
  | .list items => "[" ++ ", ".intercalate (renderItems items) ++ "]"
  | .object members => "\x7b" ++ ", ".intercalate (renderMembers members) ++ "\x7d"

def renderItems : List Json → List String
  | [] => []
  | j :: js => render j :: renderItems js

def renderMembers : List (String × Json) → List String
  | [] => []
  | (k, j) :: ms => (quoted k ++ ": " ++ render j) :: renderMembers ms

end

end Json

end TestScaffold
