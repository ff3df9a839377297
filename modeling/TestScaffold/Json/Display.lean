import TestScaffold.Json.Value
import TestScaffold.Text.Quoted

namespace TestScaffold.Json

mutual

def display : Json → String
  | .null => "None"
  | .bool b => if b then "True" else "False"
  | .int n => toString n
  | .float x => Decimal.text x
  | .string s => Text.quoted s
  | .list items => "[" ++ ", ".intercalate (displayItems items) ++ "]"
  | .object members => "\x7b" ++ ", ".intercalate (displayMembers members) ++ "\x7d"

def displayItems : List Json → List String
  | [] => []
  | j :: js => display j :: displayItems js

def displayMembers : List (String × Json) → List String
  | [] => []
  | (k, j) :: ms => (Text.quoted k ++ ": " ++ display j) :: displayMembers ms

end

end TestScaffold.Json
