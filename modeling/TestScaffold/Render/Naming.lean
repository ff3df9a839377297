import TestScaffold.Fact
import TestScaffold.Text.Blank
import TestScaffold.Text.Casing
import TestScaffold.Text.Word

namespace TestScaffold.Render

open Text

def suffix? : FactKind → Option String
  | .button => some "_button"
  | .textField => some "_field"
  | .secureField => some "_sf"
  | .text => some "_text"
  | .toggle => some "_toggle"
  | .picker => some "_picker"
  | .slider => some "_slider"
  | .navigationLink => some "_link"
  | .list => some "_list"
  | .function | .property | .custom => none

def initials (label : String) : String :=
  String.ofList ((words (lower label.toList)).filterMap List.head?)

def deriveCustom (label : String) (type : String) : String :=
  initials label ++ "_" ++ lowercased type

def deriveIdentifier (label : String) (kind : FactKind) : String :=
  match suffix? kind with
  | some s => initials label ++ s
  | none => deriveCustom label kind.name

def effectiveIdentifier (f : Fact) : String :=
  match f.identifier.filter (!·.isEmpty) with
  | some i => i
  | none =>
    match f.kind, f.customKind.filter (!·.isEmpty) with
    | .custom, some t => deriveCustom f.label t
    | k, _ => deriveIdentifier f.label k

def query : FactKind → String
  | .button | .navigationLink => "buttons"
  | .textField => "textFields"
  | .secureField => "secureTextFields"
  | .text => "staticTexts"
  | .toggle => "switches"
  | .picker => "pickers"
  | .slider => "sliders"
  | .list => "tables"
  | .function | .property | .custom => "descendants(matching: .any)"

def escapedChar (c : Char) : List Char :=
  if c == '\\' then ['\\', '\\']
  else if c == '"' then ['\\', '"']
  else if c == '\n' then ['\\', 'n']
  else [c]

def swiftString (s : String) : String := String.ofList (s.toList.flatMap escapedChar)

def openCommentEnds : List Char → List Char
  | [] => []
  | '*' :: '/' :: cs => '*' :: ' ' :: '/' :: openCommentEnds cs
  | c :: cs => c :: openCommentEnds cs

def commentText (s : String) : String :=
  String.ofList (openCommentEnds ([' '].intercalate (words s.toList)))

def capitalizeFirst (s : String) : String :=
  match s.toList with
  | [] => ""
  | c :: cs => String.ofList (upperChar c ++ cs)

def cleaned (identifier : String) : List Char :=
  identifier.toList.map fun c => if isNameChar c then c else '_'

def variableBase (identifier suffix : String) : String :=
  let base := cleaned identifier ++ suffix.toList
  let named := if base.all (· == '_') then "element".toList ++ suffix.toList else base
  match named with
  | c :: _ => String.ofList (if isDigitSign c then '_' :: named else named)
  | [] => ""

/-- The least number from `n` on that makes the base a free name; more than `used.length` numbers need
not be tried. -/
def numbered (base : String) (used : List String) : Nat → Nat → String
  | 0, n => base ++ toString n
  | fuel + 1, n =>
    let name := base ++ toString n
    if used.contains name then numbered base used fuel (n + 1) else name

def freshVariable (identifier : String) (used : List String) (suffix : String) : String :=
  let base := variableBase identifier suffix
  if used.contains base then numbered base used used.length 2 else base

end TestScaffold.Render
