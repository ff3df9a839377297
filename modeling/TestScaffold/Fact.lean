
namespace TestScaffold

inductive FactKind where
  | function | property | button | textField | secureField | text | toggle | picker | slider
  | navigationLink | list | custom
  deriving DecidableEq, Repr

namespace FactKind

def all : List FactKind :=
  [.function, .property, .button, .textField, .secureField, .text, .toggle, .picker, .slider,
   .navigationLink, .list, .custom]

def name : FactKind → String
  | .function => "function"
  | .property => "property"
  | .button => "button"
  | .textField => "textField"
  | .secureField => "secureField"
  | .text => "text"
  | .toggle => "toggle"
  | .picker => "picker"
  | .slider => "slider"
  | .navigationLink => "navigationLink"
  | .list => "list"
  | .custom => "custom"

def ofName? (s : String) : Option FactKind := all.find? (·.name == s)

def isDeclaration : FactKind → Bool
  | .function | .property => true
  | _ => false

def isTextInput : FactKind → Bool
  | .textField | .secureField => true
  | _ => false

def hasAction : FactKind → Bool
  | .button | .navigationLink => true
  | _ => false

end FactKind

structure Fact where
  kind : FactKind
  name : String
  customKind : Option String := none
  isStatic : Bool := false
  identifier : Option String := none
  modifiers : List String := []
  hasAction : Bool := false
  declaredType : Option String := none
  parameters : Option String := none
  /-- The offset in the source, -1 if unknown. -/
  position : Int := -1
  deriving DecidableEq, Repr

namespace Fact

def label (f : Fact) : String := f.name

def kindName (f : Fact) : String :=
  match f.kind, f.customKind with
  | .custom, some t => if t.isEmpty then f.kind.name else t
  | k, _ => k.name

def isThrowing (f : Fact) : Bool := f.modifiers.contains "throws" || f.modifiers.contains "rethrows"

def isAsync (f : Fact) : Bool := f.modifiers.contains "async"

end Fact

def firstOfEachName (seen : List String) : List Fact → List Fact
  | [] => []
  | f :: fs =>
    if seen.contains f.name then firstOfEachName seen fs
    else f :: firstOfEachName (f.name :: seen) fs

end TestScaffold
