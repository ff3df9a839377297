import TestScaffold.Fact
import TestScaffold.Swift.Grammar
import TestScaffold.Text.Search

namespace TestScaffold.Swift

open Text

structure Declaration where
  kind : FactKind
  name : String
  start : Nat
  qualifiers : List String := []
  effects : List String := []
  declaredType : Option String := none
  parameters : Option String := none
  deriving DecidableEq, Repr

def Declaration.isStatic (d : Declaration) : Bool :=
  d.qualifiers.contains "static" || d.qualifiers.contains "class"

def strippedText? (cs : List Char) : Option String :=
  let s := strip cs
  if s.isEmpty then none else some (String.ofList s)

def qualifierWords (cs : List Char) : List String :=
  (words cs).map fun w => String.ofList (w.takeWhile (· != '('))

def functionOf (m : Found Slot) : Declaration where
  kind := .function
  name := m.string .name
  start := m.startOf .name
  qualifiers := qualifierWords (m.text .qualifiers)
  effects := (words (m.text .effects)).map String.ofList
  declaredType := strippedText? (m.text .returns)
  parameters := strippedText? (m.text .parameters)

def propertyOf (m : Found Slot) : Declaration where
  kind := .property
  name := m.string .name
  start := m.startOf .name
  qualifiers := qualifierWords (m.text .qualifiers)
  declaredType := some (String.ofList (strip (m.text .type)))

def functions (source : List Char) : List Declaration :=
  (Grammar.function.scan source).map functionOf

def properties (source : List Char) : List Declaration :=
  (Grammar.property.scan source).map propertyOf

def typeNames (source : List Char) : List String :=
  (Grammar.typeDeclaration.scan source).map (·.string .name)

end TestScaffold.Swift
