import TestScaffold.Entries
import TestScaffold.Fact

namespace TestScaffold

structure DeclarationModel where
  units : List Fact := []
  typeName : Option String := none
  deriving DecidableEq, Repr

namespace DeclarationModel

def isEmpty (m : DeclarationModel) : Bool := m.units.isEmpty

def unitsOf (m : DeclarationModel) (k : FactKind) : List Fact := m.units.filter (·.kind = k)

def subject? (m : DeclarationModel) : Option String := m.typeName.filter (!·.isEmpty)

end DeclarationModel

structure ViewModel where
  name : String
  stateVariables : Entries String := []
  elements : List Fact := []
  isNavigationContainer : Bool := false
  hasTabContainer : Bool := false
  hasAlert : Bool := false
  hasContextMenu : Bool := false
  environmentObjects : Entries String := []
  rawBody : String := ""
  deriving DecidableEq, Repr

namespace ViewModel

def isEmpty (m : ViewModel) : Bool := m.elements.isEmpty

def elementsOf (m : ViewModel) (kinds : List FactKind) : List Fact :=
  m.elements.filter fun f => kinds.contains f.kind

def booleanState (m : ViewModel) : List String :=
  (m.stateVariables.filter (·.2 == "Bool")).map (·.1)

end ViewModel

end TestScaffold
