import TestScaffold.Fact
import TestScaffold.Swift.Grammar

namespace TestScaffold.Swift

structure ElementCall where
  kind : FactKind
  label : String
  start : Nat
  stop : Nat
  binding : Option String := none
  deriving DecidableEq, Repr

def labelOf (m : Found Slot) : String :=
  (([Slot.label, .content, .trailing].findSome? m.string?).getD "")

def callOf (kind : FactKind) (m : Found Slot) : ElementCall :=
  { kind, label := labelOf m, start := m.start, stop := m.stop, binding := m.string? .binding }

def buttons (source : List Char) : List ElementCall :=
  (Grammar.button.scan source).map (callOf .button)

def textInputs (source : List Char) : List ElementCall :=
  (Grammar.textInput.scan source).map fun m =>
    callOf (if m.string .control = "SecureField" then .secureField else .textField) m

def staticTexts (source : List Char) : List ElementCall :=
  (Grammar.staticText.scan source).map (callOf .text)

def toggles (source : List Char) : List ElementCall :=
  (Grammar.toggle.scan source).map (callOf .toggle)

def navigationLinks (source : List Char) : List ElementCall :=
  (Grammar.navigationLink.scan source).map (callOf .navigationLink)

def identifier? (span : List Char) : Option String :=
  (Grammar.accessibilityIdentifier.search? span).map (·.string .identifier)

def modifiers (span : List Char) : List String :=
  (Grammar.modifier.scan span).map (·.string .name)

end TestScaffold.Swift
