import TestScaffold.Entries
import TestScaffold.Swift.Grammar
import TestScaffold.Text.Search

namespace TestScaffold.Swift

open Text

def viewName? (source : List Char) : Option String :=
  (Grammar.viewDeclaration.search? source).map (·.string .name)

def importsFramework (source : List Char) : Bool := Grammar.frameworkImport.occurs source

def declaresBody (source : List Char) : Bool := Grammar.bodyDeclaration.occurs source

structure Structure where
  isNavigationContainer : Bool
  hasTabContainer : Bool
  hasAlert : Bool
  hasContextMenu : Bool
  deriving DecidableEq, Repr

def structureOf (source : List Char) : Structure where
  isNavigationContainer := Grammar.navigationContainer.occurs source
  hasTabContainer := Grammar.tabContainer.occurs source
  hasAlert := Grammar.alertAttachment.occurs source
  hasContextMenu := Grammar.contextMenuAttachment.occurs source

def literalType? (expression : List Char) : Option String :=
  let e := strip (upTo ['/', '/'] expression)
  if e.isEmpty then none
  else if e.head? = some '"' then some "String"
  else if e = "true".toList || e = "false".toList then some "Bool"
  else if Grammar.floatLiteral.covers e then some "Double"
  else if Grammar.intLiteral.covers e then some "Int"
  else (Grammar.initializer.match? e).map (·.string .type)

def stateType (m : Found Slot) : String :=
  let declared := String.ofList (strip (m.text .type))
  if !declared.isEmpty then declared
  else
    match m.text? .initial with
    | some e => (literalType? e).getD "Any"
    | none => "Any"

def stateVariables (source : List Char) : Entries String :=
  .ofList ((Grammar.stateVariable.scan source).map fun m => (m.string .name, stateType m))

def environmentObjects (source : List Char) : Entries String :=
  .ofList ((Grammar.environmentObject.scan source).map fun m => (m.string .name, m.string .type))

end TestScaffold.Swift
