import TestScaffold.Model
import TestScaffold.Problem
import TestScaffold.Swift.Body
import TestScaffold.Swift.Declarations
import TestScaffold.Swift.Elements
import TestScaffold.Swift.View

/-!
From source text to facts, and from facts to models.
-/

namespace TestScaffold

open Swift Text

inductive Profile where
  | declarations | viewElements
  deriving DecidableEq, Repr

def Profile.ofName? : String → Option Profile
  | "declarations" => some .declarations
  | "view_elements" => some .viewElements
  | _ => none

def factOfDeclaration (d : Declaration) : Fact where
  kind := d.kind
  name := d.name
  isStatic := d.isStatic
  modifiers := (d.qualifiers.filter fun q => q != "static" && q != "class") ++ d.effects
  declaredType := d.declaredType
  parameters := d.parameters
  position := d.start

def declarationPass (ds : List Declaration) : List Fact :=
  firstOfEachName [] (ds.map factOfDeclaration)

def declarationFacts (source : List Char) : List Fact :=
  declarationPass (functions source) ++ declarationPass (properties source)

def elementPasses : List (List Char → List ElementCall) :=
  [buttons, textInputs, staticTexts, toggles, navigationLinks]

def factOfCall (window : Int) (span : List Char) (call : ElementCall) : Fact :=
  let behind := slice call.stop (call.stop + window) span
  { kind := call.kind
    name := call.label
    identifier := identifier? behind
    modifiers := Swift.modifiers behind
    hasAction := call.kind.hasAction
    position := call.start }

def elementFacts (window : Int) (span : List Char) : List Fact :=
  elementPasses.flatMap fun pass =>
    ((pass span).filter (!blankText ·.label)).map (factOfCall window span)

structure ViewScan where
  elements : List Fact
  span : String
  bodyIsolated : Bool
  deriving DecidableEq, Repr

def emptySource : Problem := { kind := .emptyInput, message := "Source text is empty" }

def requireText (source : String) : Except Problem Unit :=
  if blankText source then .error emptySource else .ok ()

/-- The elements of the body, or of the whole source when the body has none or cannot be told. -/
def scanElements (window : Int) (source : String) : ViewScan :=
  let whole := source.toList
  let fallback : ViewScan := ⟨elementFacts window whole, source, false⟩
  match body? whole with
  | none => fallback
  | some body =>
    match elementFacts window body with
    | [] => fallback
    | elements => ⟨elements, String.ofList body, true⟩

def scanView (window : Int) (source : String) : Except Problem ViewScan := do
  requireText source
  return scanElements window source

def extract (window : Int) (profile : Profile) (source : String) : Except Problem (List Fact) := do
  requireText source
  match profile with
  | .declarations => return declarationFacts source.toList
  | .viewElements => return (scanElements window source).elements

/-- Positioned facts come first, in source order; the order of equals is kept. -/
def placedBefore (f g : Fact) : Bool :=
  if (decide (f.position < 0)) != (decide (g.position < 0)) then decide (0 ≤ f.position)
  else f.position ≤ g.position

def buildDeclarations (facts : List Fact) (source : Option String) : DeclarationModel where
  units := firstOfEachName [] ((facts.filter (·.kind.isDeclaration)).mergeSort placedBefore)
  typeName := source.bind fun s => (typeNames s.toList).head?

def notAView (source : String) : Problem :=
  { kind := .notAView
    message := "Source does not import SwiftUI"
    context := [("size", .int source.length)] }

def nameNotFound : Problem := { kind := .nameNotFound, message := "No View struct declaration found" }

def missingBody (view : String) : Problem :=
  { kind := .missingBody
    message := "View has no body declaration"
    context := [("view", .string view)] }

def requireView (source : String) : Except Problem String := do
  requireText source
  let cs := source.toList
  if !importsFramework cs then throw (notAView source)
  match viewName? cs with
  | none => throw nameNotFound
  | some name =>
    if !declaresBody cs then throw (missingBody name)
    return name

def assembleView (name : String) (source : String) (elements : List Fact) (rawBody : String) :
    ViewModel :=
  let cs := source.toList
  let s := structureOf cs
  { name
    stateVariables := stateVariables cs
    elements
    isNavigationContainer := s.isNavigationContainer
    hasTabContainer := s.hasTabContainer
    hasAlert := s.hasAlert
    hasContextMenu := s.hasContextMenu
    environmentObjects := environmentObjects cs
    rawBody }

def inspectView (window : Int) (source : String) : Except Problem (String × ViewScan) := do
  let name ← requireView source
  return (name, scanElements window source)

def buildView (window : Int) (source : String) : Except Problem ViewModel := do
  let (name, scan) ← inspectView window source
  return assembleView name source scan.elements scan.span

def buildViewWith (facts : List Fact) (source : String) : Except Problem ViewModel := do
  let name ← requireView source
  let rawBody :=
    match body? source.toList with
    | some (c :: cs) => String.ofList (c :: cs)
    | _ => source
  return assembleView name source (facts.filter (!·.kind.isDeclaration)) rawBody

end TestScaffold
