import TestScaffold.Model
import TestScaffold.Problem
import TestScaffold.Render.Naming
import TestScaffold.Render.Options
import TestScaffold.Render.UnitTests
import TestScaffold.Text.Lines
import TestScaffold.Text.Search

namespace TestScaffold.Render

open Text

def comment (o : Options) (level : Nat) (texts : List String) : List String :=
  if o.comments then texts.map (indented level) else []

def header (name : String) (o : Options) : List String :=
  ["import XCTest",
   "",
   "class " ++ name ++ "Tests: XCTestCase \x7b",
   "",
   indented 1 "let app = XCUIApplication()",
   "",
   indented 1 "override func setUpWithError() throws \x7b",
   indented 2 "continueAfterFailure = false"] ++
  (if o.launchArguments then [indented 2 "app.launchArguments = [\"--uitesting\"]"] else []) ++
  comment o 2 ["// Launch the app and wait for it to be ready"] ++
  [indented 2 "app.launch()"] ++
  comment o 2
    ["// Navigate to " ++ name ++ " if needed", "// This depends on your app's structure"] ++
  [indented 1 "\x7d"]

def testFunction (o : Options) (doc name : String) (body : List String) : List String :=
  "" :: comment o 1 ["/// " ++ doc] ++ [indented 1 ("func " ++ name ++ "() throws \x7b")] ++ body ++
    [indented 1 "\x7d"]

def testFunctionFor {α : Type} (o : Options) (doc name : String) (subjects : List α)
    (body : List α → List String) : List String :=
  if subjects.isEmpty then [] else testFunction o doc name (body subjects)

def lookup (collection identifier : String) : String :=
  "app." ++ collection ++ "[\"" ++ swiftString identifier ++ "\"]"

def lookupOf (f : Fact) : String := lookup (query f.kind) (effectiveIdentifier f)

def letLine (v value : String) : String := indented 2 ("let " ++ v ++ " = " ++ value)

def assertExists (expression : String) : String :=
  indented 2 ("XCTAssertTrue(" ++ expression ++ ".exists)")

def tap (v : String) : String := indented 2 (v ++ ".tap()")

def noElementsMarker : String := "// No UI elements found to test"

def existenceLines (o : Options) (f : Fact) : List String :=
  if (effectiveIdentifier f).isEmpty then []
  else comment o 2 ["// Check that " ++ commentText f.label ++ " exists"] ++ [assertExists (lookupOf f)]

def existenceTest (m : ViewModel) (o : Options) : List String :=
  testFunction o "Test that verifies all UI elements exist" "testElementsExist" <|
    (if m.isEmpty then [indented 2 noElementsMarker] else []) ++
      m.elements.flatMap (existenceLines o)

def nameEach {α : Type} (choose : Fact → List String → α × List String) :
    List String → List Fact → List (Fact × α)
  | _, [] => []
  | used, f :: fs =>
    let (chosen, taken) := choose f used
    (f, chosen) :: nameEach choose (taken ++ used) fs

def chooseOne (suffix : String) (f : Fact) (used : List String) : String × List String :=
  let v := freshVariable (effectiveIdentifier f) used suffix
  (v, [v])

def sampleInput : String := "test input"

def inputLines (o : Options) (f : Fact) (v : String) : List String :=
  comment o 2 ["// Test input for " ++ commentText f.label] ++
  [letLine v (lookupOf f), assertExists v, tap v,
   indented 2 (v ++ ".typeText(\"" ++ sampleInput ++ "\")")] ++
  if f.kind = .secureField then
    comment o 2 ["// Secure fields do not expose their typed value"]
  else [indented 2 ("XCTAssertEqual(" ++ v ++ ".value as? String, \"" ++ sampleInput ++ "\")")]

def textInputTest (m : ViewModel) (o : Options) : List String :=
  testFunctionFor o "Test text input" "testTextInput"
    (m.elementsOf [.textField, .secureField])
    fun fs => (nameEach (chooseOne "Field") [] fs).flatMap fun p => inputLines o p.1 p.2

def tapLines (f : Fact) (v : String) : List String :=
  [letLine v (lookup "buttons" (effectiveIdentifier f)), assertExists v, tap v]

def buttonLines (o : Options) (f : Fact) (v : String) : List String :=
  comment o 2 ["// Test tap on " ++ commentText f.label ++ " button"] ++
  tapLines f v ++
  comment o 2 ["// Add assertions for the expected result of tapping this button"]

def buttonTest (m : ViewModel) (o : Options) : List String :=
  testFunctionFor o "Test button taps" "testButtonTaps"
    ((m.elementsOf [.button]).filter (·.hasAction))
    fun fs => (nameEach (chooseOne "") [] fs).flatMap fun p => buttonLines o p.1 p.2

structure ToggleNames where
  toggle : String
  initial : String
  updated : String
  deriving DecidableEq, Repr

def chooseToggle (f : Fact) (used : List String) : ToggleNames × List String :=
  let v := freshVariable (effectiveIdentifier f) used ""
  let i := freshVariable v (v :: used) "Initial"
  let u := freshVariable v (i :: v :: used) "Updated"
  (⟨v, i, u⟩, [u, i, v])

def toggleLines (o : Options) (f : Fact) (n : ToggleNames) : List String :=
  let value := n.toggle ++ ".value as? String"
  comment o 2 ["// Test " ++ commentText f.label ++ " toggle"] ++
  [letLine n.toggle (lookup "switches" (effectiveIdentifier f)),
   assertExists n.toggle,
   letLine n.initial value,
   tap n.toggle,
   letLine n.updated value,
   indented 2 ("XCTAssertNotEqual(" ++ n.initial ++ ", " ++ n.updated ++ ")")]

def toggleTest (m : ViewModel) (o : Options) : List String :=
  testFunctionFor o "Test toggles" "testToggles" (m.elementsOf [.toggle])
    fun fs => (nameEach chooseToggle [] fs).flatMap fun p => toggleLines o p.1 p.2

def mentions (state : String) (f : Fact) : Bool :=
  occurs state f.label || f.modifiers.any (occurs state)

def affected (m : ViewModel) : List (String × Fact) :=
  m.booleanState.flatMap fun s => (m.elements.filter (mentions s)).map (s, ·)

def stateLines (state : String) (f : Fact) : List String :=
  [indented 2 ("// Find elements that may be affected by " ++ state ++ " state"),
   indented 2 "// Trigger the state change (app-specific), then verify the UI, e.g.:",
   indented 2 ("// XCTAssertTrue(" ++ lookupOf f ++ ".exists)")]

def stateChangeTest (m : ViewModel) (o : Options) : List String :=
  testFunctionFor o "Test UI state changes" "testStateChanges" (affected m)
    fun ps => ps.flatMap fun p => stateLines p.1 p.2

def linkLines (o : Options) (f : Fact) (v : String) : List String :=
  comment o 2 ["// Test navigation for " ++ commentText f.label] ++
  tapLines f v ++
  comment o 2
    ["// Verify navigation occurred (replace with the actual destination check)",
     "// Example: XCTAssertTrue(app.navigationBars[\"Destination\"].exists)"] ++
  [indented 2 "app.navigationBars.buttons.element(boundBy: 0).tap()"]

def navigationTest (m : ViewModel) (o : Options) : List String :=
  let links := m.elementsOf [.navigationLink]
  testFunction o "Test navigation" "testNavigation" <|
    (if links.isEmpty then
      [indented 2 "// No navigation links found in this view",
       indented 2 "// Add custom navigation test code here"]
    else []) ++
    (nameEach (chooseOne "") [] links).flatMap fun p => linkLines o p.1 p.2

def unidentified (m : ViewModel) : List Fact :=
  m.elements.filter fun f => (f.identifier.getD "").isEmpty

def suggestionLines (f : Fact) : List String :=
  [" - " ++ commentText f.label ++ " (" ++ f.kindName ++ "):",
   "   .accessibility(identifier: \"" ++ swiftString (effectiveIdentifier f) ++ "\")"]

def suggestions (m : ViewModel) : List String :=
  match unidentified m with
  | [] => []
  | fs =>
    ["",
     "/* ACCESSIBILITY SUGGESTIONS",
     " The following UI elements are missing accessibility identifiers.",
     " Consider adding them to improve testability:"] ++
    fs.flatMap suggestionLines ++ [" */"]

def sections (m : ViewModel) (o : Options) : List (List String) :=
  [existenceTest m o,
   textInputTest m o,
   buttonTest m o,
   toggleTest m o,
   if o.stateTests then stateChangeTest m o else [],
   if o.navigationTests && m.isNavigationContainer then navigationTest m o else []]

def interfaceTestLines (m : ViewModel) (o : Options) : List String :=
  header m.name o ++ (sections m o).flatten ++ ["\x7d"] ++
    if o.suggestions then suggestions m else []

def namelessView : Problem := { kind := .invalidView, message := "View name cannot be empty" }

def interfaceTests (m : ViewModel) (o : Options) : Except Problem String :=
  if blankText m.name then .error namelessView else .ok (joinLines (interfaceTestLines m o))

end TestScaffold.Render
