import TestScaffold.Prompt.Template

namespace TestScaffold.Prompt

def text (lines : List String) : String := "\n".intercalate lines

def declarationsTemplate : Template where
  id := "declaration_extraction_v1"
  version := "1.0.0"
  system := text
    ["You are an expert Swift developer. You read Swift source code and",
     "list the declarations a unit test should cover.",
     "",
     "RULES:",
     "1. Report every function and every stored or computed property",
     "2. A declaration is static only if it is marked `static` or `class`",
     "3. Use the exact identifier from the source as the name",
     "4. Omit the return type for functions that return nothing",
     "5. Reply with JSON only",
     ""]
  user := text
    ["Extract all the functions in this code, also include the name, the return type, and if" ++
       " it is static. Extract all the properties in this code, also include the name and if it" ++
       " is static.",
     "",
     "Local analysis result: \x7bfailure\x7d",
     "",
     "```swift",
     "\x7bsource\x7d",
     "```"]
  format := text
    ["Respond with a JSON object of this shape:",
     "\x7b",
     "  \"typeName\": \"the first type declared in the code, or null\",",
     "  \"declarations\": [",
     "    \x7b\"name\": \"run\", \"type\": \"function\", \"isStatic\": true, \"returnType\":" ++
       " \"Int\"\x7d,",
     "    \x7b\"name\": \"title\", \"type\": \"property\", \"isStatic\": false," ++
       " \"returnType\": \"String\"\x7d",
     "  ]",
     "\x7d"]

def viewTemplate : Template where
  id := "view_analysis_v1"
  version := "1.0.0"
  system := text
    ["You are an expert iOS developer specializing in SwiftUI and XCUITest.",
     "You describe SwiftUI views so that UI tests can be generated for them.",
     "",
     "ELEMENT TYPES:",
     "button, textField, secureField, text, toggle, picker, slider, navigationLink, list.",
     "Use the SwiftUI type name for any other interactive view.",
     "",
     "RULES:",
     "1. Report elements in the order they appear in the body",
     "2. Use the visible label text as the label",
     "3. Report an identifier only if the code attaches one",
     "4. hasAction is true for buttons and navigation links",
     "5. Reply with JSON only",
     ""]
  user := text
    ["Analyze the following SwiftUI code and return a JSON representation of the UI elements," ++
       " including their types, labels, and identifiers.",
     "",
     "Local analysis result: \x7bfailure\x7d",
     "",
     "```swift",
     "\x7bsource\x7d",
     "```"]
  format := text
    ["Respond with a JSON object of this shape:",
     "\x7b",
     "  \"name\": \"LoginView\",",
     "  \"elements\": [",
     "    \x7b\"type\": \"button\", \"label\": \"Login\", \"identifier\": \"login_button\"," ++
       " \"modifiers\": [\"padding\"], \"hasAction\": true\x7d",
     "  ],",
     "  \"stateVariables\": [\x7b\"name\": \"isLoggedIn\", \"type\": \"Bool\"\x7d],",
     "  \"isNavigationView\": false,",
     "  \"hasTabBar\": false,",
     "  \"hasAlert\": false,",
     "  \"hasContextMenu\": false,",
     "  \"environmentObjects\": [\x7b\"name\": \"session\", \"type\": \"SessionStore\"\x7d]",
     "\x7d"]

def codeTemplate : Template where
  id := "test_authoring_v1"
  version := "1.0.0"
  system := text
    ["You are an expert iOS developer specializing in XCTest and XCUITest automation.",
     "Focus on testability and maintainability. Write code that compiles in an Xcode test target.",
     ""]
  user := text
    ["\x7binstructions\x7d",
     "",
     "Local analysis result: \x7bfailure\x7d",
     "",
     "Swift code:",
     "```swift",
     "\x7bsource\x7d",
     "```"]
  format := "Please respond with only the code, wrapped in ```swift and ``` tags."

def interfaceInstructions : String :=
  text
    ["Given the following SwiftUI code, generate appropriate XCUITest test cases that would" ++
       " verify the functionality and UI elements of this view.",
     "",
     "Focus on:",
     "1. Identifying UI elements and adding accessibility identifiers if missing",
     "2. Testing user interactions (taps, text entry)",
     "3. Verifying state changes and UI updates",
     "4. Navigation testing if applicable",
     "5. Handling edge cases like empty states or error conditions",
     "",
     "Important guidelines:",
     "- Always use proper XCTest assertions",
     "- Use the app's launch arguments to set up the environment if needed",
     "- Add clear comments explaining test strategy and assumptions",
     "- Suggest accessibility identifiers for UI elements that don't have them"]

def bodyInstructions : String :=
  text
    ["Generate a test for this function or property: \x7bunit_name\x7d, and this is the type:" ++
       " \x7bunit_type\x7d.",
     "Return only the statements of the test method body, without the func declaration."]

def orElse (s other : String) : String := if s.isEmpty then other else s

structure SourceRequest where
  source : String
  failure : String := ""
  deriving DecidableEq, Repr

def SourceRequest.values (nothing : String) (r : SourceRequest) : Entries String :=
  [("source", r.source), ("failure", orElse r.failure nothing)]

inductive CodeTarget where
  | interface | unitBody
  deriving DecidableEq, Repr

structure CodeRequest where
  source : String
  target : CodeTarget := .interface
  unitName : Option String := none
  unitType : Option String := none
  failure : String := ""
  deriving DecidableEq, Repr

def CodeRequest.instructions (r : CodeRequest) : Except TemplateError String :=
  match r.target with
  | .interface => .ok interfaceInstructions
  | .unitBody =>
    fillText bodyInstructions
      [("unit_name", r.unitName.getD ""), ("unit_type", orElse (r.unitType.getD "") "unknown")]

def CodeRequest.values (r : CodeRequest) : Except TemplateError (Entries String) :=
  r.instructions.map fun instructions =>
    [("instructions", instructions), ("source", r.source), ("failure", orElse r.failure "none")]

end TestScaffold.Prompt
