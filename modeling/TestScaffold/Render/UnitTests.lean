import TestScaffold.Model
import TestScaffold.Render.Naming
import TestScaffold.Render.Parameters
import TestScaffold.Text.Lines

namespace TestScaffold.Render

open Text

def joinLines (lines : List String) : String := "\n".intercalate lines ++ "\n"

def assertion (type expression : String) : String :=
  if type == "Int" then "XCTAssertEqual(" ++ expression ++ ", 0)"
  else if type == "Bool" then "XCTAssertFalse(" ++ expression ++ ")"
  else "XCTAssertNotNil(" ++ expression ++ ")"

def access (subject : String) (u : Fact) : String :=
  let target := (if u.isStatic then subject else "sut") ++ "." ++ u.name
  if u.kind = .function then
    target ++ "(" ++ String.ofList (callArguments ((u.parameters.getD "").toList)) ++ ")"
  else target

def returnType (u : Fact) : String := stripped (u.declaredType.getD "")

def returnsNothing (u : Fact) : Bool :=
  u.kind = .function && ["", "Void", "()"].contains (returnType u)

def statements (subject : String) (u : Fact) : List String :=
  let use := access subject u
  let marked := (if u.isThrowing then "try " else "") ++ (if u.isAsync then "await " else "") ++ use
  if u.isAsync then
    if returnsNothing u then [marked]
    else ["let result = " ++ marked, assertion (returnType u) "result"]
  else if returnsNothing u then ["XCTAssertNoThrow(try " ++ use ++ ")"]
  else [assertion (returnType u) marked]

def bodyLines (body : String) : List String :=
  (lines (stripOf (· == '\n') body.toList)).map fun l =>
    indentedUnlessBlank 2 (String.ofList l)

def testName (u : Fact) : String := "test" ++ capitalizeFirst u.name

def signature (u : Fact) (given : Bool) : String :=
  "func " ++ testName u ++ "()" ++ (if u.isAsync then " async" else "") ++
    (if u.isThrowing || given then " throws" else "") ++ " \x7b"

def unitTest (subject : String) (body? : Option String) (u : Fact) : List String :=
  indented 1 (signature u body?.isSome) ::
    (match body? with
      | some body => bodyLines body
      | none => (statements subject u).map (indented 2)) ++
    [indented 1 "\x7d"]

def fixture (subject : String) : List String :=
  ["",
   indented 1 ("var sut: " ++ subject ++ "!"),
   "",
   indented 1 "override func setUp() \x7b",
   indented 2 "super.setUp()",
   indented 2 ("sut = " ++ subject ++ "()"),
   indented 1 "\x7d",
   "",
   indented 1 "override func tearDown() \x7b",
   indented 2 "sut = nil",
   indented 2 "super.tearDown()",
   indented 1 "\x7d"]

def unitTestLines (m : DeclarationModel) (bodies : Entries String) : List String :=
  let subject := m.subject?.getD "<#SystemUnderTest#>"
  ["import XCTest", "", "class " ++ m.subject?.getD "Generated" ++ "Tests: XCTestCase \x7b"] ++
    (if m.isEmpty then [] else
      fixture subject ++
        m.units.flatMap fun u => "" :: unitTest subject (bodies.get? u.name) u) ++
    ["\x7d"]

def unitTests (m : DeclarationModel) (bodies : Entries String) : String :=
  joinLines (unitTestLines m bodies)

end TestScaffold.Render
