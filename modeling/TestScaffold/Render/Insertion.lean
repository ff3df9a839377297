import TestScaffold.Text.Blank

namespace TestScaffold.Render

open Text

def insertion (code : String) (kind : String) (viewName : Option String) : String :=
  let header :=
    if kind = "unit" then "// MARK: - Generated Unit Tests" else "// MARK: - Generated XCUITests"
  let file := (viewName.filter (!·.isEmpty)).getD "Generated" ++ "Tests.swift"
  let advice :=
    if kind = "ui" then
      ["// Suggestion: Move these tests to a separate file named '" ++ file ++ "'"]
    else []
  let trimmed := String.ofList (dropEndWhile (· == '\n') code.toList)
  "\n".intercalate (["", header] ++ advice ++ ["", trimmed, ""])

end TestScaffold.Render
