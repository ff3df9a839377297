import TestScaffold.Swift.Grammar
import TestScaffold.Text.Search

namespace TestScaffold.Render

open Text Swift

/-- How a character changes the depth of brackets. The head of an arrow closes nothing. -/
def depthEffect (before : Option Char) (c : Char) : Int :=
  if c == '(' || c == '[' || c == '<' then 1
  else if c == ')' || c == ']' then -1
  else if c == '>' && before != some '-' then -1
  else 0

def commaPieces (before : Option Char) (depth : Int) : List Char → List (List Char)
  | [] => [[]]
  | c :: cs =>
    let d := depth + depthEffect before c
    if c == ',' && d == 0 then [] :: commaPieces (some c) d cs
    else (commaPieces (some c) d cs).modifyHead (c :: ·)

def splitParameters (parameters : List Char) : List (List Char) :=
  ((commaPieces none 0 parameters).map strip).filter (!·.isEmpty)

def parameterType (typeText : List Char) : List Char :=
  let t := strip (Grammar.typeAttribute.erase (typeText.takeWhile (· != '=')))
  if t.isEmpty then "Any".toList else t

def argument (parameter : List Char) : List Char :=
  let names := parameter.takeWhile (· != ':')
  let typeText := (parameter.dropWhile (· != ':')).drop 1
  let placeholder := ['<', '#'] ++ parameterType typeText ++ ['#', '>']
  match words names with
  | [] => placeholder
  | label :: _ => if label = ['_'] then placeholder else label ++ [':', ' '] ++ placeholder

def callArguments (parameters : List Char) : List Char :=
  [',', ' '].intercalate ((splitParameters parameters).map argument)

end TestScaffold.Render
