import TestScaffold.Pattern.Scan
import TestScaffold.Text.Blank
import TestScaffold.Text.Word

namespace TestScaffold.Reply

open Text Pattern

structure Code where
  code : String
  language : Option String := none
  deriving DecidableEq, Repr

abbrev FencePattern := Pattern Unit

namespace FencePattern

def fence : FencePattern := lit "```"

def isTagChar (c : Char) : Bool := isWord c || ['+', '#', '.', '-'].contains c

def tag : FencePattern := star (.one isTagChar)

def gap : FencePattern := star (.one fun c => c == ' ' || c == '\t')

def newline : FencePattern := optional (char '\n')

def code : FencePattern := .capture () (starLazy anyChar)

def textEnd : FencePattern := .place fun _ b => b.isNone

def whole : FencePattern :=
  all [
    star (.one isBlank), fence, tag, gap, newline, code, newline, gap, fence, star (.one isBlank),
    textEnd]

def swiftBlock : FencePattern := all [lit "```swift", gap, newline, code, fence]

def anyBlock : FencePattern := all [fence, tag, gap, newline, code, fence]

end FencePattern

def fenceTag (cs : List Char) : List Char :=
  strip (((strip cs).drop 3).takeWhile (· != '\n'))

def wholeBlock? (cs : List Char) : Option Code :=
  match FencePattern.whole.match? cs with
  | none => none
  | some m =>
    let code := strip (m.text ())
    if code.isEmpty then none
    else
      let tag := fenceTag cs
      some ⟨String.ofList code, if tag.isEmpty then none else some (String.ofList tag)⟩

def blockWithin? (cs : List Char) : Option (List Char) :=
  ((FencePattern.swiftBlock.search? cs).orElse fun _ => FencePattern.anyBlock.search? cs).map
    fun m => strip (m.text ())

end TestScaffold.Reply
