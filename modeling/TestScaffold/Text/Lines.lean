import TestScaffold.Text.Blank

namespace TestScaffold.Text

def lineBreaks : Ranges := [(0xa, 0xd), (0x1c, 0x1e), (0x85, 0x85), (0x2028, 0x2029)]

def isLineBreak (c : Char) : Bool := lineBreaks.has c

/-- The lines without their breaks. A carriage return with a line feed is one break, and nothing
follows the last one. -/
def lines : List Char → List (List Char)
  | [] => []
  | '\r' :: '\n' :: cs => [] :: lines cs
  | c :: cs =>
    if isLineBreak c then [] :: lines cs
    else match lines cs with
      | [] => [[c]]
      | l :: ls => (c :: l) :: ls

def indented (level : Nat) (line : String) : String :=
  String.ofList (List.replicate (4 * level) ' ') ++ line

def indentedUnlessBlank (level : Nat) (line : String) : String :=
  if blankText line then line else indented level line

def unixLines : List Char → List Char
  | [] => []
  | '\r' :: '\n' :: cs => '\n' :: unixLines cs
  | c :: cs => (if c == '\r' then '\n' else c) :: unixLines cs

end TestScaffold.Text
