import TestScaffold.Text.Lines
import TestScaffold.Text.Markup
import TestScaffold.Text.Screen

namespace TestScaffold.CommandLine.Console

open Text

def movesCursor (c : Char) : Bool := ['\x07', '\x08', '\x0b', '\x0c', '\r'].contains c

def shown (text : String) : Except Markup.MarkupError (List Char) :=
  (Markup.plain text).map fun s => s.toList.filter (!movesCursor ·)

def expandedLines (cs : List Char) : List (List Char) :=
  (pieces (· == '\n') cs).map (expandTabs 0)

def lines (text : String) : Except Markup.MarkupError (List String) :=
  (shown text).map fun cs =>
    ((expandedLines cs).map fun l => String.ofList (strip l)).filter (!·.isEmpty)

def cellWidth (cs : List Char) : Nat := ((Text.lines cs).map width).foldl max 0

def columnWidths (table : List (List (List Char))) : List Nat :=
  table.foldl (fun ws row => row.zipIdx.map fun c => max (ws.getD c.2 0) (cellWidth c.1)) []

def cellLines (column : Nat) (cs : List Char) : List String :=
  ((expandedLines cs).flatMap (wrap column)).map fun l => String.ofList (strip l)

def rowLines (cells : List (List String)) : List String :=
  let height := (cells.map List.length).foldl max 0
  let lines := (List.range height).map fun n =>
    " | ".intercalate ((cells.filterMap (·[n]?)).filter (!·.isEmpty))
  lines.filter (!·.isEmpty)

def tableLines (title : String) (table : List (List String)) :
    Except Markup.MarkupError (List String) :=
  (table.mapM (List.mapM shown)).map fun table =>
    let widths := columnWidths table
    title ::
      table.flatMap fun row => rowLines (row.zipIdx.map fun c => cellLines (widths.getD c.2 1) c.1)

end TestScaffold.CommandLine.Console
