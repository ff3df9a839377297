import TestScaffold.Text.Emoji
import TestScaffold.Text.Markup.Handler
import TestScaffold.Text.Markup.Style

/-!
Text with styles: a tag in brackets opens a style, the tag with a slash closes it, and a backslash
before a tag makes it text. Here the styles are dropped and the text is kept, with the emoji that its
codes stand for.
-/

namespace TestScaffold.Text.Markup

structure Tag where
  name : List Char
  parameters : Option (List Char) := none
  deriving DecidableEq, Repr

inductive Piece where
  | text (cs : List Char)
  | opening (tag : Tag)
  | closing (style : List Char)
  deriving DecidableEq, Repr

inductive MarkupError where
  | nothingToClose
  | badHandler
  | notANumber
  deriving DecidableEq, Repr

def startsTag (c : Char) : Bool := ('a' ≤ c && c ≤ 'z') || ['#', '/', '@'].contains c

def tagLength? (cs : List Char) : Option Nat :=
  if !(cs.head?.map startsTag).getD false then none
  else
    let tag := cs.takeWhile fun c => c != '[' && c != ']'
    if (cs.drop tag.length).head? = some ']' then some tag.length else none

def tagPiece (tag : List Char) : Piece :=
  let name := tag.takeWhile (· != '=')
  match name with
  | '/' :: style => .closing (strip style)
  | _ => .opening ⟨name, if name.length = tag.length then none else some (tag.drop (name.length + 1))⟩

/-- The text up to the first tag and the pieces from there on, of a text behind the given number of
backslashes. Before a tag each pair of them is one backslash, and a single one makes the tag text. -/
def pieces (slashes : Nat) : List Char → List Char × List Piece
  | [] => (List.replicate slashes '\\', [])
  | c :: cs =>
    if c = '\\' then pieces (slashes + 1) cs
    else if c = '[' then
      match tagLength? cs with
      | none =>
        let r := pieces 0 cs
        (List.replicate (slashes - 1) '\\' ++ '[' :: r.1, r.2)
      | some n =>
        let tag := cs.take n
        let here := if slashes % 2 = 0 then tagPiece tag else .text ('[' :: tag ++ [']'])
        let r := pieces 0 (cs.drop (n + 1))
        ([], .text (List.replicate (slashes / 2) '\\') :: here :: .text r.1 :: r.2)
    else
      let r := pieces 0 cs
      (List.replicate slashes '\\' ++ c :: r.1, r.2)
  termination_by cs => cs.length
  decreasing_by all_goals simp; try omega

def styleName (name : List Char) : Except MarkupError String :=
  match normalStyle name with
  | .ok style => .ok style
  | .error _ => .error .notANumber

structure Opened where
  style : String
  parameters : Option (List Char)

def Opened.close (o : Opened) : Except MarkupError Unit :=
  if o.style.toList.head? == some '@' && !handsOver (o.parameters.getD []) then .error .badHandler
  else .ok ()

def settle (styles : List Opened) : List Piece → Except MarkupError (List Char)
  | [] => .ok []
  | .text cs :: ps => (settle styles ps).map (withEmoji cs ++ ·)
  | .opening tag :: ps => do
    let style ← styleName tag.name
    settle (⟨style, tag.parameters⟩ :: styles) ps
  | .closing [] :: ps =>
    match styles with
    | [] => .error .nothingToClose
    | o :: rest => do
      o.close
      settle rest ps
  | .closing name :: ps => do
    let style ← styleName name
    match styles.find? (·.style == style) with
    | none => .error .nothingToClose
    | some o =>
      o.close
      settle (styles.eraseP (·.style == style)) ps

def plain (s : String) : Except MarkupError String :=
  let r := pieces 0 s.toList
  (settle [] (.text r.1 :: r.2)).map String.ofList

end TestScaffold.Text.Markup
