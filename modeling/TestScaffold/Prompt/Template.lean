import TestScaffold.Entries
import TestScaffold.Text.Digest
import TestScaffold.Text.Word

/-!
Prompt templates: text with named fields in braces, where a brace that is text is written twice.
-/

namespace TestScaffold.Prompt

inductive Piece where
  | literal (text : List Char)
  | field (name : String)
  deriving DecidableEq, Repr

inductive TemplateError where
  | looseBrace
  | namelessField
  | hugeNumber
  | missingVariable (name : String)
  deriving DecidableEq, Repr

/-- What is wrong with the name of a field, of which the digits so far make the number `n`. A number that
grows too large is a fault whatever follows. -/
def nameFaultAfter (n : Nat) : List Char → Option TemplateError
  | [] => some .namelessField
  | c :: cs =>
    match Text.digitValue? c with
    | none => none
    | some d => if 10 * n + d ≤ 0x7fffffffffffffff then nameFaultAfter (10 * n + d) cs else some .hugeNumber

def nameFault? (name : List Char) : Option TemplateError := nameFaultAfter 0 name

def fill (vars : Entries String) : Nat → List Char → Except TemplateError (List Char)
  | 0, _ => .ok []
  | _ + 1, [] => .ok []
  | fuel + 1, c :: cs =>
    if c == '\x7b' then
      match cs with
      | '\x7b' :: rest => (fill vars fuel rest).map ('\x7b' :: ·)
      | _ =>
        let name := cs.takeWhile (· != '\x7d')
        match cs.drop name.length with
        | [] => .error .looseBrace
        | _ :: rest =>
          if name.contains '\x7b' then .error .looseBrace
          else
            match nameFault? name, vars.get? (String.ofList name) with
            | some e, _ => .error e
            | none, none => .error (.missingVariable (String.ofList name))
            | none, some v => (fill vars fuel rest).map (v.toList ++ ·)
    else if c == '\x7d' then
      match cs with
      | '\x7d' :: rest => (fill vars fuel rest).map ('\x7d' :: ·)
      | _ => .error .looseBrace
    else (fill vars fuel cs).map (c :: ·)

def fillText (template : String) (vars : Entries String) : Except TemplateError String :=
  (fill vars template.length template.toList).map String.ofList

def writeLiteral (cs : List Char) : List Char :=
  cs.flatMap fun c => if c == '\x7b' || c == '\x7d' then [c, c] else [c]

def Piece.write : Piece → List Char
  | .literal text => writeLiteral text
  | .field name => '\x7b' :: name.toList ++ ['\x7d']

inductive CallError where
  | fault (e : TemplateError)
  | takenName
  deriving DecidableEq, Repr

structure Template where
  id : String
  version : String
  system : String
  user : String
  format : String := ""

namespace Template

def render (t : Template) (vars : Entries String) : Except TemplateError String :=
  (fillText t.user vars).map fun prompt =>
    if t.format.isEmpty then prompt else prompt ++ "\n\n" ++ t.format

/-- The name of the template among what is passed in a call. -/
def ownName : String := "self"

def call (t : Template) (vars : Entries String) : Except CallError String :=
  if (vars.get? ownName).isSome then .error .takenName else (t.render vars).mapError .fault

def digest (t : Template) : String :=
  let text := t.id ++ ":" ++ t.version ++ ":" ++ t.system ++ ":" ++ t.user
  String.ofList ((Text.Digest.ofText text).toList.take 16)

end Template

end TestScaffold.Prompt
