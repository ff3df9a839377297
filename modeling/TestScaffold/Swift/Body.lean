import TestScaffold.Swift.Grammar

namespace TestScaffold.Swift

inductive Region where
  | code
  | string
  | block
  | comment
  deriving DecidableEq, Repr

/-- The text up to the brace that closes the body, with `depth` braces open inside it. -/
def upToClose : Region → Nat → List Char → Option (List Char)
  | _, _, [] => none
  | .code, depth, c :: cs =>
    match c, cs with
    | '"', '"' :: '"' :: rest => (upToClose .block depth rest).map ("\"\"\"".toList ++ ·)
    | '"', rest => (upToClose .string depth rest).map ('"' :: ·)
    | '/', '/' :: rest => (upToClose .comment depth rest).map ("//".toList ++ ·)
    | '\x7b', rest => (upToClose .code (depth + 1) rest).map ('\x7b' :: ·)
    | '\x7d', rest =>
      match depth with
      | 0 => some []
      | d + 1 => (upToClose .code d rest).map ('\x7d' :: ·)
    | d, rest => (upToClose .code depth rest).map (d :: ·)
  | .string, depth, c :: cs =>
    match c, cs with
    | '\\', d :: rest => (upToClose .string depth rest).map (['\\', d] ++ ·)
    | '"', rest => (upToClose .code depth rest).map ('"' :: ·)
    | '\n', rest => (upToClose .code depth rest).map ('\n' :: ·)
    | d, rest => (upToClose .string depth rest).map (d :: ·)
  | .block, depth, c :: cs =>
    match c, cs with
    | '"', '"' :: '"' :: rest => (upToClose .code depth rest).map ("\"\"\"".toList ++ ·)
    | d, rest => (upToClose .block depth rest).map (d :: ·)
  | .comment, depth, c :: cs =>
    if c == '\n' then (upToClose .code depth cs).map (c :: ·)
    else (upToClose .comment depth cs).map (c :: ·)

def body? (source : List Char) : Option (List Char) :=
  match Grammar.bodyOpening.search? source with
  | some m => upToClose .code 0 (source.drop m.stop)
  | none => none

end TestScaffold.Swift
