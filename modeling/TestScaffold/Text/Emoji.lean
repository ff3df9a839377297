import TestScaffold.Text.Blank
import TestScaffold.Text.Casing
import TestScaffold.Text.Emoji.Table

namespace TestScaffold.Text

def inPairs {α : Type} : List α → List (α × α)
  | a :: b :: rest => (a, b) :: inPairs rest
  | _ => []

def emojiTable : List (String × String) := inPairs (wordsOf emojiWords)

def emoji? (name : List Char) : Option (List Char) :=
  let key := String.ofList (lower name)
  (emojiTable.find? (·.1 == key)).map (·.2.toList)

def emojiVariants : List (List Char × Char) :=
  [("-text".toList, '\ufe0e'), ("-emoji".toList, '\ufe0f')]

def emojiOfCode? (code : List Char) : Option (List Char) :=
  match emojiVariants.find? fun v => v.1.isSuffixOf code with
  | some (word, selector) =>
    (emoji? (code.take (code.length - word.length))).map (· ++ [selector])
  | none => emoji? code

def emojiCode? (cs : List Char) : Option (List Char) :=
  let code := cs.takeWhile fun c => c != ':' && !isBlank c
  if (cs.drop code.length).head? = some ':' then some code else none

def withEmoji : List Char → List Char
  | [] => []
  | c :: cs =>
    if c = ':' then
      match emojiCode? cs with
      | none => c :: withEmoji cs
      | some code =>
        (emojiOfCode? code).getD (':' :: code ++ [':']) ++ withEmoji (cs.drop (code.length + 1))
    else c :: withEmoji cs
  termination_by cs => cs.length
  decreasing_by all_goals simp; try omega

end TestScaffold.Text
