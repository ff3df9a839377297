import TestScaffold.Decimal.Reading
import TestScaffold.Text.Blank

namespace TestScaffold.Text.Markup

abbrev Rest := Option (List Char)

def skipBlanks (cs : List Char) : List Char := cs.dropWhile isBlank

def hexDigits (n : Nat) (cs : List Char) : Rest :=
  if (cs.take n).length == n && (cs.take n).all fun c =>
      isAsciiDigit c || ('a' ≤ c && c ≤ 'f') || ('A' ≤ c && c ≤ 'F') then
    some (cs.drop n)
  else none

def isQuote (c : Char) : Bool := c == '"' || c == '\x27'

inductive StringKind where
  | plain
  | raw
  | bytes
  deriving DecidableEq, Repr

def behindString (kind : StringKind) (quote : Char) : Nat → List Char → Rest
  | 0, _ | _ + 1, [] => none
  | fuel + 1, c :: cs =>
    if c == quote then some cs
    else if c == '\n' || (kind == .bytes && 128 ≤ c.toNat) then none
    else if c == '\\' then
      match cs with
      | [] => none
      | e :: more =>
        if e == 'x' && kind != .raw then (hexDigits 2 more).bind (behindString kind quote fuel)
        else if e == 'u' && kind == .plain then
          (hexDigits 4 more).bind (behindString kind quote fuel)
        else behindString kind quote fuel more
    else behindString kind quote fuel cs

def behindQuoted (cs : List Char) : Rest :=
  match cs with
  | c :: more =>
    if isQuote c then behindString .plain c cs.length more
    else
      match more with
      | q :: rest =>
        if !isQuote q then none
        else if c == 'r' || c == 'R' then behindString .raw q cs.length rest
        else if c == 'b' || c == 'B' then behindString .bytes q cs.length rest
        else if c == 'u' || c == 'U' then behindString .plain q cs.length rest
        else none
      | [] => none
  | [] => none

def behindDigits (isDigit : Char → Bool) (cs : List Char) : Rest :=
  match Decimal.takeDigits (fun c => if isDigit c then some 0 else none) false cs with
  | ([], _) => none
  | (_, rest) => some rest

def isHex (c : Char) : Bool :=
  isAsciiDigit c || ('a' ≤ c && c ≤ 'f') || ('A' ≤ c && c ≤ 'F')

def behindExponent (cs : List Char) : List Char :=
  match cs with
  | c :: more =>
    if c == 'e' || c == 'E' then (behindDigits isAsciiDigit (Decimal.takeSign more).2).getD cs else cs
  | [] => cs

def behindDecimal (cs : List Char) : Rest :=
  let (whole, rest) := Decimal.takeDigits Decimal.asciiDigit? false cs
  let (places, more) :=
    match rest with
    | '.' :: more => Decimal.takeDigits Decimal.asciiDigit? false more
    | _ => ([], rest)
  if whole.isEmpty && places.isEmpty then none
  else
    let final := behindExponent more
    let broken := final.length < rest.length
    match final with
    | 'j' :: final | 'J' :: final => some final
    | _ => if broken || whole.head? != some 0 || whole.all (· == 0) then some final else none

def behindNumber (cs : List Char) : Rest :=
  match cs with
  | '0' :: c :: more =>
    if c == 'x' || c == 'X' then behindDigits isHex more
    else if c == 'o' || c == 'O' then behindDigits (fun c => '0' ≤ c && c ≤ '7') more
    else if c == 'b' || c == 'B' then behindDigits (fun c => c == '0' || c == '1') more
    else behindDecimal cs
  | _ => behindDecimal cs

def wordValues : List String := ["True", "False", "None", "..."]

def behindWord (cs : List Char) : Rest :=
  wordValues.findSome? fun w => if w.toList.isPrefixOf cs then some (cs.drop w.length) else none

def behindStrings : Nat → List Char → Rest
  | 0, _ => none
  | fuel + 1, cs => (behindQuoted cs).bind fun rest =>
    some ((behindStrings fuel (skipBlanks rest)).getD rest)

mutual

def behindValue : Nat → List Char → Rest
  | 0, _ => none
  | fuel + 1, cs =>
    match cs with
    | '(' :: more => behindItems fuel ')' (skipBlanks more)
    | '\x7b' :: more =>
      let more := skipBlanks more
      (behindItems fuel '\x7d' more).or (behindEntries fuel more)
    | '-' :: more | '+' :: more => behindNumber (skipBlanks more)
    | _ => (behindStrings fuel cs).or ((behindWord cs).or (behindNumber cs))

def behindItems : Nat → Char → List Char → Rest
  | 0, _, _ => none
  | fuel + 1, close, cs =>
    if cs.head? == some close then some (cs.drop 1)
    else
      (behindValue fuel cs).bind fun rest =>
        match skipBlanks rest with
        | c :: more =>
          if c == close then some more
          else if c == ',' then behindItems fuel close (skipBlanks more)
          else none
        | [] => none

def behindEntries : Nat → List Char → Rest
  | 0, _ => none
  | fuel + 1, cs =>
    if cs.head? == some '\x7d' then some (cs.drop 1)
    else
      (behindValue fuel cs).bind fun rest =>
        match skipBlanks rest with
        | ':' :: more =>
          (behindValue fuel (skipBlanks more)).bind fun rest =>
            match skipBlanks rest with
            | '\x7d' :: more => some more
            | ',' :: more => behindEntries fuel (skipBlanks more)
            | _ => none
        | _ => none

end

def behindValues : Nat → List Char → Rest
  | 0, _ => none
  | fuel + 1, cs => (behindValue (2 * cs.length + 2) cs).bind fun rest =>
    match skipBlanks rest with
    | ',' :: more => if (skipBlanks more).isEmpty then some [] else behindValues fuel (skipBlanks more)
    | more => some more

def isValue (cs : List Char) : Bool := behindValues (cs.length + 1) cs == some []

def handsOver (parameters : List Char) : Bool :=
  let cs := strip parameters
  let arguments := cs.dropWhile fun c => isWord c || c == '.'
  arguments.isEmpty ||
    (if arguments.head? == some '(' && arguments.getLast? == some ')' && !arguments.contains '\n' then
      isValue arguments
    else isValue cs)

end TestScaffold.Text.Markup
