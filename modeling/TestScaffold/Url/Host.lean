import TestScaffold.Decimal.Reading
import TestScaffold.Url.Host.Composition
import TestScaffold.Url.Host.Context
import TestScaffold.Url.Host.Direction
import TestScaffold.Url.Punycode

namespace TestScaffold.Url

open Text

def fourRuns (more : Nat) (inside : Bool) : List Char → Bool
  | [] => inside && more == 0
  | c :: cs =>
    (isAsciiDigit c && fourRuns more true cs) || (inside && 0 < more && fourRuns (more - 1) false cs)

def isOctet (cs : List Char) : Bool :=
  !cs.isEmpty && cs.length ≤ 3 && cs.all isAsciiDigit && (cs == ['0'] || cs.head? != some '0') &&
    Decimal.ofDigits (cs.map (·.toNat - 48)) ≤ 255

def isFourPartAddress (cs : List Char) : Bool :=
  let parts := pieces (· == '.') cs
  parts.length == 4 && parts.all isOctet

def isHexDigit (c : Char) : Bool :=
  isAsciiDigit c || ('a' ≤ c && c ≤ 'f') || ('A' ≤ c && c ≤ 'F')

def isGroup (cs : List Char) : Bool := !cs.isEmpty && cs.length ≤ 4 && cs.all isHexDigit

def areGroups (parts : List (List Char)) : Bool :=
  let inner := (parts.drop 1).dropLast
  let opens := (parts.headD []).isEmpty
  let closes := (parts.getLastD []).isEmpty
  3 ≤ parts.length && parts.length ≤ 9 &&
    match inner.findIdx? (·.isEmpty) with
    | none => parts.length == 8 && parts.all isGroup
    | some n =>
      (inner.filter (·.isEmpty)).length == 1 && (!opens || n == 0) &&
        (!closes || n + 1 == inner.length) && (parts.filter (!·.isEmpty)).length < 8 &&
        (parts.filter (!·.isEmpty)).all isGroup

def isGroupAddress (cs : List Char) : Bool :=
  let address := cs.takeWhile (· != '%')
  let zone := cs.drop (address.length + 1)
  let parts := pieces (· == ':') address
  let last := parts.getLastD []
  (address.length == cs.length || (!zone.isEmpty && !zone.contains '%')) && !cs.contains '/' &&
    if last.contains '.' then
      isFourPartAddress last && areGroups (parts.dropLast ++ [['0'], ['0']])
    else areGroups parts

def hyphensFit (cs : List Char) : Bool :=
  cs.head? != some '-' && cs.getLast? != some '-' && (cs.drop 2).take 2 != ['-', '-']

def isLabel (cs : List Char) : Bool :=
  !cs.isEmpty && isComposed cs && hyphensFit cs && !cs.head?.any isMark && allFit [] cs && isDirected cs

def encodedMark : List Char := "xn--".toList

def decodeLabel (cs : List Char) : Option (List Char) :=
  if encodedMark.isPrefixOf cs then
    let digits := cs.drop encodedMark.length
    if digits.isEmpty || digits.getLast? == some '-' then none else Punycode.decode digits
  else some cs

def labelLimit : Nat := 63

def encodeLabel (cs : List Char) : Option (List Char) :=
  let written := if cs.all fun c => c.toNat < 128 then cs else encodedMark ++ Punycode.encode cs
  let read := if written == cs then decodeLabel cs else some cs
  if read.any isLabel && written.length ≤ labelLimit then some written else none

def isDot (c : Char) : Bool := ['.', '\u3002', '\uff0e', '\uff61'].contains c

def encodeName (cs : List Char) : Option (List Char) := do
  let labels := pieces isDot cs
  let rooted := labels.getLast? == some []
  let encoded ← (if rooted then labels.dropLast else labels).mapM encodeLabel
  let name := ['.'].intercalate encoded ++ if rooted then ['.'] else []
  if encoded.isEmpty || name.length > (if rooted then 254 else 253) then none else some name

end TestScaffold.Url
