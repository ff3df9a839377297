import TestScaffold.Text.Casing
import TestScaffold.Url.Host
import TestScaffold.Url.Quoted

/-!
URLs in parts, each part in the form in which it is sent. A URL without a scheme or without a host is
relative, and is put behind another one.
-/

namespace TestScaffold

inductive UrlError where
  | tooLong
  | control
  | badHost
  | badPort
  | badPath
  deriving DecidableEq, Repr

structure Url where
  scheme : List Char := []
  user : List Char := []
  host : List Char := []
  port : Option Int := none
  path : List Char := []
  query : Option (List Char) := none
  fragment : Option (List Char) := none
  deriving DecidableEq, Repr

namespace Url

open Text

structure Cut where
  scheme : List Char := []
  authority : List Char := []
  path : List Char := []
  query : Option (List Char) := none
  fragment : Option (List Char) := none

def isSchemeChar (c : Char) : Bool := c.isAlphanum || ['+', '.', '-'].contains c

def cutScheme (cs : List Char) : List Char × List Char :=
  let name := if (cs.head?.map Char.isAlpha).getD false then cs.takeWhile isSchemeChar else []
  match cs.drop name.length with
  | ':' :: rest => (name, rest)
  | _ => ([], cs)

def cutAuthority (cs : List Char) : List Char × List Char :=
  match cs with
  | '/' :: '/' :: rest => rest.span fun c => !(['/', '?', '#'].contains c)
  | _ => ([], cs)

def behindMark (mark : Char) (cs : List Char) : Option (List Char) :=
  if cs.head? = some mark then some (cs.drop 1) else none

def cut (cs : List Char) : Cut :=
  let (scheme, rest) := cutScheme cs
  let (authority, rest) := cutAuthority rest
  let (path, rest) := rest.span fun c => !(['?', '#'].contains c)
  let query := (behindMark '?' rest).map (·.takeWhile (· != '#'))
  { scheme, authority, path, query, fragment := behindMark '#' (rest.dropWhile (· != '#')) }

def cutUser (cs : List Char) : List Char × List Char × List Char :=
  let place := (cs.reverse.takeWhile (· != '@')).reverse
  let user := cs.take (cs.length - place.length - 1)
  let bracketed := (place.reverse.dropWhile (· != ']')).reverse
  let host :=
    if place.head? = some '[' && !bracketed.isEmpty then bracketed
    else place.takeWhile (· != ':')
  (user, host, place.drop host.length)

def readHost (cs : List Char) : Except UrlError (List Char) :=
  if cs.isEmpty then .ok []
  else if fourRuns 3 false cs then if isFourPartAddress cs then .ok cs else .error .badHost
  else if cs.head? = some '[' && cs.getLast? = some ']' then
    let address := (cs.drop 1).dropLast
    if isGroupAddress address then .ok address else .error .badHost
  else if cs.all fun c => c.toNat < 128 then .ok (quote hostSafe (lower cs))
  else
    match encodeName (lower cs) with
    | some name => .ok name
    | none => .error .badHost

def defaultPorts : List (String × Int) :=
  [("ftp", 21), ("http", 80), ("https", 443), ("ws", 80), ("wss", 443)]

def readPort (scheme cs : List Char) : Except UrlError (Option Int) :=
  if cs.isEmpty then .ok none
  else
    match Decimal.int? digitValue? cs with
    | none => .error .badPort
    | some n =>
      if (defaultPorts.find? (·.1.toList == scheme)).map (·.2) == some n then .ok none
      else .ok (some n)

def dropStep (out : List (List Char)) : List (List Char) :=
  if out = [[]] then out else out.dropLast

def settlePath (path : List Char) : List Char :=
  let parts := pieces (· == '/') path
  if !parts.contains ['.'] && !parts.contains ['.', '.'] then path
  else
    ['/'].intercalate <| parts.foldl
      (fun out part =>
        if part = ['.'] then out else if part = ['.', '.'] then dropStep out else out ++ [part])
      []

def pathFits (hasScheme hasHost : Bool) (path : List Char) : Bool :=
  if hasHost then path.isEmpty || path.head? == some '/'
  else hasScheme || (path.take 2 != ['/', '/'] && path.head? != some ':')

def ofCut (c : Cut) : Except UrlError Url := do
  let (user, host, behind) := cutUser c.authority
  let user := quote userSafe user
  let host ← readHost host
  let port ← readPort c.scheme (if behind.head? = some ':' then behind.drop 1 else behind)
  let hasHost := !user.isEmpty || !host.isEmpty || port.isSome
  if !pathFits (!c.scheme.isEmpty) hasHost c.path then .error .badPath
  let path := if !c.scheme.isEmpty || hasHost then settlePath c.path else c.path
  return {
    scheme := lower c.scheme, user, host, port
    path := quote pathSafe path
    query := c.query.map (quote querySafe)
    fragment := c.fragment.map (quote fragmentSafe) }

def lengthLimit : Nat := 65536

def isControl (c : Char) : Bool := c.toNat < 32 || c.toNat == 127

def read (s : String) : Except UrlError Url :=
  if lengthLimit < s.length then .error .tooLong
  else if s.any isControl then .error .control
  else ofCut (cut s.toList)

def authority (u : Url) : List Char :=
  (if u.user.isEmpty then [] else u.user ++ ['@']) ++
    (if u.host.contains ':' then '[' :: u.host ++ [']'] else u.host) ++
    (match u.port with
      | some n => ':' :: (toString n).toList
      | none => [])

def text (u : Url) : String :=
  let authority := u.authority
  String.ofList <|
    (if u.scheme.isEmpty then [] else u.scheme ++ [':']) ++
      (if authority.isEmpty then [] else '/' :: '/' :: authority) ++ u.path ++
      ((u.query.map ('?' :: ·)).getD []) ++ ((u.fragment.map ('#' :: ·)).getD [])

def isAbsolute (u : Url) : Bool := !u.scheme.isEmpty && !u.host.isEmpty

def target (u : Url) : List Char :=
  (if u.path.isEmpty then ['/'] else u.path) ++ (u.query.map ('?' :: ·)).getD []

def toCut (u : Url) : Cut := ⟨u.scheme, u.authority, u.path, u.query, u.fragment⟩

def withTarget (u : Url) (target : List Char) : Except UrlError Url :=
  let path := target.takeWhile (· != '?')
  ofCut { u.toCut with path, query := behindMark '?' (target.drop path.length) }

def withQuery (u : Url) (query : Option (List Char)) : Except UrlError Url :=
  ofCut { u.toCut with query }

def asFolder (u : Url) : Except UrlError Url :=
  if u.target.getLast? = some '/' then .ok u else u.withTarget (u.target ++ ['/'])

def within (base u : Url) : Except UrlError Url :=
  if u.isAbsolute then .ok u else base.withTarget (base.target ++ u.target.dropWhile (· == '/'))

def credentials? (u : Url) : Option String :=
  let name := u.user.takeWhile (· != ':')
  let password := u.user.drop (name.length + 1)
  if name.isEmpty && password.isEmpty then none
  else
    some <| String.ofList <|
      let bytes := fun part => mended none (unquotedBytes part)
      "Basic ".toList ++ base64 (bytes name ++ [58] ++ bytes password)

end Url

end TestScaffold
