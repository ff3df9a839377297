import TestScaffold.Entries
import TestScaffold.Text.Blank

namespace TestScaffold.CommandLine

inductive PathError where
  | noFolder
  | throughFile
  | tooLong
  | isFolder
  deriving DecidableEq, Repr

def isSlash (c : Char) : Bool := c == '/'

def pathParts (path : String) : List (List Char) :=
  (Text.pieces isSlash path.toList).filter fun p => !p.isEmpty && p != ['.']

def pathRoot (path : String) : List Char :=
  match (path.toList.takeWhile isSlash).length with
  | 0 => []
  | 2 => ['/', '/']
  | _ => ['/']

def plainPath (path : String) : String :=
  let text := pathRoot path ++ ['/'].intercalate (pathParts path)
  if text.isEmpty then "." else String.ofList text

structure Place where
  atRoot : Bool
  parts : List (List Char)
  deriving DecidableEq, Repr

def dots : List Char := ['.', '.']

namespace Place

def text (p : Place) : String :=
  String.ofList ((if p.atRoot then ['/'] else []) ++ ['/'].intercalate p.parts)

def up (p : Place) : Place :=
  if p.parts.all (· == dots) then
    if p.atRoot then p else { p with parts := p.parts ++ [dots] }
  else { p with parts := p.parts.dropLast }

def down (p : Place) (part : List Char) : Place :=
  if part = dots then p.up else { p with parts := p.parts ++ [part] }

end Place

structure Directory where
  files : Entries String := []
  folders : List String := []
  deriving DecidableEq, Repr

namespace Directory

def isFile (d : Directory) (p : Place) : Bool := (d.files.get? p.text).isSome

def isFolder (d : Directory) (p : Place) : Bool :=
  p.parts.all (· == dots) || d.folders.contains p.text ||
    d.files.any fun f => (p.text.toList ++ ['/']).isPrefixOf f.1.toList

def partLimit : Nat := 255

def pathLimit : Nat := 4095

def byteCount (cs : List Char) : Nat := (String.ofList cs).utf8ByteSize

def walk (d : Directory) (p : Place) : List (List Char) → Except PathError Place
  | [] => .ok p
  | part :: rest =>
    if !d.isFolder p then .error (if d.isFile p then .throughFile else .noFolder)
    else if partLimit < byteCount part then .error .tooLong
    else walk d (p.down part) rest

def locate (d : Directory) (path : String) : Except PathError Place :=
  if pathLimit < (plainPath path).utf8ByteSize then .error .tooLong
  else walk d ⟨!(pathRoot path).isEmpty, []⟩ (pathParts path)

def read (d : Directory) (path : String) : Except PathError (Option String) :=
  if path.contains '\x00' then .ok none
  else
    match d.locate path with
    | .ok p => .ok (d.files.get? p.text)
    | .error .tooLong => .error .tooLong
    | .error _ => .ok none

def write (d : Directory) (path text : String) : Except PathError Directory :=
  match d.locate path with
  | .error e => .error e
  | .ok p => if d.isFolder p then .error .isFolder else .ok { d with files := d.files.put p.text text }

def ofFiles (files : Entries String) (folders : List String) : Directory :=
  ⟨files.map fun f => (plainPath f.1, f.2), folders⟩

end Directory

end TestScaffold.CommandLine
