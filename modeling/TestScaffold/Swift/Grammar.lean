import TestScaffold.Pattern.Scan
import TestScaffold.Text.Blank
import TestScaffold.Text.Word

/-!
The constructs of Swift and SwiftUI source that tests are made for, as patterns over its text.
-/

namespace TestScaffold.Swift

open Text Pattern

inductive Slot where
  | qualifiers | keyword | name | parameters | effects | returns | type | initial | wrapper
  | control | label | content | trailing | binding | identifier
  deriving DecidableEq, Repr

abbrev Grammar := Pattern Slot

namespace Grammar

def wordEdge : Grammar := .place fun a b => a.any isWord != b.any isWord

def lineStart : Grammar := .place fun a _ => a.all (· == '\n')

def lineEnd : Grammar := .place fun _ b => b.all (· == '\n')

def freeStanding : Grammar := .place fun a _ => !a.any fun c => isWord c || c == '.'

def blank : Grammar := .one isBlank

def blanks : Grammar := star blank

def someBlanks : Grammar := plus blank

def wordChar : Grammar := .one isWord

def dottedChar : Grammar := .one fun c => isWord c || c == '.'

def dotted : Grammar := plus dottedChar

def name : Grammar := .seq (.one isNameStart) (star (.one isNameChar))

def word (w : String) : Grammar := all [wordEdge, lit w, wordEdge]

def stringUnit : Grammar :=
  .alt (except ['"', '\\', '\n']) (.seq (char '\\') (except ['\n']))

def stringBody : Grammar := star stringUnit

def string (i : Slot) : Grammar := all [char '"', .capture i stringBody, char '"']

def access : List String := ["public", "private", "internal", "fileprivate", "open"]

def setterMark : Grammar := optional (lit "(set)")

def qualifiers (extra : List String) : Grammar :=
  .capture .qualifiers <| star <|
    all [wordEdge, any ((access ++ extra).map lit), setterMark, someBlanks]

def generics : Grammar := all [char '<', star (except ['>', '\n']), char '>']

/-- A parameter list with parentheses inside at most one deep. -/
def parameters : Grammar :=
  star <| .alt (except ['(', ')']) <|
    all [char '(', star (except ['(', ')']), char ')']

def function : Grammar :=
  all [
    qualifiers ["static", "class", "final", "override", "mutating", "nonisolated"],
    wordEdge, lit "func", someBlanks, .capture .name name, blanks, optional generics, blanks,
    char '(', .capture .parameters parameters, char ')', blanks,
    .capture .effects
      (star (.seq (any [lit "async", lit "throws", lit "rethrows"]) blanks)),
    optional
      (all [lit "->", blanks, .capture .returns (plusLazy (except ['\x7b', '\n']))]),
    blanks,
    any [char '\x7b', word "where", lineEnd]]

def typeName : Grammar :=
  all [
    optional (.seq (any [lit "some", lit "any"]) someBlanks),
    any [
      all [.one (fun c => isNameStart c), star dottedChar, optional generics],
      all [char '[', star (except [']', '\n']), char ']'],
      all [char '(', star (except [')', '\n']), char ')']],
    optional (.one fun c => c == '?' || c == '!')]

def property : Grammar :=
  all [
    qualifiers ["static", "class", "final", "override", "lazy", "weak", "unowned", "nonisolated"],
    wordEdge, .capture .keyword (any [lit "var", lit "let"]), someBlanks, .capture .name name,
    blanks, char ':', blanks, .capture .type typeName]

def typeDeclaration : Grammar :=
  all [
    wordEdge, any (["class", "struct", "enum", "actor", "extension"].map lit), someBlanks,
    .capture .name (.seq (.one fun c => 'A' ≤ c && c ≤ 'Z') (star (.one isNameChar)))]

def frameworkImport : Grammar :=
  all [
    lineStart, blanks, optional (.seq (lit "@preconcurrency") someBlanks), lit "import",
    someBlanks, lit "SwiftUI", wordEdge]

def viewDeclaration : Grammar :=
  all [
    wordEdge, lit "struct", someBlanks, .capture .name name, blanks, char ':', blanks,
    star (all [dotted, blanks, char ',', blanks]), lit "View", wordEdge]

def bodyDeclaration : Grammar := all [wordEdge, lit "var", someBlanks, lit "body", wordEdge]

def bodyOpening : Grammar :=
  all [
    wordEdge, lit "var", someBlanks, lit "body", blanks, char ':', blanks, lit "some",
    someBlanks, lit "View", blanks, char '\x7b']

def closure : Grammar := all [char '\x7b', star (except ['\x7b', '\x7d']), char '\x7d']

def labelClosure (i : Slot) : Grammar :=
  all [
    char '\x7b', blanks, any [lit "Text", lit "Label"], blanks, char '(', blanks, string i]

/-- A control called with its label, with something else and a label closure, or with two closures. -/
def labelled (control : String) (call : Grammar) : Grammar :=
  all [
    wordEdge, lit control, blanks,
    any [
      all [char '(', blanks, string .label],
      all [call, blanks, labelClosure .content],
      all [closure, blanks, lit "label:", blanks, labelClosure .trailing]]]

def button : Grammar :=
  labelled "Button" <|
    all [char '(', blanks, lit "action:", blanks, .alt closure dotted, blanks, char ')']

def navigationLink : Grammar :=
  labelled "NavigationLink" <|
    all [char '(', blanks, lit "destination:", starLazy (except ['\x7b']), char ')']

def binding : Grammar := .capture .binding (.seq (optional (char '$')) dotted)

def textInput : Grammar :=
  all [
    wordEdge, .capture .control (.alt (lit "TextField") (lit "SecureField")), blanks, char '(',
    blanks, string .label, blanks, char ',', blanks, lit "text:", blanks, binding]

def staticText : Grammar :=
  all [freeStanding, lit "Text", blanks, char '(', blanks, string .label, blanks, char ')']

def toggle : Grammar :=
  all [
    wordEdge, lit "Toggle", blanks, char '(', blanks, string .label, blanks, char ',', blanks,
    lit "isOn:", blanks, binding]

def accessibilityIdentifier : Grammar :=
  all [
    lit ".accessibility",
    .alt (all [lit "Identifier", blanks, char '(', blanks])
      (all [blanks, char '(', blanks, lit "identifier:", blanks]),
    char '"', .capture .identifier (plus (except ['"', '\n'])), char '"']

def modifier : Grammar := all [char '.', .capture .name name, blanks, char '(']

def stateVariable : Grammar :=
  all [
    char '@',
    .capture .wrapper
      (any (["State", "Binding", "ObservedObject", "StateObject", "Published"].map lit)),
    someBlanks, optional (all [any (access.map lit), setterMark, someBlanks]), lit "var",
    someBlanks, .capture .name name, blanks,
    optional
      (all [char ':', blanks, .capture .type (plus (except ['=', '\n', '/', '\x7b']))]),
    optional (all [char '=', blanks, .capture .initial (plus (except ['\n']))])]

def environmentObject : Grammar :=
  all [
    char '@', any [lit "EnvironmentObject", lit "ObservedObject"], someBlanks,
    optional (.seq (any (access.map lit)) someBlanks), lit "var", someBlanks,
    .capture .name name, blanks, char ':', blanks,
    .capture .type
      (.seq (.one isNameStart) (star (.one fun c => isWord c || ['.', '<', '>'].contains c)))]

def navigationContainer : Grammar :=
  all [wordEdge, lit "Navigation", any [lit "View", lit "Stack", lit "SplitView"], wordEdge]

def tabContainer : Grammar := word "TabView"

def alertAttachment : Grammar := all [lit ".alert", blanks, char '(']

def contextMenuAttachment : Grammar := .seq (lit ".contextMenu") wordEdge

def digits : Grammar := .seq (.one isDigit) (star (.one fun c => isDigit c || c == '_'))

def intLiteral : Grammar := .seq (optional (char '-')) digits

def floatLiteral : Grammar := all [intLiteral, char '.', digits]

def initializer : Grammar :=
  all [
    .capture .type (.seq (.one fun c => 'A' ≤ c && c ≤ 'Z') (star dottedChar)), blanks,
    optional (all [char '<', star (except ['>']), char '>']), blanks, char '(']

def typeAttribute : Grammar :=
  .alt
    (all [
      char '@', plus wordChar, optional (all [char '(', star (except [')']), char ')']), blanks])
    (all [wordEdge, lit "inout", someBlanks])

end Grammar

end TestScaffold.Swift
