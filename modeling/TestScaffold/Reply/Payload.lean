import TestScaffold.Json.Decode
import TestScaffold.Json.Display
import TestScaffold.Model
import TestScaffold.Text.Blank
import TestScaffold.Text.Casing

namespace TestScaffold.Reply

open Decoder Text

structure ReportedDeclaration where
  name : String
  type : String := "function"
  isStatic : Bool := false
  returnType : Option String := none
  deriving DecidableEq, Repr

structure DeclarationsReply where
  typeName : Option String := none
  declarations : List ReportedDeclaration := []
  deriving DecidableEq, Repr

def ReportedDeclaration.decode : Decoder ReportedDeclaration :=
  record fun ms =>
    ReportedDeclaration.mk
      <$> field ms ["name"] string none
      <*> field ms ["type"] string (some "function")
      <*> field ms ["isStatic", "is_static"] bool (some false)
      <*> field ms ["returnType", "return_type"] (optional string) (some none)

def DeclarationsReply.decode : Decoder DeclarationsReply := fun j =>
  let whole :=
    match j with
    | .list items => .object [("declarations", .list items)]
    | _ => j
  whole |> record fun ms =>
    DeclarationsReply.mk
      <$> field ms ["typeName"] (optional string) (some none)
      <*> field ms ["declarations"] (list ReportedDeclaration.decode) (some [])

def ReportedDeclaration.toFact (d : ReportedDeclaration) (position : Nat) : Fact where
  kind := if lowercased d.type = "property" then .property else .function
  name := d.name
  isStatic := d.isStatic
  declaredType := d.returnType
  position := position

def DeclarationsReply.toFacts (r : DeclarationsReply) : List Fact :=
  (r.declarations.zipIdx.filter fun d => !blankText d.1.name).map fun d => d.1.toFact d.2

def DeclarationsReply.toModel (r : DeclarationsReply) : DeclarationModel where
  units := firstOfEachName [] r.toFacts
  typeName := r.typeName

structure ReportedElement where
  type : String
  label : String := ""
  identifier : Option String := none
  modifiers : List String := []
  hasAction : Bool := false
  deriving DecidableEq, Repr

structure ViewReply where
  name : String
  elements : List ReportedElement := []
  stateVariables : Entries String := []
  isNavigationView : Bool := false
  hasTabBar : Bool := false
  hasAlert : Bool := false
  hasContextMenu : Bool := false
  environmentObjects : Entries String := []
  deriving DecidableEq, Repr

def ReportedElement.decode : Decoder ReportedElement :=
  record fun ms =>
    ReportedElement.mk
      <$> field ms ["type"] string none
      <*> field ms ["label"] string (some "")
      <*> field ms ["identifier"] (optional string) (some none)
      <*> field ms ["modifiers"] (list string) (some [])
      <*> field ms ["hasAction", "has_action"] bool (some false)

/-- A number as a key, the same however it is written. -/
inductive Amount where
  | whole (n : Int)
  | other (bits : UInt64)
  deriving DecidableEq, Repr

def Amount.ofFloat (x : Float) : Amount := ((Decimal.whole? x).map whole).getD (other x.toBits)

inductive ItemName where
  | text (name : String)
  | number (value : Amount) (shown : String)
  | compound
  deriving DecidableEq, Repr

def ItemName.same : ItemName → ItemName → Bool
  | text a, text b => a == b
  | number a _, number b _ => a == b
  | compound, compound => true
  | _, _ => false

def itemName? (item : Json) : Option ItemName :=
  match item.get? "name" with
  | some (.string s) => if s.isEmpty then none else some (.text s)
  | some (.int n) => if n = 0 then none else some (.number (.whole n) (toString n))
  | some (.bool b) => if b then some (.number (.whole 1) "1") else none
  | some (.float x) => if x == 0 then none else some (.number (.ofFloat x) (Decimal.text x))
  | some (.list items) => if items.isEmpty then none else some .compound
  | some (.object ms) => if ms.isEmpty then none else some .compound
  | some .null | none => none

def putItem (k : ItemName) (v : Json) : List (ItemName × Json) → List (ItemName × Json)
  | [] => [(k, v)]
  | e :: es => if e.1.same k then (e.1, v) :: es else e :: putItem k v es

def namedItems (items : List Json) : List (ItemName × Json) :=
  items.foldl
    (fun es item =>
      match itemName? item with
      | some k => putItem k ((item.get? "type").getD (.string "")) es
      | none => es)
    []

def itemEntry : ItemName × Json → Checked (String × String)
  | (.text s, j) => ((string j).within s).map (s, ·)
  | (.number _ s, j) =>
    let key : Checked (String → String × String) := .invalid [[s, "[key]"]]
    key.ap ((string j).within s)
  | (.compound, _) => .fault

def variableTypes : Decoder (Entries String)
  | .list items => .all ((namedItems items).map itemEntry)
  | j => table string j

def stateNames : List String := ["stateVariables", "state_variables"]

def environmentNames : List String := ["environmentObjects", "environment_objects"]

def ViewReply.decode : Decoder ViewReply :=
  record fun ms =>
    ViewReply.mk
      <$> field ms ["name"] string none
      <*> field ms ["elements"] (list ReportedElement.decode) (some [])
      <*> field ms stateNames variableTypes (some [])
      <*> field ms ["isNavigationView", "is_navigation_view"] bool (some false)
      <*> field ms ["hasTabBar", "has_tab_bar"] bool (some false)
      <*> field ms ["hasAlert", "has_alert"] bool (some false)
      <*> field ms ["hasContextMenu", "has_context_menu"] bool (some false)
      <*> field ms environmentNames variableTypes (some [])

def hasCompoundName (j : Json) : Bool :=
  [stateNames, environmentNames].any fun names =>
    match names.findSome? j.get? with
    | some (.list items) => items.any (itemName? · == some .compound)
    | _ => false

def kindOfType (type : String) : FactKind :=
  match FactKind.ofName? type with
  | some .function | some .property | none => .custom
  | some k => k

def ReportedElement.toFact (e : ReportedElement) (position : Nat) : Fact where
  kind := kindOfType e.type
  name := e.label
  customKind := if kindOfType e.type = .custom then some e.type else none
  identifier := e.identifier.filter (!·.isEmpty)
  modifiers := e.modifiers
  hasAction := e.hasAction
  position := position

def ViewReply.toModel (r : ViewReply) (source : String) : ViewModel where
  name := r.name
  stateVariables := r.stateVariables
  elements :=
    (r.elements.zipIdx.filter fun e => !blankText e.1.label).map fun e => e.1.toFact e.2
  isNavigationContainer := r.isNavigationView
  hasTabContainer := r.hasTabBar
  hasAlert := r.hasAlert
  hasContextMenu := r.hasContextMenu
  environmentObjects := r.environmentObjects
  rawBody := source

end TestScaffold.Reply
