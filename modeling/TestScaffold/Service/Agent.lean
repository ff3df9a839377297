import TestScaffold.Prompt.Requests
import TestScaffold.Reply.Fence
import TestScaffold.Reply.Payload
import TestScaffold.Service.Trace

namespace TestScaffold

open Prompt Reply

structure Agent (ι ο : Type) where
  name : String
  description : String
  expectsJson : Bool
  template : Template
  values : ι → Except TemplateError (Entries String)
  parse : Nat → String → String → Except Fault ο
  warnings : ο → List String := fun _ => []

structure Response (ο : Type) where
  output : Except ServiceFailure ο
  model : String
  digest : String

namespace Agent

variable {ι ο : Type}

def prompt (a : Agent ι ο) (input : ι) : Except TemplateError String :=
  a.values input >>= a.template.render

def request (a : Agent ι ο) (prompt : String) : Request := ⟨a.template.system, prompt, a.expectsJson⟩

def response (a : Agent ι ο) (s : Service) (output : Except ServiceFailure ο) : Response ο :=
  ⟨output, s.model, a.template.digest⟩

def giveUp (a : Agent ι ο) (s : Service) (failure : ServiceFailure) : Run (Response ο) := do
  Run.emit "Agent invocation failed" .error
    [("agent", .string a.name), ("error_kind", .string failure.name)]
  return a.response s (.error failure)

def conclude (a : Agent ι ο) (s : Service) (reply : String) : Run (Response ο) :=
  match a.parse s.depthLimit s.provider reply with
  | .ok output => do
    let warnings := a.warnings output
    if !warnings.isEmpty then
      Run.emit "Agent output warnings" .warning
        [("agent", .string a.name), ("warnings", .strings warnings)]
    Run.emit "Agent invocation completed" .info [("agent", .string a.name)]
    return a.response s (.ok output)
  | .error (.known ⟨.service failure _ _, _, _, _⟩) => a.giveUp s failure
  | .error e => throw e

/-- Asks once. There is no response when the service stays silent. -/
def invoke (a : Agent ι ο) (s : Service) (operation : String) (input : ι) :
    Run (Option (Response ο)) := do
  match a.prompt input with
  | .error e => throw (.template e)
  | .ok prompt =>
    Run.emit "Agent invocation started" .info
      [("agent", .string a.name), ("operation", .string operation),
       ("prompt_hash", .string a.template.digest)]
    match ← Run.send s (a.request prompt) with
    | .silent => return none
    | .failed failure _ => some <$> a.giveUp s failure
    | .reply text => some <$> a.conclude s text

end Agent

def malformed (agent provider message : String) : Problem :=
  { kind := .service .malformedResponse provider none
    message
    context := [("agent", .string agent)] }

def parseJson {α : Type} (limit : Nat) (agent provider : String) (d : Decoder α)
    (unusable : Json → Bool) (reply : String) : Except Fault α :=
  let text := ((wholeBlock? reply.toList).map (·.code)).getD reply
  match Json.ofText limit text with
  | .error .malformed => .error (.known (malformed agent provider "Failed to parse JSON response"))
  | .error .tooManyDigits => .error .numberTooLong
  | .error .tooDeep => .error .nestedTooDeep
  | .ok j =>
    if unusable j then .error .compoundName
    else
      match d j with
      | .valid a => .ok a
      | .invalid _ => .error (.known (malformed agent provider "Failed to validate output"))

def counted (n : Nat) (what : String) : List String := if n = 0 then [] else [toString n ++ what]

def declarationsAgent : Agent SourceRequest DeclarationsReply where
  name := "declaration_extraction"
  description := "Extracts functions and properties from Swift source"
  expectsJson := true
  template := declarationsTemplate
  values r := .ok (r.values "no declarations found")
  parse limit provider :=
    parseJson limit "declaration_extraction" provider DeclarationsReply.decode fun _ => false
  warnings r :=
    (if r.declarations.isEmpty then ["Service reported no declarations"] else []) ++
      counted (r.declarations.filter fun d => Text.blankText d.name).length
        " declarations without a name were dropped"

inductive ViewAnswer where
  | view (v : ViewReply)
  | code (c : Code)
  deriving DecidableEq, Repr

/-- A block is taken for JSON if its tag says so or if it starts with a brace. -/
def looksLikeJson (c : Code) : Bool :=
  Text.lowercased (c.language.getD "") == "json" ||
    (c.code.toList.dropWhile Text.isBlank).head? == some '\x7b'

def parseView (limit : Nat) (provider reply : String) : Except Fault ViewAnswer :=
  match (wholeBlock? reply.toList).filter (!looksLikeJson ·) with
  | some c => .ok (.code c)
  | none =>
    (parseJson limit "view_analysis" provider ViewReply.decode hasCompoundName reply).map .view

def viewAgent : Agent SourceRequest ViewAnswer where
  name := "view_analysis"
  description := "Analyzes SwiftUI views into elements, state and structure"
  expectsJson := true
  template := viewTemplate
  values r := .ok (r.values "no UI elements found")
  parse := parseView
  warnings
    | .view v => if v.elements.isEmpty then ["Service reported no UI elements"] else []
    | .code _ => []

def parseCode (provider reply : String) : Except Fault Code :=
  let cs := reply.toList
  match wholeBlock? cs with
  | some c => .ok c
  | none =>
    let code := ((blockWithin? cs).filter (!·.isEmpty)).getD (Text.strip cs)
    if code.isEmpty then
      .error (.known (malformed "test_authoring" provider "Service returned no code"))
    else .ok ⟨String.ofList code, some "swift"⟩

def codeAgent : Agent CodeRequest Code where
  name := "test_authoring"
  description := "Writes XCUITest cases and unit test bodies"
  expectsJson := false
  template := codeTemplate
  values := CodeRequest.values
  parse _ := parseCode

end TestScaffold
