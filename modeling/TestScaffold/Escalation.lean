import TestScaffold.Extraction
import TestScaffold.Render.InterfaceTests
import TestScaffold.Render.UnitTests
import TestScaffold.Service.Agent

/-!
Tests for a source: made here if possible, and with the help of the generative service, asked at most
once, if not.
-/

namespace TestScaffold

open Render Prompt Reply

inductive EscalationState where
  | local | escalated
  deriving DecidableEq, Repr

def EscalationState.name : EscalationState → String
  | .local => "local"
  | .escalated => "escalated"

inductive Model where
  | declarations (m : DeclarationModel)
  | view (m : ViewModel)
  deriving DecidableEq, Repr

structure Resolution where
  output : String
  state : EscalationState
  model : Option Model := none
  localError : Option Problem := none
  external : Bool := false

structure Coordinator where
  config : Config
  service : Service
  window : Int
  renderView : ViewModel → Options → Except Problem String := interfaceTests
  away : Bool := false

def Coordinator.ofConfig (c : Config) (s : Service) : Coordinator where
  config := c
  service := s
  window := c.lookahead

namespace Coordinator

variable (c : Coordinator)

def available : Bool := c.config.escalationAvailable

def emitExtracted (scan : ViewScan) (bodyFound : Bool) : Run Unit :=
  let count := ("count", Json.int scan.elements.length)
  Run.emit "Extracted view elements" .debug <|
    if scan.bodyIsolated then [("scope", .string "body"), count]
    else [("scope", .string "source"), count, ("body_found", .bool bodyFound)]

def renderUnits (m : DeclarationModel) (bodies : Entries String) : Run String := do
  Run.emit "Rendered unit tests" .debug
    [("units", .int m.units.length), ("passthrough", .int bodies.length)]
  return unitTests m bodies

def render (m : ViewModel) (o : Options) : Run String := do
  let output ← Run.ofExcept (c.renderView m o)
  Run.emit "Rendered UI tests" .debug
    [("view", .string m.name), ("elements", .int m.elements.length)]
  return output

def declarations (source : String) : Run DeclarationModel := do
  let facts ← Run.ofExcept (extract c.window .declarations source)
  Run.emit "Extracted declarations" .debug
    [("count", .int facts.length), ("size", .int source.length)]
  return buildDeclarations facts (some source)

def view (source : String) : Run ViewModel := do
  let (name, scan) ← Run.ofExcept (inspectView c.window source)
  emitExtracted scan (Swift.body? source.toList).isSome
  let m := assembleView name source scan.elements scan.span
  Run.emit "Built view model" .info
    [("view", .string m.name), ("elements", .int m.elements.length),
     ("state_variables", .int m.stateVariables.length),
     ("navigation", .bool m.isNavigationContainer)]
  return m

def attempt {α : Type} (x : Run α) : Run (Except Problem α) :=
  tryCatch (Except.ok <$> x) fun
    | .known p => return .error p
    | e => throw e

/-- Asks an agent once, within the deadline, and closes the client. What comes back is what the
reply was understood as, if there was one and it was understood. -/
def ask {ι ο : Type} (a : Agent ι ο) (operation : String) (input : ι) : Run (Option ο) := do
  match ← Run.apart c.away (Run.closing (a.invoke c.service operation input)) with
  | none =>
    Run.emit "Escalation timed out" .warning
      [("operation", .string operation), ("timeout_seconds", .float c.config.escalation.timeout)]
    return none
  | some r =>
    match r.output with
    | .ok o => return some o
    | .error _ => return none

def emitEscalating (operation reason : String) : Run Unit :=
  Run.emit "Escalating" .info [("operation", .string operation), ("reason", .string reason)]

def emitResolved (operation what : String) (n : Nat) : Run Unit :=
  Run.emit "Resolved locally" .info [("operation", .string operation), (what, .int n)]

def bodyRequest (source : String) (u : Fact) : CodeRequest where
  source := source
  target := .unitBody
  unitName := some u.name
  unitType := some (orElse (u.declaredType.getD "") u.kind.name)

def authorEach (source : String) (bodies : Entries String) :
    List Fact → Run (Entries String × Bool)
  | [] => return (bodies, true)
  | u :: us => do
    match ← codeAgent.invoke c.service "unit_body" (bodyRequest source u) with
    | none => return (bodies, false)
    | some r =>
      match r.output with
      | .ok code => authorEach source (bodies.put u.name code.code) us
      | .error failure =>
        Run.emit "Test body request failed" .warning
          [("unit", .string u.name), ("error_kind", .string failure.name)]
        authorEach source bodies us

def authorBodies (source : String) (m : DeclarationModel) : Run (Entries String) :=
  Run.apart c.away <| Run.closing do
    let (bodies, inTime) ← c.authorEach source [] m.units
    if !inTime then
      Run.emit "Test body requests timed out" .warning
        [("authored", .int bodies.length), ("units", .int m.units.length),
         ("timeout_seconds", .float c.config.escalation.timeout)]
    return bodies

def localUnits (found : Except Problem DeclarationModel) (state : EscalationState) :
    Run Resolution :=
  match found with
  | .error p => Run.fail p
  | .ok m => return { output := ← renderUnits m [], state, model := some (.declarations m) }

def problem? {α : Type} : Except Problem α → Option Problem
  | .ok _ => none
  | .error p => some p

def reason {α : Type} (found : Except Problem α) (nothing : String) : String :=
  ((problem? found).map (·.message)).getD nothing

def externalUnits (found : Except Problem DeclarationModel) (r : DeclarationsReply) :
    DeclarationModel :=
  let m := r.toModel
  match m.typeName, found with
  | none, .ok here => { m with typeName := here.subject? }
  | _, _ => m

def escalateUnits (source : String) (found : Except Problem DeclarationModel) : Run Resolution := do
  let why := reason found "no declarations found"
  emitEscalating "unit_tests" why
  match ← c.ask declarationsAgent "unit_tests" { source, failure := why } with
  | none => localUnits found .escalated
  | some r =>
    let m := externalUnits found r
    if m.isEmpty then
      Run.emit "Service found no declarations" .warning [("operation", .string "unit_tests")]
      localUnits found .escalated
    else
      return {
        output := ← renderUnits m []
        state := .escalated
        model := some (.declarations m)
        localError := problem? found
        external := true }

/-- Unit tests for the declarations of a source. The service is asked when none are found or the source
cannot be searched; with `assist` it is asked for the body of each test. -/
def resolveUnits (source : String) (assist : Bool) : Run Resolution := do
  let found ← attempt (c.declarations source)
  match found.toOption.filter (!·.isEmpty) with
  | some m =>
    let bodies ← if assist && c.available then c.authorBodies source m else pure []
    emitResolved "unit_tests" "units" m.units.length
    return {
      output := ← renderUnits m bodies, state := .local, model := some (.declarations m) }
  | none => if c.available then c.escalateUnits source found else localUnits found .local

def localView (found : Except Problem ViewModel) (o : Options) (state : EscalationState) :
    Run Resolution :=
  match found with
  | .error p => Run.fail p
  | .ok m => return { output := ← c.render m o, state, model := some (.view m) }

def escalateRendering (source : String) (m : ViewModel) (p : Problem) : Run Resolution := do
  if !c.available then Run.fail p
  emitEscalating "ui_render" p.message
  match ← c.ask codeAgent "ui_render" { source, failure := p.message } with
  | none => Run.fail p
  | some code =>
    return {
      output := code.code
      state := .escalated
      model := some (.view m)
      localError := some p
      external := true }

def renderReported (m : ViewModel) (o : Options) : Run (Option String) := do
  if m.isEmpty then
    Run.emit "Service found no UI elements" .warning [("operation", .string "ui_tests")]
    return none
  match ← attempt (c.render m o) with
  | .ok output => return some output
  | .error p =>
    if p.kind.isGeneration then
      Run.emit "Service view could not be rendered" .warning []
      return none
    else Run.fail p

def escalateView (source : String) (found : Except Problem ViewModel) (o : Options) :
    Run Resolution := do
  let why := reason found "no UI elements found"
  emitEscalating "ui_tests" why
  match ← c.ask viewAgent "ui_tests" { source, failure := why } with
  | none => c.localView found o .escalated
  | some (.code code) =>
    return {
      output := code.code, state := .escalated, localError := problem? found, external := true }
  | some (.view v) =>
    let m := v.toModel source
    match ← c.renderReported m o with
    | none => c.localView found o .escalated
    | some output =>
      return {
        output
        state := .escalated
        model := some (.view m)
        localError := problem? found
        external := true }

/-- User interface tests for a view. The service is asked when the view cannot be told, has no elements,
or cannot be rendered. -/
def resolveView (source : String) (options : Option Options) : Run Resolution := do
  let o := options.getD c.config.generation
  let found ← attempt (c.view source)
  match found.toOption.filter (!·.isEmpty) with
  | some m =>
    match ← attempt (c.render m o) with
    | .ok output =>
      emitResolved "ui_tests" "elements" m.elements.length
      return { output, state := .local, model := some (.view m) }
    | .error p => if p.kind.isGeneration then c.escalateRendering source m p else Run.fail p
  | none => if c.available then c.escalateView source found o else c.localView found o .local

end Coordinator

end TestScaffold
