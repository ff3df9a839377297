import TestScaffold.Escalation

/-!
The entry points for a host. Every problem with a category becomes a report.
-/

namespace TestScaffold

structure Report where
  outcome : Except Problem String
  warnings : List String := []
  metadata : Entries Json := []

namespace Report

def ofProblem (p : Problem) (metadata : Entries Json) : Report where
  outcome := .error p
  metadata :=
    match p.category?, metadata.get? "category" with
    | some c, none => metadata.put "category" (.string c.name)
    | _, _ => metadata

def parameterNames : List String := ["exc", "cls"]

/-- The report of a problem with the metadata given, if none of it has the name of a parameter. -/
def call? (p : Problem) (metadata : Entries Json) : Option Report :=
  if metadata.any fun m => parameterNames.contains m.1 then none else some (.ofProblem p metadata)

def metadataOf (r : Resolution) : Entries Json :=
  [("escalated", .bool (r.state = .escalated)), ("external", .bool r.external),
   ("state", .string r.state.name)] ++
  (match r.model with
    | some (.view m) => [("view_name", .string m.name)]
    | _ => []) ++
  (match r.localError with
    | some p => [("category", Json.ofOption (fun c : Category => .string c.name) p.category?)]
    | none => [])

def ofResolution (r : Resolution) : Report where
  outcome := .ok r.output
  warnings :=
    if r.state = .escalated && !r.external then
      ["The generative service could not help; local result returned"]
    else []
  metadata := metadataOf r

end Report

namespace Pipeline

def bindOperation (operation : String) : Run Unit :=
  modify fun t => { t with bound := t.bound.put "operation" (.string operation) }

def unbinding {α : Type} (x : Run α) : Run α := fun s =>
  let (r, t) := x s
  (r, { t with bound := [] })

/-- Reports a problem. One without a category breaks the run instead. -/
def failed (p : Problem) : Run Report := do
  match p.category? with
  | none => throw (.uncategorized p)
  | some category =>
    Run.emit "Generation failed" .warning [("category", .string category.name)]
    return .ofProblem p []

def completed (operation : String) (r : Resolution) : Run Report := do
  let report := Report.ofResolution r
  Run.emit "Generation completed" .info (("operation", .string operation) :: report.metadata)
  return report

def report (operation : String) (resolve : Run Resolution) : Run Report := do
  let ended ← unbinding do
    bindOperation operation
    match ← Coordinator.attempt resolve with
    | .ok r => return Except.ok r
    | .error p => return Except.error (← failed p)
  match ended with
  | .ok r => completed operation r
  | .error failure => return failure

def unitTests (c : Coordinator) (source : String) (assist : Bool) : Run Report :=
  report "unit_tests" (c.resolveUnits source assist)

def interfaceTests (c : Coordinator) (source : String) (options : Option Render.Options) :
    Run Report :=
  report "ui_tests" (c.resolveView source options)

end Pipeline

end TestScaffold
