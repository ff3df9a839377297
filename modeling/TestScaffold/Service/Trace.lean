import TestScaffold.Log
import TestScaffold.Problem
import TestScaffold.Prompt.Template

namespace TestScaffold

structure Request where
  system : String
  prompt : String
  expectsJson : Bool
  deriving DecidableEq, Repr

inductive Answer where
  | reply (text : String)
  | failed (failure : ServiceFailure) (message : String)
  | silent
  deriving DecidableEq, Repr

structure Service where
  provider : String
  model : String
  answer : Nat → Answer
  /-- How many lists and objects within one another can be read in a reply. -/
  depthLimit : Nat

structure Trace where
  requests : List Request := []
  closes : Nat := 0
  events : List Json := []
  bound : Entries Json := []

inductive Fault where
  | known (p : Problem)
  | compoundName
  | numberTooLong
  | nestedTooDeep
  | template (e : Prompt.TemplateError)
  | uncategorized (p : Problem)

abbrev Run := ExceptT Fault (StateM Trace)

namespace Run

variable {α : Type}

def emit (name : String) (level : LogLevel) (fields : Entries Json) : Run Unit :=
  modify fun t => { t with events := t.events ++ [(Event.mk name level fields).entry t.bound] }

def fail (p : Problem) : Run α := throw (.known p)

def ofExcept : Except Problem α → Run α
  | .ok a => pure a
  | .error p => fail p

def send (s : Service) (r : Request) : Run Answer := do
  let n := (← get).requests.length
  modify fun t => { t with requests := t.requests ++ [r] }
  return s.answer n

def closing (x : Run α) : Run α := fun s =>
  let (r, t) := x s
  (r, { t with closes := t.closes + 1 })

/-- A run elsewhere, where the fields bound here are not seen. -/
def apart (away : Bool) (x : Run α) : Run α := fun s =>
  if away then
    let (r, t) := x { s with bound := [] }
    (r, { t with bound := s.bound })
  else x s

end Run

end TestScaffold
