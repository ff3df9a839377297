import TestScaffold.Config.Basic
import TestScaffold.Json.Value

/-!
Log events with their fields, the levels at which loggers let them through, and fields bound to all
events of a context.
-/

namespace TestScaffold

def LogLevel.word : LogLevel → String
  | .debug => "debug"
  | .info => "info"
  | .warning => "warning"
  | .error => "error"
  | .critical => "critical"

def otherWords : Entries LogLevel :=
  [("warn", .warning), ("exception", .error), ("fatal", .critical), ("msg", .info)]

def LogLevel.ofWord? (word : String) : Option LogLevel :=
  Entries.get? (LogLevel.all.map (fun l => (l.word, l)) ++ otherWords) word

structure Event where
  name : String
  level : LogLevel
  fields : Entries Json := []

def reservedNames : List String := ["timestamp", "exc_info"]

def Event.entry (e : Event) (bound : Entries Json) : Json :=
  let fields : Entries Json := (bound.merge e.fields).filter fun f => !reservedNames.contains f.1
  .object (fields.merge [("event", .string e.name), ("level", .string e.level.word)])

structure Logging where
  level : LogLevel
  bound : Entries Json := []

namespace Logging

def serviceLoggers : List String := ["httpx", "httpcore", "openai", "anthropic"]

def serviceSeverity (level : LogLevel) : Nat :=
  if level = .debug then level.severity else max level.severity LogLevel.warning.severity

def severityOf (level : LogLevel) (logger : String) : Nat :=
  if serviceLoggers.any fun s => logger == s || (s ++ ".").isPrefixOf logger then
    serviceSeverity level
  else level.severity

def enabled (l : Logging) (logger : String) (level : LogLevel) : Bool :=
  severityOf l.level logger ≤ level.severity

def lets (l : Logging) (level : LogLevel) : Bool := l.level.severity ≤ level.severity

def line? (l : Logging) (e : Event) : Option Json :=
  if l.lets e.level then some (e.entry l.bound) else none

inductive CallError where
  | noSuchWord
  | takenName
  deriving DecidableEq, Repr

/-- The parameters of the call by which an event is logged. One that is let through goes on to a second
call, with a parameter more. -/
def parameterNames (l : Logging) (level : LogLevel) : List String :=
  ["event", "self"] ++ if l.lets level then ["method_name"] else []

def call (l : Logging) (word name : String) (fields : Entries Json) :
    Except CallError (Option Json) :=
  match LogLevel.ofWord? word with
  | none => .error .noSuchWord
  | some level =>
    if fields.any fun f => (l.parameterNames level).contains f.1 then .error .takenName
    else .ok (l.line? { name, level, fields })

end Logging

end TestScaffold
