import TestScaffold.Config.Basic
import TestScaffold.Json.Decode
import TestScaffold.Text.Casing

namespace TestScaffold

open Decoder

abbrev Environment := Entries String

namespace Environment

def text (env : Environment) (name default : String) : String := (Entries.get? env name).getD default

def key? (env : Environment) (name : String) : Option String :=
  (Entries.get? env name).filter (!·.isEmpty)

def keys (env : Environment) : Keys where
  openai := key? env "OPENAI_API_KEY"
  anthropic := key? env "ANTHROPIC_API_KEY"
  azureOpenai := key? env "AZURE_OPENAI_API_KEY"
  completions := key? env "SCAFFOLD_API_KEY"

end Environment

def Provider.decode : Decoder Provider := oneOf (Provider.all.map fun p => (p.name, p))

def LogLevel.decode : Decoder LogLevel := oneOf (LogLevel.settable.map fun l => (l.name, l))

def Render.Options.decode : Decoder Render.Options :=
  record fun ms =>
    Render.Options.mk
      <$> field ms ["include_suggestions"] bool (some true)
      <*> field ms ["include_state_tests"] bool (some true)
      <*> field ms ["include_navigation_tests"] bool (some true)
      <*> field ms ["include_comments"] bool (some true)
      <*> field ms ["include_launch_arguments"] bool (some true)

def positive (x : Float) : Bool := 0 < x

def ServiceConfig.decode : Decoder ServiceConfig :=
  let d : ServiceConfig := {}
  record fun ms =>
    ServiceConfig.mk
      <$> field ms ["provider"] Provider.decode (some d.provider)
      <*> field ms ["azure_endpoint"] (optional string) (some d.azureEndpoint)
      <*> field ms ["azure_api_version"] string (some d.azureApiVersion)
      <*> field ms ["azure_deployment_name"] (optional string) (some d.azureDeployment)
      <*> field ms ["endpoint"] string (some d.endpoint)
      <*> field ms ["model"] string (some d.model)
      <*> field ms ["temperature"] (restrict float fun x => 0 ≤ x && x ≤ 2) (some d.temperature)
      <*> field ms ["max_tokens"] (restrict int (256 ≤ ·)) (some d.maxTokens)
      <*> field ms ["request_timeout_seconds"] (restrict float positive) (some d.requestTimeout)

def lookaheadDecode : Decoder Int :=
  record fun ms => field ms ["lookahead_window"] (restrict int (0 ≤ ·)) (some 100)

def EscalationConfig.decode : Decoder EscalationConfig :=
  let d : EscalationConfig := {}
  record fun ms =>
    EscalationConfig.mk
      <$> field ms ["enabled"] bool (some d.enabled)
      <*> field ms ["timeout_seconds"] (restrict float positive) (some d.timeout)

def Config.decode (env : Environment) : Decoder Config :=
  let d : Config := {}
  let k := env.keys
  record fun ms =>
    (fun name level service lookahead escalation generation a b c e =>
      Config.mk name level service lookahead escalation generation ⟨a, b, c, e⟩)
      <$> field ms ["project_name"] string (some d.projectName)
      <*> field ms ["log_level"] LogLevel.decode (some d.logLevel)
      <*> field ms ["service"] ServiceConfig.decode (some d.service)
      <*> field ms ["extraction"] lookaheadDecode (some d.lookahead)
      <*> field ms ["escalation"] EscalationConfig.decode (some d.escalation)
      <*> field ms ["generation"] Render.Options.decode (some d.generation)
      <*> field ms ["openai_api_key"] (optional string) (some k.openai)
      <*> field ms ["anthropic_api_key"] (optional string) (some k.anthropic)
      <*> field ms ["azure_openai_api_key"] (optional string) (some k.azureOpenai)
      <*> field ms ["completions_api_key"] (optional string) (some k.completions)

inductive ConfigError where
  | notANumber
  | invalid (paths : List (List String))
  deriving DecidableEq, Repr

def checkPart {α : Type} (d : Decoder α) (ms : Entries Json) : Except ConfigError α :=
  match d (.object ms) with
  | .valid a => .ok a
  | .invalid ps => .error (.invalid ps)

def floatVariable (env : Environment) (name default : String) : Except ConfigError Float :=
  match Decimal.float? Text.digitValue? (env.text name default).toList with
  | some x => .ok x
  | none => .error .notANumber

def intVariable (env : Environment) (name default : String) : Except ConfigError Int :=
  match Decimal.int? Text.digitValue? (env.text name default).toList with
  | some n => .ok n
  | none => .error .notANumber

/-- The configuration that the environment describes. The parts are read and checked one after the
other, and the first that fails is reported. -/
def Config.ofEnvironment (env : Environment) : Except ConfigError Config := do
  let d : ServiceConfig := {}
  let temperature ← floatVariable env "SCAFFOLD_TEMPERATURE" "0.1"
  let service ← checkPart ServiceConfig.decode
    [("provider", .string (env.text "SCAFFOLD_PROVIDER" "openai")),
     ("model", .string (env.text "SCAFFOLD_MODEL" d.model)),
     ("endpoint", .string (env.text "SCAFFOLD_ENDPOINT" d.endpoint)),
     ("temperature", .float temperature),
     ("azure_endpoint", Json.optionalString (Entries.get? env "AZURE_OPENAI_ENDPOINT")),
     ("azure_api_version", .string (env.text "AZURE_OPENAI_API_VERSION" d.azureApiVersion)),
     ("azure_deployment_name", Json.optionalString (Entries.get? env "AZURE_OPENAI_DEPLOYMENT_NAME"))]
  let window ← intVariable env "SCAFFOLD_LOOKAHEAD_WINDOW" "100"
  let lookahead ← checkPart lookaheadDecode [("lookahead_window", .int window)]
  let enabled := Text.lowercased (env.text "SCAFFOLD_ESCALATION_ENABLED" "true") == "true"
  let timeout ← floatVariable env "SCAFFOLD_ESCALATION_TIMEOUT" "30"
  let escalation ← checkPart EscalationConfig.decode
    [("enabled", .bool enabled), ("timeout_seconds", .float timeout)]
  let level ← checkPart (record fun ms => field ms ["log_level"] LogLevel.decode none)
    [("log_level", .string (env.text "SCAFFOLD_LOG_LEVEL" "INFO"))]
  return { logLevel := level, service, lookahead, escalation, keys := env.keys }

end TestScaffold
