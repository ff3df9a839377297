import TestScaffold.Entries
import TestScaffold.Render.Options

/-!
The configuration: which service to ask and how, how far extraction looks ahead, when to escalate, and
what the tests contain.
-/

namespace TestScaffold

inductive Provider where
  | openai | anthropic | azureOpenai | completions
  deriving DecidableEq, Repr

namespace Provider

def all : List Provider := [.openai, .anthropic, .azureOpenai, .completions]

def name : Provider → String
  | .openai => "openai"
  | .anthropic => "anthropic"
  | .azureOpenai => "azure_openai"
  | .completions => "completions"

end Provider

inductive LogLevel where
  | debug | info | warning | error | critical
  deriving DecidableEq, Repr

namespace LogLevel

def settable : List LogLevel := [.debug, .info, .warning, .error]

def all : List LogLevel := settable ++ [.critical]

def name : LogLevel → String
  | .debug => "DEBUG"
  | .info => "INFO"
  | .warning => "WARNING"
  | .error => "ERROR"
  | .critical => "CRITICAL"

def severity : LogLevel → Nat
  | .debug => 10
  | .info => 20
  | .warning => 30
  | .error => 40
  | .critical => 50

end LogLevel

structure ServiceConfig where
  provider : Provider := .openai
  azureEndpoint : Option String := none
  azureApiVersion : String := "2024-02-15-preview"
  azureDeployment : Option String := none
  endpoint : String := "https://api.github.com/copilot_internal/v2/completions"
  model : String := "gpt-4o"
  temperature : Float := 0.1
  maxTokens : Int := 2000
  requestTimeout : Float := 60

def ServiceConfig.modelName (s : ServiceConfig) : String :=
  match s.provider, s.azureDeployment with
  | .azureOpenai, some d => if d.isEmpty then s.model else d
  | _, _ => s.model

structure EscalationConfig where
  enabled : Bool := true
  timeout : Float := 30

structure Keys where
  openai : Option String := none
  anthropic : Option String := none
  azureOpenai : Option String := none
  completions : Option String := none
  deriving DecidableEq, Repr

def Keys.get? (k : Keys) : Provider → Option String
  | .openai => k.openai
  | .anthropic => k.anthropic
  | .azureOpenai => k.azureOpenai
  | .completions => k.completions

structure Config where
  projectName : String := "swiftscaffold"
  logLevel : LogLevel := .info
  service : ServiceConfig := {}
  lookahead : Int := 100
  escalation : EscalationConfig := {}
  generation : Render.Options := {}
  keys : Keys := {}

namespace Config

def apiKey? (c : Config) : Option String := (c.keys.get? c.service.provider).filter (!·.isEmpty)

def escalationAvailable (c : Config) : Bool := c.escalation.enabled && c.apiKey?.isSome

end Config

end TestScaffold
