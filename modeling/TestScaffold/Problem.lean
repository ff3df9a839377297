import TestScaffold.Json.Display

/-!
What can go wrong, as causes. Each problem has a place in a small hierarchy, and from there a category
for the host and a message for the person at the keyboard.
-/

namespace TestScaffold

inductive ServiceFailure where
  | invalidCredentials | rateLimited | malformedRequest | malformedResponse | network
  deriving DecidableEq, Repr

namespace ServiceFailure

def all : List ServiceFailure :=
  [.invalidCredentials, .rateLimited, .malformedRequest, .malformedResponse, .network]

def name : ServiceFailure → String
  | .invalidCredentials => "invalid_credentials"
  | .rateLimited => "rate_limited"
  | .malformedRequest => "malformed_request"
  | .malformedResponse => "malformed_response"
  | .network => "network"

def ofName? (s : String) : Option ServiceFailure := all.find? (·.name == s)

def userMessage : ServiceFailure → String
  | .invalidCredentials =>
    "Invalid or missing API key. Set the key for the configured provider in the environment."
  | .rateLimited => "Rate limit exceeded for the generative service. Please try again later."
  | .malformedRequest => "The generative service rejected the request."
  | .malformedResponse => "The generative service returned a response that could not be used."
  | .network => "Network error. Please check your internet connection and try again."

def ofStatus (status : Int) : ServiceFailure :=
  if status = 401 ∨ status = 403 then .invalidCredentials
  else if status = 429 then .rateLimited
  else if 400 ≤ status ∧ status < 500 then .malformedRequest
  else .malformedResponse

def transient : ServiceFailure → Bool
  | .network => true
  | _ => false

end ServiceFailure

inductive Category where
  | emptyInput | notRecognized | nameNotFound | missingSection | invalidModel | externalService
  deriving DecidableEq, Repr

def Category.name : Category → String
  | .emptyInput => "empty_input"
  | .notRecognized => "not_a_recognized_source"
  | .nameNotFound => "required_name_not_found"
  | .missingSection => "missing_required_section"
  | .invalidModel => "invalid_model_for_generation"
  | .externalService => "external_service"

inductive ProblemKind where
  | general
  | extraction
  | emptyInput
  | model
  | notAView
  | nameNotFound
  | missingBody
  | generation
  | invalidView
  | service (failure : ServiceFailure) (provider : String) (status : Option Int)
  deriving DecidableEq, Repr

namespace ProblemKind

def wider : ProblemKind → List ProblemKind
  | .general => []
  | .emptyInput => [.extraction, .general]
  | .notAView | .nameNotFound | .missingBody => [.model, .general]
  | .invalidView => [.generation, .general]
  | .extraction | .model | .generation | .service .. => [.general]

def category? : ProblemKind → Option Category
  | .emptyInput => some .emptyInput
  | .notAView => some .notRecognized
  | .nameNotFound => some .nameNotFound
  | .missingBody => some .missingSection
  | .invalidView => some .invalidModel
  | .service .. => some .externalService
  | .general | .extraction | .model | .generation => none

def isGeneration (k : ProblemKind) : Bool := (k :: k.wider).contains .generation

def userMessage : ProblemKind → String
  | .emptyInput => "The source is empty. Select or open some Swift code first."
  | .notAView =>
    "This doesn't appear to be a SwiftUI file. UI test generation works only with SwiftUI views."
  | .nameNotFound => "Could not identify a View struct name in the source."
  | .missingBody => "Missing body property in SwiftUI view."
  | .invalidView => "Invalid view information: the view name cannot be empty."
  | .service failure _ _ => failure.userMessage
  | .general | .extraction | .model | .generation => "Failed to generate tests."

end ProblemKind

structure Problem where
  kind : ProblemKind
  message : String
  context : Entries Json := []
  cause : Option String := none

namespace Problem

def userMessage (p : Problem) : String := p.kind.userMessage

def category? (p : Problem) : Option Category := p.kind.category?

def detail (p : Problem) : String :=
  let context :=
    if p.context.isEmpty then "" else " | context: " ++ (Json.object p.context).display
  let cause := (p.cause.map (" | caused by: " ++ ·)).getD ""
  p.message ++ context ++ cause

def text (p : Problem) : String :=
  match p.kind with
  | .service failure provider status =>
    let source := if provider.isEmpty then "service" else provider
    let status := (status.map fun n => " status=" ++ toString n).getD ""
    "[" ++ source ++ ":" ++ failure.name ++ status ++ "] " ++ p.detail
  | _ => p.detail

end Problem

end TestScaffold
