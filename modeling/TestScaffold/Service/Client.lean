import TestScaffold.Json.Reader
import TestScaffold.Problem
import TestScaffold.Service.Address

/-!
The client of the generative service over HTTP: what it sends to each provider, and what it makes of
what comes back. The connection is opened by the first request that has a key.
-/

namespace TestScaffold

inductive Body where
  | json (j : Json)
  | text (s : String)

inductive Delivery where
  | response (status : Int) (body : Body)
  | failed (message : String)

structure HttpRequest where
  method : String := "POST"
  url : String
  authorization : String
  body : Json

inductive Breakdown where
  | failed (p : Problem)
  | noSuchPart
  | noSuchMember
  | wrongType
  | nestedTooDeep
  | badAddress (e : UrlError)
  | noScheme
  | badKey

structure Client where
  sent : List HttpRequest := []
  isOpen : Bool := false

namespace Client

def problem (c : Config) (failure : ServiceFailure) (status : Option Int) (message : String) :
    Breakdown :=
  .failed { kind := .service failure c.service.provider.name status, message }

def noKey (c : Config) : Breakdown :=
  problem c .invalidCredentials none
    ("No API key configured for provider " ++ c.service.provider.name)

def statusProblem (c : Config) (status : Int) : Breakdown :=
  problem c (.ofStatus status) (some status) ("Service returned HTTP " ++ toString status)

def unreachable (c : Config) (message : String) : Breakdown :=
  problem c .network none ("Could not reach service: " ++ message)

def noChoices (c : Config) : Breakdown :=
  problem c .malformedResponse none "Reply contained no choices"

def undecodable (c : Config) (status : Int) : Breakdown :=
  problem c .malformedResponse (some status) "Could not decode completions reply"

structure Prompt where
  text : String
  system : Option String := none
  expectsJson : Bool := false
  deriving DecidableEq, Repr

def Prompt.system? (p : Prompt) : Option String := p.system.filter (!·.isEmpty)

def message (role content : String) : Json :=
  .object [("role", .string role), ("content", .string content)]

def chatBody (c : Config) (p : Prompt) : Json :=
  .object <|
    [("model", .string c.service.modelName),
     ("messages", .list (p.system?.toList.map (message "system") ++ [message "user" p.text])),
     ("temperature", .float c.service.temperature),
     ("max_completion_tokens", .int c.service.maxTokens)] ++
    if p.expectsJson then [("response_format", .object [("type", .string "json_object")])] else []

def messagesBody (c : Config) (p : Prompt) : Json :=
  .object <|
    [("model", .string c.service.modelName),
     ("max_tokens", .int c.service.maxTokens),
     ("temperature", .float c.service.temperature),
     ("messages", .list [message "user" p.text])] ++
    p.system?.toList.map fun s => ("system", .string s)

def completionsBody (c : Config) (p : Prompt) : Json :=
  let prompt := (p.system?.map fun s => s ++ "\n\n" ++ p.text).getD p.text
  .object
    [("model", .string c.service.model),
     ("prompt", .string prompt),
     ("max_tokens", .int c.service.maxTokens),
     ("n", .int 1)]

def requestTo (address : Url) (authorization : String) (body : Json) : HttpRequest :=
  { url := address.text, authorization := address.credentials?.getD authorization, body }

structure Connection where
  key : String
  folder : Url := {}

def ofUrl {α : Type} : Except UrlError α → Except Breakdown α
  | .ok a => .ok a
  | .error e => .error (.badAddress e)

def isPlainKey (key : String) : Bool := key.toList.all fun c => c.toNat < 128

/-- Opens a connection. A connection for raw completions has the key in its headers from the start. -/
def connect (c : Config) (key : String) : Except Breakdown Connection :=
  match c.service.provider with
  | .openai | .anthropic => .ok { key }
  | .azureOpenai => do
    let folder ← ofUrl (Service.azureFolder c.service)
    return { key, folder }
  | .completions => if isPlainKey key then .ok { key } else .error .badKey

def address (c : Config) (k : Connection) : Except UrlError Url :=
  match c.service.provider with
  | .openai => .ok Service.chatAddress
  | .azureOpenai => Service.azureAddress c.service k.folder
  | .anthropic => .ok Service.messagesAddress
  | .completions => Service.completionsAddress c.service

def authorization (c : Config) (key : String) : String :=
  match c.service.provider with
  | .openai | .completions => "Bearer " ++ key
  | .azureOpenai | .anthropic => key

def body (c : Config) (p : Prompt) : Json :=
  match c.service.provider with
  | .openai | .azureOpenai => chatBody c p
  | .anthropic => messagesBody c p
  | .completions => completionsBody c p

def httpRequest (c : Config) (k : Connection) (p : Prompt) : Except Breakdown (Url × HttpRequest) :=
  if !isPlainKey k.key then .error .badKey
  else do
    let a ← ofUrl (address c k)
    return (a, requestTo a (authorization c k.key) (body c p))

def sized (j : Json) : Except Breakdown Json :=
  match j with
  | .string _ | .list _ | .object _ => .ok j
  | _ => .error .wrongType

def value? (limit : Nat) : Body → Except Breakdown (Option Json)
  | .json j => .ok (some j)
  | .text s =>
    let cs := s.toList
    match Json.read limit (if cs.head? = some '\ufeff' then cs.drop 1 else cs) with
    | .ok j => .ok (some j)
    | .error .tooDeep => .error .nestedTooDeep
    | .error _ => .ok none

def firstText? (j : Json) : Option Json :=
  match j.get? "choices" with
  | some (.list (choice :: _)) => choice.get? "text"
  | _ => none

def completionsReply (limit : Nat) (c : Config) (status : Int) (body : Body) :
    Except Breakdown Json :=
  if 400 ≤ status then .error (statusProblem c status)
  else do
    match (← value? limit body).bind firstText? with
    | some j => sized j
    | none => .error (undecodable c status)

def isEmptyValue : Json → Bool
  | .null | .bool false => true
  | .int n => n = 0
  | .float x => x == 0
  | .string s => s.isEmpty
  | .list items => items.isEmpty
  | .object ms => ms.isEmpty
  | .bool true => false

def chatContent (choice : Json) : Except Breakdown Json :=
  match choice.get? "message" with
  | some (.object ms) =>
    let content := ((Json.object ms).get? "content").getD .null
    if isEmptyValue content then .ok (.string "") else sized content
  | _ => .error .noSuchPart

def chatReply (c : Config) (j : Json) : Except Breakdown Json :=
  match j with
  | .object _ =>
    let choices := (j.get? "choices").getD .null
    if isEmptyValue choices then .error (noChoices c)
    else
      match choices with
      | .list (choice :: _) => chatContent choice
      | .object _ => .error .noSuchMember
      | .string _ => .error .noSuchPart
      | _ => .error .wrongType
  | _ => .error .noSuchPart

def blockText? (block : Json) : Option (Except Breakdown String) :=
  match block.get? "type" with
  | some (.string "text") =>
    match block.get? "text" with
    | some (.string s) => some (.ok s)
    | _ => some (.error .wrongType)
  | _ => none

def messagesReply (j : Json) : Except Breakdown Json :=
  match j with
  | .object _ =>
    match j.get? "content" with
    | some (.list blocks) => do
      let texts ← (blocks.filterMap blockText?).mapM id
      return .string (String.join texts)
    | some (.string _) | some (.object _) => .ok (.string "")
    | _ => .error .wrongType
  | _ => .error .noSuchPart

def libraryReply (c : Config) (status : Int) (body : Body) (reply : Json → Except Breakdown Json) :
    Except Breakdown Json :=
  if status < 200 ∨ 300 ≤ status then .error (statusProblem c status)
  else
    match body with
    | .json j => reply j
    | .text _ => .error .noSuchPart

def responseReply (limit : Nat) (c : Config) (status : Int) (body : Body) : Except Breakdown Json :=
  match c.service.provider with
  | .openai | .azureOpenai => libraryReply c status body (chatReply c)
  | .anthropic => libraryReply c status body messagesReply
  | .completions => completionsReply limit c status body

/-- The reply from an address. One without a scheme cannot be told who keeps its cookies. -/
def replyOf (limit : Nat) (c : Config) (a : Url) : Delivery → Except Breakdown Json
  | .failed message => .error (unreachable c message)
  | .response status body =>
    if !a.scheme.isEmpty then responseReply limit c status body
    else if c.service.provider = .completions then .error .noScheme
    else .error (unreachable c "Connection error.")

def complete (limit : Nat) (c : Config) (network : Nat → Delivery) (p : Prompt) :
    StateM Client (Except Breakdown Json) := fun s =>
  match c.apiKey? with
  | none => (.error (noKey c), s)
  | some key =>
    match connect c key with
    | .error e => (.error e, s)
    | .ok k =>
      match httpRequest c k p with
      | .error e => (.error e, { s with isOpen := true })
      | .ok (a, r) =>
        (replyOf limit c a (network s.sent.length), { sent := s.sent ++ [r], isOpen := true })

def probe : Prompt := { text := "Say 'Connection successful'" }

def isTransient : Breakdown → Bool
  | .failed ⟨.service failure _ _, _, _, _⟩ => failure.transient
  | _ => false

def retry {σ α : Type} (x : StateM σ (Except Breakdown α)) :
    Nat → StateM σ (Except Breakdown α)
  | 0 => x
  | n + 1 => do
    match ← x with
    | .error e => if isTransient e then retry x n else return .error e
    | .ok a => return .ok a

def checkConnection (limit : Nat) (c : Config) (network : Nat → Delivery) :
    StateM Client (Except Breakdown Unit) := do
  let r ← retry (complete limit c network probe) 2
  return r.map fun _ => ()

def close : StateM Client Unit := modify fun s => { s with isOpen := false }

end Client

end TestScaffold
