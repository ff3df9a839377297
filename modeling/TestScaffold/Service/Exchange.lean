import TestScaffold.Service.Client

/-!
A client over many steps. The connection that the first request opens is kept for the requests that
follow, and after a close the next one opens another.
-/

namespace TestScaffold

open Client

structure Exchange where
  sent : List HttpRequest := []
  kept : Option Connection := none

namespace Exchange

def connection (c : Config) (x : Exchange) : Except Breakdown Connection :=
  match x.kept with
  | some k => .ok k
  | none =>
    match c.apiKey? with
    | none => .error (noKey c)
    | some key => connect c key

def complete (limit : Nat) (c : Config) (network : Nat → Delivery) (p : Client.Prompt) :
    StateM Exchange (Except Breakdown Json) := fun x =>
  match x.connection c with
  | .error e => (.error e, x)
  | .ok k =>
    match httpRequest c k p with
    | .error e => (.error e, { x with kept := some k })
    | .ok (a, r) =>
      (replyOf limit c a (network x.sent.length), { sent := x.sent ++ [r], kept := some k })

def checkConnection (limit : Nat) (c : Config) (network : Nat → Delivery) :
    StateM Exchange (Except Breakdown Unit) := do
  let r ← retry (complete limit c network probe) 2
  return r.map fun _ => ()

def close : StateM Exchange Unit := modify fun x => { x with kept := none }

inductive Step where
  | complete (p : Client.Prompt)
  | checkConnection
  | close
  | describe
  deriving DecidableEq, Repr

inductive Outcome where
  | reply (r : Except Breakdown Json)
  | checked (r : Except Breakdown Unit)
  | closed
  | description (provider model : String)

def perform (limit : Nat) (c : Config) (network : Nat → Delivery) : Step → StateM Exchange Outcome
  | .complete p => return .reply (← complete limit c network p)
  | .checkConnection => return .checked (← checkConnection limit c network)
  | .close => do
    close
    return .closed
  | .describe => return .description c.service.provider.name c.service.modelName

structure Entry where
  step : Step
  outcome : Outcome
  requests : List HttpRequest
  isOpen : Bool

def run (limit : Nat) (c : Config) (network : Nat → Delivery) : List Step → Exchange → List Entry
  | [], _ => []
  | step :: steps, x =>
    let (outcome, y) := perform limit c network step x
    { step, outcome, requests := y.sent.drop x.sent.length, isOpen := y.kept.isSome } ::
      run limit c network steps y

end Exchange

end TestScaffold
