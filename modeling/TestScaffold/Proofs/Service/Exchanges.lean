import TestScaffold.Proofs.Service.ConnectionChecks
import TestScaffold.Service.Exchange

/-!
Exchanges over many steps. The connection that is kept is the one that would be opened, so a prompt comes to
what it would come to on its own, and closing the client or asking it for its service changes nothing else.
-/

namespace TestScaffold.Exchange

open Client

/-- The connection that is kept is the one that the configuration leads to. -/
def Keeps (c : Config) (x : Exchange) : Prop :=
  ∀ k ∈ x.kept, ∃ key, c.apiKey? = some key ∧ connect c key = .ok k

structure Follows (c : Config) (x : Exchange) (s : Client) : Prop where
  sent : x.sent = s.sent
  keeps : x.Keeps c

structure Alike (c : Config) (x y : Exchange) : Prop where
  sent : x.sent = y.sent
  left : x.Keeps c
  right : y.Keeps c

def Step.asks : Step → Bool
  | .complete _ | .checkConnection => true
  | .close | .describe => false

/-- What can be seen of the steps that ask: how each of them ended, and the requests that it sent. -/
def asked (entries : List Entry) : List (Step × Outcome × List HttpRequest) :=
  (entries.filter (·.step.asks)).map fun e => (e.step, e.outcome, e.requests)

/-- From states that are related, both end alike and in states that are related. -/
def Agree {σ τ α : Type} (R : σ → τ → Prop) (f : StateM σ α) (g : StateM τ α) : Prop :=
  ∀ s t, R s t → (f s).1 = (g t).1 ∧ R (f s).2 (g t).2

variable {σ τ α β : Type} {R : σ → τ → Prop} {limit : Nat} {c : Config} {x y : Exchange}

theorem Agree.map {f : StateM σ α} {g : StateM τ α} (h : Agree R f g) (φ : α → β) :
    Agree R (φ <$> f) (φ <$> g) :=
  fun s t hst => ⟨congrArg φ (h s t hst).1, (h s t hst).2⟩

theorem Agree.retry {f : StateM σ (Except Breakdown α)} {g : StateM τ (Except Breakdown α)}
    (h : Agree R f g) (n : Nat) : Agree R (retry f n) (retry g n) := by
  induction n with
  | zero => exact h
  | succ n ih =>
    intro s t hst
    obtain ⟨hresult, hstate⟩ := h s t hst
    by_cases hfirst : Unreached (f s).1
    · rw [retry_unreached n hfirst, retry_unreached n (hresult ▸ hfirst)]
      exact ih _ _ hstate
    · rw [retry_settled n hfirst, retry_settled n (hresult ▸ hfirst)]
      exact ⟨hresult, hstate⟩

theorem keeps_new (c : Config) : Keeps c {} := nofun

theorem connection_eq (h : x.Keeps c) : x.connection c = connection c {} := by
  unfold connection
  cases hk : x.kept with
  | none => rfl
  | some k =>
    obtain ⟨key, hkey, hconnect⟩ := h k hk
    simp only [hkey, hconnect]

theorem keeps_of_connection {sent : List HttpRequest} {k : Connection} (h : connection c {} = .ok k) :
    Keeps c { sent, kept := some k } := by
  rintro _ ⟨⟩
  unfold connection at h
  cases hkey : c.apiKey? with
  | none =>
    rw [hkey] at h
    cases h
  | some key =>
    rw [hkey] at h
    exact ⟨key, rfl, h⟩

theorem agree_complete (limit : Nat) (c : Config) (network : Nat → Delivery) (p : Client.Prompt) :
    Agree (Follows c) (complete limit c network p) (Client.complete limit c network p) := by
  rintro ⟨sent, kept⟩ s ⟨rfl, hx⟩
  -- By the invariant both go through the connection that would be opened now.
  simp only [complete, Client.complete, connection_eq hx]
  cases hk : connection c {} with
  | error e =>
    unfold connection at hk
    cases hkey : c.apiKey? with
    | none =>
      rw [hkey] at hk
      cases hk
      exact ⟨rfl, rfl, hx⟩
    | some key =>
      rw [hkey] at hk
      have hconnect : connect c key = .error e := hk
      simp only [hconnect]
      exact ⟨trivial, rfl, hx⟩
  | ok k =>
    have hkeeps : Keeps c { sent := [], kept := some k } := keeps_of_connection hk
    obtain ⟨key, hkey, hconnect⟩ := hkeeps k rfl
    simp only [hkey, hconnect]
    cases httpRequest c k p with
    | error e => exact ⟨rfl, rfl, keeps_of_connection hk⟩
    | ok r => exact ⟨rfl, rfl, keeps_of_connection hk⟩

theorem agree_checkConnection (limit : Nat) (c : Config) (network : Nat → Delivery) :
    Agree (Follows c) (checkConnection limit c network) (Client.checkConnection limit c network) :=
  ((agree_complete limit c network probe).retry 2).map fun r => r.map fun _ => ()

theorem Agree.alike {f : StateM Exchange α} {g : StateM Client α} (h : Agree (Follows c) f g) :
    Agree (Alike c) f f := by
  rintro x y ⟨hsent, hx, hy⟩
  obtain ⟨hresult, hsent', hkeeps⟩ := h x { sent := x.sent } ⟨rfl, hx⟩
  obtain ⟨hresult', hsent'', hkeeps'⟩ := h y { sent := x.sent } ⟨hsent.symm, hy⟩
  exact ⟨hresult.trans hresult'.symm, hsent'.trans hsent''.symm, hkeeps, hkeeps'⟩

theorem agree_perform (limit : Nat) (c : Config) (network : Nat → Delivery) (step : Step) :
    Agree (Alike c) (perform limit c network step) (perform limit c network step) := by
  cases step with
  | complete p => exact (agree_complete limit c network p).alike.map Outcome.reply
  | checkConnection => exact (agree_checkConnection limit c network).alike.map Outcome.checked
  | close => exact fun x y h => ⟨rfl, h.sent, nofun, nofun⟩
  | describe => exact fun x y h => ⟨rfl, h⟩

theorem perform_keeps (limit : Nat) (network : Nat → Delivery) (step : Step) (hx : x.Keeps c) :
    (perform limit c network step x).2.Keeps c :=
  (agree_perform limit c network step x x ⟨rfl, hx, hx⟩).2.left

theorem perform_quiet (network : Nat → Delivery) {step : Step} (h : step.asks = false)
    (hx : x.Keeps c) : Alike c (perform limit c network step x).2 x := by
  cases step with
  | complete p => cases h
  | checkConnection => cases h
  | close => exact ⟨rfl, nofun, hx⟩
  | describe => exact ⟨rfl, hx, hx⟩

theorem run_cons (network : Nat → Delivery) (step : Step) (steps : List Step) (x : Exchange) :
    run limit c network (step :: steps) x =
      { step, outcome := (perform limit c network step x).1,
        requests := (perform limit c network step x).2.sent.drop x.sent.length,
        isOpen := (perform limit c network step x).2.kept.isSome } ::
        run limit c network steps (perform limit c network step x).2 := rfl

theorem asked_run_cons (network : Nat → Delivery) (step : Step) (steps : List Step) (x : Exchange) :
    asked (run limit c network (step :: steps) x) =
      (if step.asks then [(step, (perform limit c network step x).1,
        (perform limit c network step x).2.sent.drop x.sent.length)] else []) ++
        asked (run limit c network steps (perform limit c network step x).2) := by
  rw [run_cons]
  cases hasks : step.asks <;> simp [asked, hasks]

theorem asked_run_alike (network : Nat → Delivery) (steps : List Step) (h : Alike c x y) :
    asked (run limit c network steps x) = asked (run limit c network steps y) := by
  induction steps generalizing x y with
  | nil => rfl
  | cons step steps ih =>
    obtain ⟨houtcome, hstate⟩ := agree_perform limit c network step x y h
    rw [asked_run_cons, asked_run_cons, houtcome, hstate.sent, h.sent, ih hstate]

theorem asked_run_filter (network : Nat → Delivery) (steps : List Step) (hx : x.Keeps c) :
    asked (run limit c network steps x) = asked (run limit c network (steps.filter Step.asks) x) := by
  -- A step that is left out may have closed the connection, so the runs behind it start from states that
  -- are alike, not from the same one.
  induction steps generalizing x with
  | nil => rfl
  | cons step steps ih =>
    have hrest := ih (perform_keeps limit network step hx)
    rw [asked_run_cons, hrest]
    cases hasks : step.asks with
    | true => rw [List.filter_cons_of_pos hasks, asked_run_cons, hasks]
    | false =>
      rw [List.filter_cons_of_neg (by simp [hasks]), if_neg Bool.false_ne_true, List.nil_append]
      exact asked_run_alike network _ (perform_quiet network hasks hx)

section

variable (hprovider : c.service.provider = .completions)

include hprovider

theorem sent_complete (network : Nat → Delivery) (p : Client.Prompt) (hx : x.Keeps c) :
    (∀ key a, c.apiKey? = some key → Sendable c key a →
      (complete limit c network p x).2.sent =
        x.sent ++ [requestTo a ("Bearer " ++ key) (completionsBody c p)]) ∧
    ((∀ key a, c.apiKey? = some key → ¬ Sendable c key a) →
      (complete limit c network p x).2.sent = x.sent) := by
  rw [(agree_complete limit c network p x { sent := x.sent } ⟨rfl, hx⟩).2.sent]
  refine ⟨fun key a hkey ha => by rw [complete_sent hprovider hkey ha], fun h => ?_⟩
  cases hkey : c.apiKey? with
  | none => rw [complete_noKey hkey]
  | some key => exact (complete_unsent hprovider hkey (fun a => h key a hkey) network p _).1

theorem requests_complete (network : Nat → Delivery) {steps : List Step} {e : Entry} {p : Client.Prompt}
    (hx : x.Keeps c) (he : e ∈ run limit c network steps x) (hstep : e.step = .complete p) :
    (∀ key a, c.apiKey? = some key → Sendable c key a →
      e.requests = [requestTo a ("Bearer " ++ key) (completionsBody c p)]) ∧
    ((∀ key a, c.apiKey? = some key → ¬ Sendable c key a) → e.requests = []) := by
  induction steps generalizing x with
  | nil => cases he
  | cons step steps ih =>
    rcases List.mem_cons.1 he with rfl | he
    · obtain rfl : step = .complete p := hstep
      obtain ⟨hone, hnone⟩ := sent_complete hprovider network p hx
      refine ⟨fun key a hkey ha => ?_, fun h => ?_⟩
      · change (complete limit c network p x).2.sent.drop x.sent.length = _
        rw [hone key a hkey ha, List.drop_left]
      · change (complete limit c network p x).2.sent.drop x.sent.length = _
        rw [hnone h, List.drop_length]
    · exact ih (perform_keeps limit network step hx) he

/-- Steps that ask nothing can be put in and left out anywhere. Each prompt makes one request if there is a
key that fits into a header and an endpoint that is an address, and none otherwise; what it asks for depends on
the configuration and the texts of the prompt. -/
theorem quiet_steps_unseen (limit : Nat) (network : Nat → Delivery) {steps steps' : List Step}
    (h : steps.filter Step.asks = steps'.filter Step.asks) :
    asked (run limit c network steps {}) = asked (run limit c network steps' {}) ∧
    ∀ e ∈ run limit c network steps {}, ∀ p, e.step = .complete p →
      (∀ key a, c.apiKey? = some key → Sendable c key a →
        e.requests = [requestTo a ("Bearer " ++ key)
          (completionsBody c { text := p.text, system := p.system })]) ∧
      ((∀ key a, c.apiKey? = some key → ¬ Sendable c key a) → e.requests = []) := by
  refine ⟨?_, fun e he p hstep => requests_complete hprovider network (p := p) (keeps_new c) he hstep⟩
  rw [asked_run_filter network steps (keeps_new c), h,
    ← asked_run_filter network steps' (keeps_new c)]

end

def hello : Client.Prompt := { text := "hello" }

def brief : Client.Prompt := { text := "hello", system := some "Be brief" }

theorem quiet_steps_unseen_reopened :
    [.close, .complete hello, .describe, .complete brief, .close, .close, .complete hello].filter
        Step.asks = [.complete hello, .complete brief, .complete hello].filter Step.asks ∧
    asked (run 990 testConfig reachedAtThird
        [.close, .complete hello, .describe, .complete brief, .close, .close, .complete hello] {}) =
      asked (run 990 testConfig reachedAtThird [.complete hello, .complete brief, .complete hello] {}) ∧
    ∀ e ∈ run 990 testConfig reachedAtThird [.complete hello, .complete brief, .complete hello] {}, ∀ p,
      e.step = .complete p → e.requests =
        [requestTo testAddress "Bearer token"
          (completionsBody testConfig { text := p.text, system := p.system })] := by
  have hkey : testConfig.apiKey? = some "token" := by decide
  have ha : Sendable testConfig "token" testAddress := ⟨by decide, address_testConfig⟩
  have hsteps : [.close, .complete hello, .describe, .complete brief, .close, .close,
      .complete hello].filter Step.asks =
      [.complete hello, .complete brief, .complete hello].filter Step.asks := by decide
  have hback := quiet_steps_unseen (c := testConfig) rfl 990 reachedAtThird hsteps.symm
  exact ⟨hsteps, hback.1.symm, fun e he p hp => (hback.2 e he p hp).1 "token" testAddress hkey ha⟩

theorem run_unsent :
    foreignKeyConfig.apiKey? = some "cl\u00e9" ∧
    (run 990 foreignKeyConfig (fun _ => answeredString) [.complete hello] {}).map Entry.requests = [[]] ∧
    brokenEndpointConfig.apiKey? = some "token" ∧
    (run 990 brokenEndpointConfig (fun _ => answeredString) [.complete hello] {}).map Entry.requests =
      [[]] := by
  have hnone : ∀ key a, brokenEndpointConfig.apiKey? = some key →
      ¬ Sendable brokenEndpointConfig key a :=
    fun key a _ ha => nomatch ha.address.symm.trans address_brokenEndpointConfig
  have hsent : (complete 990 brokenEndpointConfig (fun _ => answeredString) hello {}).2.sent = [] :=
    (sent_complete rfl (fun _ => answeredString) hello (keeps_new _)).2 hnone
  exact ⟨by decide, rfl, by decide, congrArg (fun sent : List HttpRequest => [sent.drop 0]) hsent⟩

end TestScaffold.Exchange
