import TestScaffold.Proofs.Service.Completions

namespace TestScaffold.Client

def Unreached {α : Type} (r : Except Breakdown α) : Prop :=
  ∃ (p : Problem) (provider : String) (status : Option Int),
    r = .error (.failed p) ∧ p.kind = .service .network provider status

/-- The outcome at `k` is the first that is no failure of the network. -/
structure FirstSettled {α : Type} (outcome : Nat → Except Breakdown α) (k : Nat) : Prop where
  settled : ¬ Unreached (outcome k)
  before : ∀ i < k, Unreached (outcome i)

/-- The outcome at `m` is the last that is tried for: the first that is no failure of the network, or the one
at `tries` if none comes before that. -/
structure LastTried {α : Type} (outcome : Nat → Except Breakdown α) (tries m : Nat) : Prop where
  le : m ≤ tries
  settled : m < tries → ¬ Unreached (outcome m)
  before : ∀ i < m, Unreached (outcome i)

def probeRequest (c : Config) (key : String) (a : Url) : HttpRequest :=
  requestTo a ("Bearer " ++ key) (completionsBody c probe)

variable {α : Type} {c : Config} {key : String} {a : Url} {d : Delivery} {k m tries limit : Nat}
  {outcome : Nat → Except Breakdown α}

theorem isTransient_iff {e : Breakdown} :
    isTransient e = true ↔ Unreached (.error e : Except Breakdown α) := by
  constructor
  · intro h
    unfold isTransient at h
    split at h
    · rename_i failure provider status message context cause
      cases failure <;> cases h
      exact ⟨_, provider, status, rfl, rfl⟩
    · cases h
  · rintro ⟨⟨kind, message, context, cause⟩, provider, status, h, rfl⟩
    cases h
    rfl

theorem not_unreached_ok (b : α) : ¬ Unreached (.ok b) := by
  rintro ⟨_, _, _, h, -⟩
  cases h

theorem not_unreached_badKey : ¬ Unreached (.error .badKey : Except Breakdown α) := by
  rintro ⟨_, _, _, h, -⟩
  cases h

theorem not_unreached_badAddress (e : UrlError) :
    ¬ Unreached (.error (.badAddress e) : Except Breakdown α) := by
  rintro ⟨_, _, _, h, -⟩
  cases h

section

variable {σ : Type} {x : StateM σ (Except Breakdown α)} {s : σ}

theorem retry_settled (n : Nat) (h : ¬ Unreached (x s).1) : retry x (n + 1) s = x s := by
  rcases hx : x s with ⟨e | b, t⟩
  · have hlasting : isTransient e = false := by
      rw [Bool.eq_false_iff]
      intro htransient
      rw [hx] at h
      exact h (isTransient_iff.1 htransient)
    simp only [retry, bind, StateT.bind, hx, hlasting]
    rfl
  · simp only [retry, bind, StateT.bind, hx]
    rfl

theorem retry_unreached (n : Nat) (h : Unreached (x s).1) : retry x (n + 1) s = retry x n (x s).2 := by
  obtain ⟨p, provider, status, heq, hkind⟩ := h
  have htransient : isTransient (.failed p) = true :=
    isTransient_iff (α := α) |>.2 ⟨p, provider, status, rfl, hkind⟩
  rcases hx : x s with ⟨r, t⟩
  rw [hx] at heq
  obtain rfl : r = .error (.failed p) := heq
  simp [retry, bind, StateT.bind, hx, htransient]

end

theorem retry_sends (outcome : Nat → Except Breakdown α) {x : StateM Client (Except Breakdown α)}
    {r : HttpRequest}
    (hx : ∀ s, x s = (outcome s.sent.length, { sent := s.sent ++ [r], isOpen := true }))
    (n : Nat) (s : Client) :
    ∃ m, LastTried (fun i => outcome (s.sent.length + i)) n m ∧
      retry x n s = (outcome (s.sent.length + m),
        { sent := s.sent ++ List.replicate (m + 1) r, isOpen := true }) := by
  have hfirst : (x s).1 = outcome s.sent.length := by rw [hx]
  -- Each failed try leaves one request more and one try less, so the outcomes behind it move by one.
  induction n generalizing s with
  | zero => exact ⟨0, ⟨Nat.le_refl 0, nofun, nofun⟩, hx s⟩
  | succ n ih =>
    by_cases h : Unreached (outcome s.sent.length)
    · obtain ⟨m, hm, heq⟩ := ih (x s).2 (by rw [hx])
      have hlength (i : Nat) : (x s).2.sent.length + i = s.sent.length + (i + 1) := by
        rw [hx, List.length_append, List.length_singleton, Nat.add_assoc, Nat.add_comm 1]
      simp only [hlength] at hm heq
      refine ⟨m + 1, ⟨Nat.succ_le_succ hm.le, fun hlt => hm.settled (Nat.lt_of_succ_lt_succ hlt), ?_⟩, ?_⟩
      · intro i hi
        cases i with
        | zero => exact h
        | succ i => exact hm.before i (Nat.lt_of_succ_lt_succ hi)
      · rw [retry_unreached n (hfirst ▸ h), heq, hx, List.append_assoc, List.singleton_append,
          ← List.replicate_succ]
    · refine ⟨0, ⟨Nat.zero_le _, fun _ => h, nofun⟩, ?_⟩
      rw [retry_settled n (hfirst ▸ h), hx]
      rfl

theorem LastTried.eq_min (h : LastTried outcome tries m) (hk : FirstSettled outcome k) :
    m = min k tries := by
  have hle : ¬ k < m := fun hlt => hk.settled (h.before k hlt)
  have hge : m < tries → ¬ m < k := fun hlt hlt' => h.settled hlt (hk.before m hlt')
  have := h.le
  omega

theorem LastTried.eq_tries (h : LastTried outcome tries m) (hnone : ∀ k, Unreached (outcome k)) :
    m = tries :=
  Nat.le_antisymm h.le (Nat.not_lt.1 fun hlt => h.settled hlt (hnone m))

theorem LastTried.ok_iff (h : LastTried outcome tries m) :
    (∃ b, outcome m = .ok b) ↔ ∃ k ≤ tries, FirstSettled outcome k ∧ ∃ b, outcome k = .ok b := by
  constructor
  · rintro ⟨b, hb⟩
    exact ⟨m, h.le, ⟨hb ▸ not_unreached_ok b, h.before⟩, b, hb⟩
  · rintro ⟨k, hk, hfirst, b, hb⟩
    obtain rfl : m = k := by rw [h.eq_min hfirst, Nat.min_eq_left hk]
    exact ⟨b, hb⟩

theorem ofStatus_ne_network (status : Int) : ServiceFailure.ofStatus status ≠ .network := by
  unfold ServiceFailure.ofStatus
  repeat' split
  all_goals exact nofun

theorem not_unreached_completionsReply {status : Int} {body : Body} :
    ¬ Unreached (completionsReply limit c status body) := by
  rintro ⟨p, provider, status', h, hkind⟩
  by_cases hstatus : 400 ≤ status
  · rw [completionsReply, if_pos hstatus] at h
    cases h
    exact ofStatus_ne_network status (ProblemKind.service.inj hkind).1
  · rw [reply_eq (Int.not_le.1 hstatus)] at h
    cases hv : value? limit body with
    | error e =>
      rw [hv, value?_eq_error hv] at h
      cases h
    | ok v =>
      rw [hv] at h
      cases ht : v.bind firstText? with
      | none =>
        simp only [Except.bind, ht] at h
        cases h
        cases hkind
      | some t =>
        simp only [Except.bind, ht] at h
        cases t <;> cases h

section

variable (hprovider : c.service.provider = .completions)

include hprovider

theorem unreached_replyOf_iff : Unreached (replyOf limit c a d) ↔ ∃ message, d = .failed message := by
  constructor
  · intro h
    cases d with
    | failed message => exact ⟨message, rfl⟩
    | response status body =>
      by_cases hscheme : a.scheme = []
      · rw [replyOf_noScheme hprovider hscheme] at h
        obtain ⟨p, -, -, h, -⟩ := h
        cases h
      · rw [replyOf_response hprovider hscheme] at h
        exact absurd h not_unreached_completionsReply
  · rintro ⟨message, rfl⟩
    exact ⟨_, _, _, rfl, rfl⟩

theorem complete_sent (hkey : c.apiKey? = some key) (ha : Sendable c key a) (network : Nat → Delivery)
    (p : Prompt) (s : Client) :
    complete limit c network p s = (replyOf limit c a (network s.sent.length),
      { sent := s.sent ++ [requestTo a ("Bearer " ++ key) (completionsBody c p)], isOpen := true }) := by
  simp only [complete, hkey, connect, hprovider, ha.plain, if_true, httpRequest, Bool.not_true,
    Bool.false_eq_true, if_false, address, ha.address, authorization, body]
  rfl

theorem complete_unsent (hkey : c.apiKey? = some key) (h : ∀ a, ¬ Sendable c key a)
    (network : Nat → Delivery) (p : Prompt) (s : Client) :
    (complete limit c network p s).2.sent = s.sent ∧ ¬ Unreached (complete limit c network p s).1 := by
  simp only [complete, hkey, connect, hprovider]
  cases hplain : isPlainKey key with
  | false => exact ⟨rfl, not_unreached_badKey⟩
  | true =>
    cases ha : Service.completionsAddress c.service with
    | ok a => exact absurd ⟨hplain, ha⟩ (h a)
    | error e =>
      simp only [if_true, httpRequest, hplain, Bool.not_true, Bool.false_eq_true, if_false, address,
        hprovider, ha]
      exact ⟨rfl, not_unreached_badAddress e⟩

end

theorem complete_noKey (hkey : c.apiKey? = none) (network : Nat → Delivery) (p : Prompt) (s : Client) :
    complete limit c network p s = (.error (noKey c), s) := by
  simp only [complete, hkey]

theorem checkConnection_eq (limit : Nat) (c : Config) (network : Nat → Delivery) (s : Client) :
    checkConnection limit c network s = ((retry (complete limit c network probe) 2 s).1.map fun _ => (),
      (retry (complete limit c network probe) 2 s).2) := rfl

/-- The check fails at once without a key, and without sending anything if no request can be made. All else
depends on the first outcome that is no failure of the network. -/
theorem checkConnection_attempts (hprovider : c.service.provider = .completions)
    (network : Nat → Delivery) (s : Client) :
    (c.apiKey? = none → (checkConnection limit c network s).2.sent = s.sent ∧
      ∃ p : Problem, (checkConnection limit c network s).1 = .error (.failed p) ∧
        p.kind = .service .invalidCredentials c.service.provider.name none) ∧
    ∀ key, c.apiKey? = some key →
      ((∀ a, ¬ Sendable c key a) → (checkConnection limit c network s).2.sent = s.sent) ∧
      ∀ a, Sendable c key a →
        let outcome i := replyOf limit c a (network (s.sent.length + i))
        (∀ i, Unreached (outcome i) ↔ ∃ message, network (s.sent.length + i) = .failed message) ∧
        ∃ n, (checkConnection limit c network s).2.sent =
            s.sent ++ List.replicate (n + 1) (probeRequest c key a) ∧
          (∀ k, FirstSettled outcome k → n + 1 = min (k + 1) 3) ∧
          ((∀ k, Unreached (outcome k)) → n + 1 = 3) ∧
          ((checkConnection limit c network s).1 = .ok () ↔
            ∃ k < 3, FirstSettled outcome k ∧ ∃ reply, outcome k = .ok reply) ∧
          ∀ e, (checkConnection limit c network s).1 = .error e ↔ outcome n = .error e := by
  rw [checkConnection_eq]
  refine ⟨fun hkey => ?_, fun key hkey => ⟨fun hunsent => ?_, fun a ha => ?_⟩⟩
  · have hsettled : ¬ Unreached (complete limit c network probe s).1 := by
      rw [complete_noKey hkey]
      rintro ⟨p, provider, status, h, hkind⟩
      cases h
      cases hkind
    rw [retry_settled 1 hsettled, complete_noKey hkey]
    exact ⟨rfl, _, rfl, rfl⟩
  · obtain ⟨hsent, hsettled⟩ := complete_unsent hprovider hkey hunsent network probe s
    rw [retry_settled 1 hsettled, hsent]
  · intro outcome
    obtain ⟨m, hm, heq⟩ := retry_sends (fun i => replyOf limit c a (network i))
      (complete_sent hprovider hkey ha network probe) 2 s
    have hm : LastTried outcome 2 m := hm
    have hresult : (retry (complete limit c network probe) 2 s).1 = outcome m := by rw [heq]
    rw [hresult, heq]
    refine ⟨fun i => unreached_replyOf_iff hprovider, m, rfl, fun k hk => ?_, fun hnone => ?_, ?_,
      fun e => ?_⟩
    · rw [hm.eq_min hk, Nat.add_min_add_right]
    · rw [hm.eq_tries hnone]
    · have hok : (∃ reply, outcome m = .ok reply) ↔
          ∃ k < 3, FirstSettled outcome k ∧ ∃ reply, outcome k = .ok reply := by
        simpa only [Nat.lt_succ_iff] using hm.ok_iff
      rw [← hok]
      cases outcome m <;> simp [Except.map]
    · cases outcome m <;> simp [Except.map]

def reachedAtThird (i : Nat) : Delivery := if i < 2 then .failed "refused" else answeredString

theorem checkConnection_attempts_thirdProbe :
    testConfig.apiKey? = some "token" ∧ Sendable testConfig "token" testAddress ∧
    (checkConnection 990 testConfig reachedAtThird {}).1 = .ok () ∧
    (checkConnection 990 testConfig reachedAtThird {}).2.sent =
      List.replicate 3 (probeRequest testConfig "token" testAddress) := by
  have hkey : testConfig.apiKey? = some "token" := by decide
  have ha : Sendable testConfig "token" testAddress := ⟨by decide, address_testConfig⟩
  obtain ⟨hunreached, n, hsent, hfirst, -, hok, -⟩ :=
    ((checkConnection_attempts rfl reachedAtThird {}).2 "token" hkey).2 testAddress ha
  have hreply : replyOf 990 testConfig testAddress answeredString = .ok (.string "let x = 1") := by
    rw [answeredString, replyOf_response rfl (by decide), (offers_offering _).reply (by decide)]
    rfl
  have hthird : FirstSettled (fun i => replyOf 990 testConfig testAddress (reachedAtThird (0 + i))) 2 := by
    refine ⟨fun h => ?_, fun i hi => (hunreached i).2 ⟨"refused", ?_⟩⟩
    · obtain ⟨message, h⟩ := (hunreached 2).1 h
      cases h
    · simp [reachedAtThird, hi]
  refine ⟨hkey, ha, hok.2 ⟨2, by decide, hthird, _, hreply⟩, ?_⟩
  rw [hsent, hfirst 2 hthird]
  rfl

theorem read_control {s : String} (hlength : s.length ≤ Url.lengthLimit)
    (hcontrol : ∃ x ∈ s.toList, Url.isControl x = true) : Url.read s = .error .control := by
  have hany : s.any Url.isControl = true := by
    rw [show s.any Url.isControl = s.toList.any Url.isControl from String.contains_bool_eq]
    simpa using hcontrol
  simp only [Url.read, hany, Nat.not_lt.2 hlength, if_false, if_true]

def foreignKeyConfig : Config := { testConfig with keys := { completions := some "cl\u00e9" } }

def brokenEndpointConfig : Config :=
  { testConfig with service := { testConfig.service with endpoint := "https://example.test/\n" } }

theorem address_brokenEndpointConfig :
    Service.completionsAddress brokenEndpointConfig.service = .error .control := by
  have hread : Url.read "https://example.test/\n" = .error .control :=
    read_control (by decide) ⟨'\n', by decide, by decide⟩
  rw [Service.completionsAddress, brokenEndpointConfig, hread]
  rfl

theorem checkConnection_unsent :
    foreignKeyConfig.apiKey? = some "cl\u00e9" ∧
    checkConnection 990 foreignKeyConfig (fun _ => answeredString) {} = (.error .badKey, {}) ∧
    brokenEndpointConfig.apiKey? = some "token" ∧
    checkConnection 990 brokenEndpointConfig (fun _ => answeredString) {} =
      (.error (.badAddress .control), { isOpen := true }) := by
  have hkey : brokenEndpointConfig.apiKey? = some "token" := by decide
  have hcomplete : complete 990 brokenEndpointConfig (fun _ => answeredString) probe {} =
      (.error (.badAddress .control), { isOpen := true }) := by
    have hprovider : brokenEndpointConfig.service.provider = .completions := rfl
    have hplain : isPlainKey "token" = true := by decide
    simp only [complete, hkey, connect, hprovider, hplain, httpRequest, address,
      address_brokenEndpointConfig]
    rfl
  refine ⟨by decide, rfl, hkey, ?_⟩
  have hsettled : ¬ Unreached (complete 990 brokenEndpointConfig (fun _ => answeredString) probe {}).1 := by
    rw [hcomplete]
    exact not_unreached_badAddress _
  rw [checkConnection_eq, retry_settled 1 hsettled, hcomplete]
  rfl

end TestScaffold.Client
