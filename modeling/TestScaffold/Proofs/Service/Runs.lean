import TestScaffold.Service.Agent

namespace TestScaffold

namespace Run

variable {α β : Type} {x : Run α} {n k l : Nat} {sent sent' : List Request}

/-- Behind `n` requests, the run ends with `r`, sends the given requests and closes the client `k` times. -/
structure Ends (x : Run α) (n : Nat) (r : Except Fault α) (sent : List Request) (k : Nat) : Prop where
  result : ∀ t : Trace, t.requests.length = n → (x t).1 = r
  requests : ∀ t : Trace, t.requests.length = n → (x t).2.requests = t.requests ++ sent
  closes : ∀ t : Trace, t.requests.length = n → (x t).2.closes = t.closes + k

theorem bind_apply (x : Run α) (f : α → Run β) (t : Trace) :
    (x >>= f) t =
      match x t with
      | (.ok a, u) => f a u
      | (.error e, u) => (.error e, u) := by
  simp only [bind, ExceptT.bind, ExceptT.mk, StateT.bind, ExceptT.bindCont]
  rcases x t with ⟨_ | _, _⟩ <;> rfl

theorem ends_pure (a : α) : Ends (pure a) n (.ok a) [] 0 :=
  ⟨fun _ _ => rfl, fun _ _ => (List.append_nil _).symm, fun _ _ => rfl⟩

theorem ends_throw (e : Fault) : Ends (throw e : Run α) n (.error e) [] 0 :=
  ⟨fun _ _ => rfl, fun _ _ => (List.append_nil _).symm, fun _ _ => rfl⟩

theorem ends_fail (p : Problem) : Ends (fail p : Run α) n (.error (.known p)) [] 0 := ends_throw _

theorem ends_emit (name : String) (level : LogLevel) (fields : Entries Json) :
    Ends (emit name level fields) n (.ok ()) [] 0 :=
  ⟨fun _ _ => rfl, fun _ _ => (List.append_nil _).symm, fun _ _ => rfl⟩

theorem ends_ofExcept (y : Except Problem α) : Ends (ofExcept y) n (y.mapError .known) [] 0 := by
  cases y with
  | ok a => exact ends_pure a
  | error p => exact ends_fail p

theorem ends_send (s : Service) (q : Request) : Ends (send s q) n (.ok (s.answer n)) [q] 0 := by
  refine ⟨?_, fun _ _ => rfl, fun _ _ => rfl⟩
  rintro t rfl
  rfl

theorem Ends.bind {a : α} {f : α → Run β} {r : Except Fault β} (h : Ends x n (.ok a) sent k)
    (hf : Ends (f a) (n + sent.length) r sent' l) : Ends (x >>= f) n r (sent ++ sent') (k + l) := by
  have hb (t : Trace) (ht : t.requests.length = n) : (x >>= f) t = f a (x t).2 := by
    have hr := h.result t ht
    rw [bind_apply]
    rcases hx : x t with ⟨y, u⟩
    rw [hx] at hr
    subst hr
    rfl
  have hn (t : Trace) (ht : t.requests.length = n) :
      (x t).2.requests.length = n + sent.length := by
    rw [h.requests t ht, List.length_append, ht]
  refine ⟨fun t ht => ?_, fun t ht => ?_, fun t ht => ?_⟩
  · rw [hb t ht, hf.result _ (hn t ht)]
  · rw [hb t ht, hf.requests _ (hn t ht), h.requests t ht, List.append_assoc]
  · rw [hb t ht, hf.closes _ (hn t ht), h.closes t ht, Nat.add_assoc]

theorem Ends.quiet_bind {a : α} {f : α → Run β} {r : Except Fault β} (h : Ends x n (.ok a) [] 0)
    (hf : Ends (f a) n r sent k) : Ends (x >>= f) n r sent k := by
  simpa using h.bind (f := f) (by simpa using hf)

theorem Ends.bind_quiet {a : α} {f : α → Run β} {r : Except Fault β} (h : Ends x n (.ok a) sent k)
    (hf : Ends (f a) (n + sent.length) r [] 0) : Ends (x >>= f) n r sent k := by
  simpa using h.bind (f := f) hf

theorem Ends.bind_error {e : Fault} (h : Ends x n (.error e) sent k) (f : α → Run β) :
    Ends (x >>= f) n (.error e) sent k := by
  have hb (t : Trace) (ht : t.requests.length = n) : (x >>= f) t = (.error e, (x t).2) := by
    have hr := h.result t ht
    rw [bind_apply]
    rcases hx : x t with ⟨y, u⟩
    rw [hx] at hr
    subst hr
    rfl
  refine ⟨fun t ht => ?_, fun t ht => ?_, fun t ht => ?_⟩
  · rw [hb t ht]
  · rw [hb t ht, h.requests t ht]
  · rw [hb t ht, h.closes t ht]

theorem Ends.bind_each {r : Except Fault α} {f : α → Run β} {g : α → Except Fault β}
    (h : Ends x n r sent k) (hf : ∀ a, Ends (f a) (n + sent.length) (g a) [] 0) :
    Ends (x >>= f) n (r.bind g) sent k := by
  cases r with
  | error e => exact h.bind_error f
  | ok a => exact h.bind_quiet (hf a)

theorem Ends.map {r : Except Fault α} (f : α → β) (h : Ends x n r sent k) :
    Ends (f <$> x) n (r.map f) sent k := by
  rw [map_eq_pure_bind]
  have hb := h.bind_each fun a => ends_pure (f a)
  cases r <;> exact hb

theorem Ends.closing {r : Except Fault α} (h : Ends x n r sent k) :
    Ends (closing x) n r sent (k + 1) := by
  refine ⟨h.result, h.requests, fun t ht => ?_⟩
  exact congrArg (· + 1) (h.closes t ht)

theorem Ends.apart {r : Except Fault α} (away : Bool) (h : Ends x n r sent k) :
    Ends (apart away x) n r sent k := by
  cases away with
  | false => exact h
  | true =>
    exact ⟨fun t => h.result { t with bound := [] }, fun t => h.requests { t with bound := [] },
      fun t => h.closes { t with bound := [] }⟩

end Run

def Fault.isFailure : Fault → Bool
  | .known p => p.category? = some .externalService
  | _ => false

namespace Agent

variable {ι ο : Type} (a : Agent ι ο) {n : Nat}

open Run

theorem prompt_eq {i : ι} {vars : Entries String} (h : a.values i = .ok vars) :
    a.prompt i = a.template.render vars := by
  rw [prompt, h]
  rfl

def understood (s : Service) : Answer → Except Fault (Option ο)
  | .silent => .ok none
  | .failed .. => .ok none
  | .reply text =>
    match a.parse s.depthLimit s.provider text with
    | .ok output => .ok (some output)
    | .error e => if e.isFailure then .ok none else .error e

theorem ends_giveUp (s : Service) (failure : ServiceFailure) :
    Ends (a.giveUp s failure) n (.ok (a.response s (.error failure))) [] 0 :=
  (ends_emit ..).quiet_bind (ends_pure _)

theorem ends_conclude (s : Service) (reply : String) :
    ∃ r, Ends (a.conclude s reply) n r [] 0 ∧
      r.map (·.output.toOption) = a.understood s (.reply reply) := by
  unfold conclude
  rcases hp : a.parse s.depthLimit s.provider reply with e | output
  · simp only [understood, hp]
    rcases e with ⟨kind, _, _, _⟩ | _ | _ | _ | _
    · cases kind with
      | service failure _ _ => exact ⟨_, a.ends_giveUp s failure, rfl⟩
      | _ => exact ⟨_, ends_throw _, rfl⟩
    all_goals exact ⟨_, ends_throw _, rfl⟩
  · simp only [understood, hp]
    refine ⟨.ok (a.response s (.ok output)), ?_, rfl⟩
    have hend : Ends (do
        Run.emit "Agent invocation completed" .info [("agent", .string a.name)]
        return a.response s (.ok output)) n (.ok (a.response s (.ok output))) [] 0 :=
      (ends_emit ..).quiet_bind (ends_pure _)
    cases hw : (!(a.warnings output).isEmpty) with
    | true => exact (ends_emit ..).quiet_bind hend
    | false => exact hend

theorem ends_invoke_reply (s : Service) (operation : String) {input : ι} {prompt text : String}
    (h : a.prompt input = .ok prompt) (hs : s.answer n = .reply text) :
    ∃ r : Except Fault (Response ο),
      Ends (a.invoke s operation input) n (r.map some) [a.request prompt] 0 ∧
        r.map (·.output.toOption) = a.understood s (.reply text) := by
  unfold invoke
  rw [h]
  have hsend := ends_send (n := n) s (a.request prompt)
  rw [hs] at hsend
  obtain ⟨r, hr, ho⟩ := a.ends_conclude (n := n + 1) s text
  exact ⟨r, (ends_emit ..).quiet_bind (hsend.bind_quiet (hr.map some)), ho⟩

theorem ends_invoke_silent (s : Service) (operation : String) {input : ι} {prompt : String}
    (h : a.prompt input = .ok prompt) (hs : s.answer n = .silent) :
    Ends (a.invoke s operation input) n (.ok none) [a.request prompt] 0 := by
  unfold invoke
  rw [h]
  have hsend := ends_send (n := n) s (a.request prompt)
  rw [hs] at hsend
  exact (ends_emit ..).quiet_bind (hsend.bind_quiet (ends_pure _))

theorem ends_invoke_failed (s : Service) (operation : String) {input : ι} {prompt message : String}
    {failure : ServiceFailure} (h : a.prompt input = .ok prompt)
    (hs : s.answer n = .failed failure message) :
    Ends (a.invoke s operation input) n (.ok (some (a.response s (.error failure))))
      [a.request prompt] 0 := by
  unfold invoke
  rw [h]
  have hsend := ends_send (n := n) s (a.request prompt)
  rw [hs] at hsend
  exact (ends_emit ..).quiet_bind (hsend.bind_quiet ((a.ends_giveUp s failure).map some))

theorem ends_invoke (s : Service) (operation : String) {input : ι} {prompt : String}
    (h : a.prompt input = .ok prompt) :
    ∃ r, Ends (a.invoke s operation input) n r [a.request prompt] 0 ∧
      r.map (·.bind (·.output.toOption)) = a.understood s (s.answer n) := by
  cases ha : s.answer n with
  | reply text =>
    obtain ⟨r, hr, ho⟩ := a.ends_invoke_reply s operation h ha
    refine ⟨r.map some, hr, ?_⟩
    rw [← ho]
    cases r <;> rfl
  | silent => exact ⟨_, a.ends_invoke_silent s operation h ha, rfl⟩
  | failed failure message => exact ⟨_, a.ends_invoke_failed s operation h ha, rfl⟩

end Agent

end TestScaffold
