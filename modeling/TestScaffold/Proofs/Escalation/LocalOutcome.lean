import TestScaffold.Proofs.Escalation.Calls

/-!
When the service is asked and does not help, a call ends as it does without a service: with the same
problem, or with the same resolution up to its state.
-/

namespace TestScaffold.Coordinator

open Render Prompt Reply Run

variable {c d : Coordinator} {source : String} {o : Options} {n : Nat}

inductive Call where
  | units (source : String) (assist : Bool)
  | view (source : String) (options : Option Options)

def resolve (c : Coordinator) : Call → Run Resolution
  | .units source assist => c.resolveUnits source assist
  | .view source options => c.resolveView source options

structure SameLocally (c d : Coordinator) : Prop where
  window : d.window = c.window
  renderView : d.renderView = c.renderView
  generation : d.config.generation = c.config.generation

/-- The call fails, is not answered in time, is answered by something that is not understood, or by
something that is of no use. -/
inductive Unhelpful {ι ο : Type} (a : Agent ι ο) (s : Service) (useless : ο → Prop) : Answer → Prop where
  | failed (failure : ServiceFailure) (message : String) : Unhelpful a s useless (.failed failure message)
  | silent : Unhelpful a s useless .silent
  | unusable {text : String} {e : Fault} (h : a.parse s.depthLimit s.provider text = .error e)
    (he : e.isFailure = true) : Unhelpful a s useless (.reply text)
  | useless {text : String} {output : ο} (h : a.parse s.depthLimit s.provider text = .ok output)
    (hu : useless output) : Unhelpful a s useless (.reply text)

def NoView (c : Coordinator) (source : String) (o : Options) : ViewAnswer → Prop
  | .code _ => False
  | .view v =>
    (v.toModel source).isEmpty = true ∨
      ∃ p, c.renderView (v.toModel source) o = .error p ∧ p.kind.isGeneration = true

/-- The local path of the call has failed, and the answer to what is then asked does not help. -/
inductive Unhelped (c : Coordinator) (answer : Answer) : Call → Prop where
  | units {source : String} {assist : Bool} (h : c.UnitsFail source)
    (hu : Unhelpful declarationsAgent c.service (·.toModel.isEmpty = true) answer) :
    Unhelped c answer (.units source assist)
  | view {source : String} {options : Option Options} (h : c.ViewFails source)
    (hu : Unhelpful viewAgent c.service
      (c.NoView source (options.getD c.config.generation)) answer) :
    Unhelped c answer (.view source options)
  | rendering {source : String} {options : Option Options} {m : ViewModel} {p : Problem}
    (h : c.RenderingFails source (options.getD c.config.generation) m p)
    (hu : Unhelpful codeAgent c.service (fun _ => False) answer) :
    Unhelped c answer (.view source options)

inductive SameButState : Except Fault Resolution → Except Fault Resolution → Prop where
  | problem (p : Problem) : SameButState (.error (.known p)) (.error (.known p))
  | resolution (r : Resolution) (h : r.external = false) :
    SameButState (.ok { r with state := .escalated }) (.ok { r with state := .local })

inductive LocalProblem (c : Coordinator) : Call → Problem → Prop where
  | units {source : String} {assist : Bool} {p : Problem} (h : c.foundUnits source = .error p) :
    LocalProblem c (.units source assist) p
  | view {source : String} {options : Option Options} {p : Problem}
    (h : c.foundView source = .error p) : LocalProblem c (.view source options) p
  | rendering {source : String} {options : Option Options} {m : ViewModel} {p : Problem}
    (h : c.foundView source = .ok m)
    (hr : c.renderView m (options.getD c.config.generation) = .error p) :
    LocalProblem c (.view source options) p

theorem Unhelpful.understood {ι ο : Type} {a : Agent ι ο} {s : Service} {useless : ο → Prop}
    {answer : Answer} (h : Unhelpful a s useless answer) :
    ∃ reply, a.understood s answer = .ok reply ∧ ∀ output ∈ reply, useless output := by
  cases h with
  | failed failure message => exact ⟨none, rfl, by simp⟩
  | silent => exact ⟨none, rfl, by simp⟩
  | unusable h he => exact ⟨none, by simp [Agent.understood, h, he], by simp⟩
  | @useless _ output h hu => exact ⟨some output, by simp [Agent.understood, h], by simpa using hu⟩

theorem isEmpty_externalUnits (found : Except Problem DeclarationModel) (r : DeclarationsReply) :
    (externalUnits found r).isEmpty = r.toModel.isEmpty := by
  unfold externalUnits
  dsimp only
  split <;> rfl

theorem helpedUnits_useless {found : Except Problem DeclarationModel}
    {reply : Option DeclarationsReply} (h : ∀ r ∈ reply, r.toModel.isEmpty = true) :
    helpedUnits found reply = keptUnits found .escalated := by
  cases reply with
  | none => rfl
  | some r =>
    simp only [helpedUnits, isEmpty_externalUnits]
    rw [if_pos (h r rfl)]

theorem helpedView_useless {found : Except Problem ViewModel} {reply : Option ViewAnswer}
    (h : ∀ r ∈ reply, c.NoView source o r) :
    c.helpedView source found o reply = c.keptView found o .escalated := by
  rcases reply with _ | v | code
  · rfl
  · simp only [helpedView]
    rcases h (.view v) rfl with he | ⟨p, hp, hg⟩
    · rw [if_pos he]
    · split
      · rfl
      · rw [hp]
        simp only [hg, if_true]
  · exact (h (.code code) rfl).elim

theorem SameLocally.foundUnits (h : SameLocally c d) (source : String) :
    d.foundUnits source = c.foundUnits source := by
  rw [Coordinator.foundUnits, h.window, Coordinator.foundUnits]

theorem SameLocally.foundView (h : SameLocally c d) (source : String) :
    d.foundView source = c.foundView source := by
  rw [Coordinator.foundView, h.window, Coordinator.foundView]

theorem SameLocally.unitsFail (h : SameLocally c d) (hf : c.UnitsFail source) :
    d.UnitsFail source := by
  rwa [Coordinator.UnitsFail, h.foundUnits]

theorem SameLocally.viewFails (h : SameLocally c d) (hf : c.ViewFails source) :
    d.ViewFails source := by
  rwa [Coordinator.ViewFails, h.foundView]

theorem SameLocally.keptView (h : SameLocally c d) (found : Except Problem ViewModel) (o : Options)
    (state : EscalationState) : d.keptView found o state = c.keptView found o state := by
  rw [Coordinator.keptView, h.renderView, Coordinator.keptView]

theorem sameButState_keptUnits (found : Except Problem DeclarationModel) :
    SameButState ((keptUnits found .escalated).mapError .known)
      ((keptUnits found .local).mapError .known) := by
  cases found with
  | error p => exact .problem p
  | ok m =>
    exact .resolution
      { output := unitTests m [], state := .local, model := some (.declarations m) } rfl

theorem sameButState_keptView (found : Except Problem ViewModel) (o : Options) :
    SameButState ((c.keptView found o .escalated).mapError .known)
      ((c.keptView found o .local).mapError .known) := by
  cases found with
  | error p => exact .problem p
  | ok m =>
    simp only [Coordinator.keptView, Except.bind]
    cases c.renderView m o with
    | error p => exact .problem p
    | ok output => exact .resolution { output, state := .local, model := some (.view m) } rfl

theorem error_of_mapError {α : Type} {x : Except Problem α} {p : Problem}
    (h : x.mapError Fault.known = .error (.known p)) : x = .error p := by
  cases x with
  | error q => cases h; rfl
  | ok a => cases h

theorem error_of_keptUnits {found : Except Problem DeclarationModel} {p : Problem}
    {state : EscalationState} (h : keptUnits found state = .error p) : found = .error p := by
  cases found with
  | error q => cases h; rfl
  | ok m => cases h

theorem error_of_keptView {found : Except Problem ViewModel} {p : Problem} {state : EscalationState}
    (h : c.keptView found o state = .error p) :
    found = .error p ∨ ∃ m, found = .ok m ∧ c.renderView m o = .error p := by
  cases found with
  | error q => cases h; exact .inl rfl
  | ok m =>
    simp only [Coordinator.keptView, Except.bind] at h
    cases hr : c.renderView m o with
    | error q => rw [hr] at h; cases h; exact .inr ⟨m, rfl, hr⟩
    | ok output => rw [hr] at h; cases h

theorem localProblem_of_keptUnits {p : Problem} {assist : Bool} {state : EscalationState}
    (h : keptUnits (c.foundUnits source) state = .error p) :
    c.LocalProblem (.units source assist) p :=
  .units (error_of_keptUnits h)

theorem localProblem_of_keptView {p : Problem} {options : Option Options} {state : EscalationState}
    (h : c.keptView (c.foundView source) (options.getD c.config.generation) state = .error p) :
    c.LocalProblem (.view source options) p := by
  rcases error_of_keptView h with hf | ⟨m, hf, hr⟩
  · exact .view hf
  · exact .rendering hf hr

theorem foundUnits_error {p : Problem} (h : c.foundUnits source = .error p) : p = emptySource := by
  unfold foundUnits extract requireText at h
  split at h <;> cases h
  rfl

theorem foundView_error {p : Problem} (h : c.foundView source = .error p) :
    p = emptySource ∨ p = notAView source ∨ p = nameNotFound ∨ ∃ name, p = missingBody name := by
  unfold foundView buildView inspectView requireView requireText at h
  cases hb : Text.blankText source with
  | true =>
    simp only [hb, if_true] at h
    cases h
    exact .inl rfl
  | false =>
    cases hi : Swift.importsFramework source.toList with
    | false =>
      simp only [hb, hi, Bool.false_eq_true, if_false, Bool.not_false, if_true] at h
      cases h
      exact .inr (.inl rfl)
    | true =>
      cases hn : Swift.viewName? source.toList with
      | none =>
        simp only [hb, hi, hn, Bool.false_eq_true, if_false, Bool.not_true] at h
        cases h
        exact .inr (.inr (.inl rfl))
      | some name =>
        cases hd : Swift.declaresBody source.toList with
        | false =>
          simp only [hb, hi, hn, hd, Bool.false_eq_true, if_false, Bool.not_true, Bool.not_false,
            if_true] at h
          cases h
          exact .inr (.inr (.inr ⟨name, rfl⟩))
        | true =>
          simp only [hb, hi, hn, hd, Bool.false_eq_true, if_false, Bool.not_true] at h
          cases h

theorem not_service_of_generation {p : Problem} (h : p.kind.isGeneration = true) :
    p.category? ≠ some .externalService := by
  rcases p with ⟨kind, _, _, _⟩
  cases kind <;> first | (cases h; done) | simp [Problem.category?, ProblemKind.category?]

theorem LocalProblem.not_service {call : Call} {p : Problem} (h : c.LocalProblem call p)
    (hr : ∀ m o q, c.renderView m o = .error q → q.kind.isGeneration = true) :
    p.category? ≠ some .externalService := by
  cases h with
  | units h => rw [foundUnits_error h]; decide
  | view h =>
    rcases foundView_error h with rfl | rfl | rfl | ⟨name, rfl⟩ <;>
      simp [Problem.category?, ProblemKind.category?, emptySource, notAView, nameNotFound, missingBody]
  | rendering _ hv => exact not_service_of_generation (hr _ _ _ hv)

/-- With a service that does not help and without any, a call ends the same way, up to the state of its
resolution. What comes out as a problem is the local one. -/
theorem unhelped_same_but_state {call : Call} {t u : Trace} (hc : c.available = true)
    (hd : d.available = false) (hs : SameLocally c d)
    (h : c.Unhelped (c.service.answer t.requests.length) call) :
    SameButState (c.resolve call t).1 (d.resolve call u).1 ∧
      ∀ p, (c.resolve call t).1 = .error (.known p) →
        c.LocalProblem call p ∧
          ((∀ m o q, c.renderView m o = .error q → q.kind.isGeneration = true) →
            p.category? ≠ some .externalService) := by
  suffices key : SameButState (c.resolve call t).1 (d.resolve call u).1 ∧
      ∀ p, (c.resolve call t).1 = .error (.known p) → c.LocalProblem call p from
    ⟨key.1, fun p hp => ⟨key.2 p hp, (key.2 p hp).not_service⟩⟩
  cases h with
  | @units source assist hf hu =>
    obtain ⟨reply, hreply, huseless⟩ := hu.understood
    obtain ⟨q, hq⟩ := ends_resolveUnits_available (n := t.requests.length) hf hc assist
    rw [hreply] at hq
    have hl := ends_resolveUnits_unavailable (n := u.requests.length) (hs.unitsFail hf) hd assist
    rw [hs.foundUnits] at hl
    simp only [resolve, hq.result t rfl, hl.result u rfl, Except.bind, helpedUnits_useless huseless]
    exact ⟨sameButState_keptUnits _, fun p hp => localProblem_of_keptUnits (error_of_mapError hp)⟩
  | @view source options hf hu =>
    obtain ⟨reply, hreply, huseless⟩ := hu.understood
    obtain ⟨q, hq⟩ := ends_resolveView_available (n := t.requests.length) options hf hc
    rw [hreply] at hq
    have hl := ends_resolveView_unavailable (n := u.requests.length) options (hs.viewFails hf) hd
    rw [hs.foundView, hs.generation, hs.keptView] at hl
    simp only [resolve, hq.result t rfl, hl.result u rfl, Except.bind, helpedView_useless huseless]
    exact ⟨sameButState_keptView _ _, fun p hp => localProblem_of_keptView (error_of_mapError hp)⟩
  | @rendering source options m p hf hu =>
    obtain ⟨reply, hreply, huseless⟩ := hu.understood
    have hnone : reply = none := by
      cases reply with
      | none => rfl
      | some code => exact (huseless code rfl).elim
    obtain ⟨q, hq⟩ := ends_resolveView_rendering (n := t.requests.length) options hf hc
    rw [hreply, hnone] at hq
    have hm : d.foundView source = .ok m := (hs.foundView source).trans hf.found
    have hr : d.renderView m (options.getD d.config.generation) = .error p := by
      rw [hs.renderView, hs.generation]
      exact hf.rendered
    have hl := ends_resolveView_problem (n := u.requests.length) options hm hf.nonempty hr (.inr hd)
    simp only [resolve, hq.result t rfl, hl.result u rfl]
    refine ⟨.problem p, ?_⟩
    rintro q ⟨⟩
    exact .rendering hf.found hf.rendered

def idle (keys : Keys) : Coordinator where
  config := { keys }
  service := { provider := "openai", model := "gpt-4o", answer := fun _ => .reply "[]", depthLimit := 990 }
  window := 100

theorem unhelped_same_but_state_idle :
    SameButState ((idle { openai := some "key" }).resolve (.units "// none" false) {}).1
        ((idle {}).resolve (.units "// none" false) {}).1 := by
  have hm := (idle { openai := some "key" }).foundUnits_of_text
    (show Text.blankText "// none" = false by decide +kernel)
  have hr : declarationsAgent.parse 990 "openai" "[]" = .ok {} := by rfl
  have h : (idle { openai := some "key" }).Unhelped (.reply "[]") (.units "// none" false) :=
    .units (.empty hm (by decide +kernel)) (.useless hr rfl)
  have ha : (idle { openai := some "key" }).available = true := by decide +kernel
  have hb : (idle {}).available = false := by decide +kernel
  exact (unhelped_same_but_state (t := {}) (u := {}) ha hb ⟨rfl, rfl, rfl⟩ h).1

end TestScaffold.Coordinator
