import TestScaffold.Pipeline
import TestScaffold.Proofs.Escalation.Bodies
import TestScaffold.Proofs.Escalation.LocalOutcome

/-!
A host gets a report, whatever the source and whatever the service does, unless the one reply that was
asked for breaks the agent that reads it, or a view is rendered elsewhere and fails there with a problem
that has no category.
-/

namespace TestScaffold.Pipeline

open Coordinator Prompt Reply Run

variable {n k : Nat} {sent : List Request} {e : Fault}

def reportOf (p : Problem) : Except Fault Report :=
  match p.category? with
  | none => .error (.uncategorized p)
  | some _ => .ok (.ofProblem p [])

def reported : Except Fault Resolution → Except Fault Report
  | .ok r => .ok (.ofResolution r)
  | .error (.known p) => reportOf p
  | .error e => .error e

theorem ends_unbinding {α : Type} {x : Run α} {r : Except Fault α} (h : Ends x n r sent k) :
    Ends (unbinding x) n r sent k :=
  ⟨h.result, h.requests, h.closes⟩

theorem ends_bindOperation (operation : String) : Ends (bindOperation operation) n (.ok ()) [] 0 :=
  ⟨fun _ _ => rfl, fun _ _ => (List.append_nil _).symm, fun _ _ => rfl⟩

theorem ends_failed (p : Problem) : Ends (failed p) n (reportOf p) [] 0 := by
  unfold failed reportOf
  cases p.category? with
  | none => exact ends_throw _
  | some category => exact (ends_emit ..).quiet_bind (ends_pure _)

theorem ends_completed (operation : String) (r : Resolution) :
    Ends (completed operation r) n (.ok (.ofResolution r)) [] 0 :=
  (ends_emit ..).quiet_bind (ends_pure _)

def settled : Except Fault Resolution → Except Fault (Except Report Resolution)
  | .ok r => .ok (.ok r)
  | .error (.known p) => (reportOf p).bind fun report => .ok (.error report)
  | .error e => .error e

theorem ends_settled (operation : String) {resolve : Run Resolution} {r : Except Fault Resolution}
    (h : Ends resolve n r sent k) :
    Ends (do
      bindOperation operation
      match ← attempt resolve with
      | .ok r => return Except.ok r
      | .error p => return Except.error (← failed p) : Run (Except Report Resolution))
      n (settled r) sent k := by
  refine (ends_bindOperation operation).quiet_bind ?_
  have hattempt := ends_attempt_of h
  rcases r with e | r
  · cases e with
    | known p => exact hattempt.bind_quiet ((ends_failed p).bind_each fun _ => ends_pure _)
    | _ => exact hattempt.bind_error _
  · exact hattempt.bind_quiet (ends_pure _)

theorem ends_report (operation : String) {resolve : Run Resolution} {r : Except Fault Resolution}
    (h : Ends resolve n r sent k) : Ends (report operation resolve) n (reported r) sent k := by
  have hended := ends_unbinding (ends_settled operation h)
  unfold report
  rcases r with e | r
  · cases e with
    | known p =>
      simp only [settled, reported] at hended ⊢
      cases hp : reportOf p with
      | ok report =>
        rw [hp] at hended
        exact hended.bind_quiet (ends_pure _)
      | error e =>
        rw [hp] at hended
        exact hended.bind_error _
    | _ => exact hended.bind_error _
  · exact hended.bind_quiet (ends_completed operation r)

/-- The faults that a call can end with: those that break it, and problems, which are `plain` if they have
no category. -/
structure FailsBy (r : Except Fault Resolution) (breaks : Fault → Prop) (plain : Problem → Prop) :
    Prop where
  breaks_iff : ∀ e, r = .error e ∧ (∀ p, e ≠ .known p) ↔ breaks e
  plain : ∀ p, r = .error (.known p) → p.category? = none → plain p

variable {ι ο : Type} {a : Agent ι ο} {broken : Nat → String → Fault → Prop}
  {plain : Problem → Prop}

theorem reportOf_error_iff (p : Problem) :
    reportOf p = .error e ↔ p.category? = none ∧ e = .uncategorized p := by
  unfold reportOf
  cases p.category? with
  | none => simp [eq_comm]
  | some c => simp

theorem FailsBy.reported_error_iff {r : Except Fault Resolution} {breaks : Fault → Prop}
    (h : FailsBy r breaks plain) :
    reported r = .error e ↔
      breaks e ∨ ∃ p, plain p ∧ p.category? = none ∧ r = .error (.known p) ∧ e = .uncategorized p := by
  rw [← h.breaks_iff]
  rcases r with e' | r
  · cases e' with
    | known p =>
      simp only [reported, reportOf_error_iff]
      constructor
      · rintro ⟨hp, he⟩
        exact .inr ⟨p, h.plain p rfl hp, hp, rfl, he⟩
      · rintro (⟨he, hnot⟩ | ⟨q, -, hq, hpq, he⟩)
        · cases he
          exact (hnot p rfl).elim
        · cases hpq
          exact ⟨hq, he⟩
    | _ =>
      constructor
      · intro he
        cases he
        exact .inl ⟨rfl, fun _ hp => by cases hp⟩
      · rintro (⟨he, -⟩ | ⟨q, -, -, hq, -⟩)
        · cases he
          rfl
        · cases hq
  · simp [reported]

theorem failsBy_problem {x : Except Problem Resolution}
    (h : ∀ p, x = .error p → p.category? = none → plain p) :
    FailsBy (x.mapError .known) (fun _ => False) plain := by
  refine ⟨fun e => ?_, fun p hp => h p (error_of_mapError hp)⟩
  refine iff_of_false ?_ id
  rintro ⟨he, hnot⟩
  cases x with
  | ok r => cases he
  | error p =>
    cases he
    exact hnot p rfl

theorem failsBy_helped {s : Service} {answer : Answer}
    {helped : Option ο → Except Problem Resolution} (hbreaks : a.BreaksOn broken)
    (hknown : ∀ limit text p, ¬broken limit text (.known p))
    (h : ∀ o p, helped o = .error p → p.category? = none → plain p) :
    FailsBy ((a.understood s answer).bind fun o => (helped o).mapError .known)
      (fun e => ∃ text, answer = .reply text ∧ broken s.depthLimit text e) plain := by
  cases hu : a.understood s answer with
  | ok o =>
    have hnone (e : Fault) : ¬∃ text, answer = .reply text ∧ broken s.depthLimit text e := by
      rw [← hbreaks s, hu]
      rintro ⟨⟩
    obtain ⟨hbreak, hplain⟩ := failsBy_problem (h o)
    exact ⟨fun e => (hbreak e).trans (iff_of_false id (hnone e)), hplain⟩
  | error e' =>
    have hnot (p : Problem) : e' ≠ .known p := by
      rintro rfl
      obtain ⟨text, -, hbroken⟩ := (hbreaks _ _ _).1 hu
      exact hknown _ text p hbroken
    refine ⟨fun e => ?_, fun p hp => ?_⟩
    · rw [← hbreaks s, hu]
      constructor
      · rintro ⟨he, -⟩
        cases he
        rfl
      · intro he
        cases he
        exact ⟨rfl, hnot⟩
    · cases hp
      exact (hnot p rfl).elim

theorem Broken.not_known {unusable : Json → Bool} {limit : Nat} {text : String} {p : Problem} :
    ¬Broken unusable limit text (.known p) := by
  rintro ⟨⟩

/-- A reply makes the agent respond, with an output or with the kind of the failure, or breaks it. -/
def RespondsUnless (a : Agent ι ο) (broken : Nat → String → Fault → Prop) : Prop :=
  ∀ (s : Service) (operation : String) (input : ι) (t : Trace) (text : String),
    s.answer t.requests.length = .reply text →
      ∃ r : Except Fault (Response ο), (a.invoke s operation input t).1 = r.map some ∧
        ∀ e, r = .error e ↔ broken s.depthLimit text e

theorem respondsUnless (hprompt : ∀ input, ∃ prompt, a.prompt input = .ok prompt)
    (hbreaks : a.BreaksOn broken) : RespondsUnless a broken := by
  intro s operation input t text hreply
  obtain ⟨prompt, hprompt⟩ := hprompt input
  obtain ⟨r, hends, hr⟩ := a.ends_invoke_reply s operation hprompt hreply
  refine ⟨r, hends.result t rfl, fun e => ?_⟩
  have hunderstood : r = .error e ↔ a.understood s (.reply text) = .error e := by
    rw [← hr]
    cases r <;> simp [Except.map]
  rw [hunderstood, hbreaks]
  simp

variable {c : Coordinator} {source : String} {o : Render.Options} {p : Problem}

theorem foundUnits_category (h : c.foundUnits source = .error p) : p.category? ≠ none := by
  rw [foundUnits_error h]
  decide

theorem foundView_category (h : c.foundView source = .error p) : p.category? ≠ none := by
  rcases foundView_error h with rfl | rfl | rfl | ⟨name, rfl⟩ <;>
    simp [Problem.category?, ProblemKind.category?, emptySource, notAView, nameNotFound, missingBody]

theorem keptUnits_category {state : EscalationState}
    (h : keptUnits (c.foundUnits source) state = .error p) : p.category? ≠ none :=
  foundUnits_category (error_of_keptUnits h)

theorem helpedUnits_category {reply : Option DeclarationsReply}
    (h : helpedUnits (c.foundUnits source) reply = .error p) : p.category? ≠ none := by
  cases reply with
  | none => exact keptUnits_category h
  | some r =>
    simp only [helpedUnits] at h
    split at h
    · exact keptUnits_category h
    · cases h

theorem keptView_plain {state : EscalationState}
    (h : c.keptView (c.foundView source) o state = .error p) (hp : p.category? = none) :
    ∃ m, c.renderView m o = .error p := by
  rcases error_of_keptView h with hf | ⟨m, -, hr⟩
  · exact (foundView_category hf hp).elim
  · exact ⟨m, hr⟩

theorem helpedView_plain {reply : Option ViewAnswer}
    (h : c.helpedView source (c.foundView source) o reply = .error p) (hp : p.category? = none) :
    ∃ m, c.renderView m o = .error p := by
  rcases reply with _ | v | code
  · exact keptView_plain h hp
  · simp only [helpedView] at h
    split at h
    · exact keptView_plain h hp
    · cases hr : c.renderView (v.toModel source) o with
      | ok output =>
        rw [hr] at h
        cases h
      | error q =>
        rw [hr] at h
        dsimp only at h
        split at h
        · exact keptView_plain h hp
        · cases h
          exact ⟨_, hr⟩
  · cases h

theorem unitTests_error_iff (c : Coordinator) (source : String) (assist : Bool) (t : Trace) :
    (unitTests c source assist t).1 = .error e ↔
      c.available = true ∧ c.UnitsFail source ∧
        ∃ text, c.service.answer t.requests.length = .reply text ∧
          Broken (fun _ => false) c.service.depthLimit text e := by
  have hresult {r : Except Fault Resolution} {sent : List Request} {k : Nat} {breaks : Fault → Prop}
      (h : Ends (c.resolveUnits source assist) t.requests.length r sent k)
      (hf : FailsBy r breaks fun _ => False) :
      (unitTests c source assist t).1 = .error e ↔ breaks e := by
    rw [show (unitTests c source assist t).1 = reported r from
      (ends_report "unit_tests" h).result t rfl, hf.reported_error_iff]
    simp
  obtain hfail | ⟨m, hfound, hm⟩ := fails_or (c.foundUnits source) DeclarationModel.isEmpty
  · cases ha : c.available with
    | true =>
      obtain ⟨q, hends⟩ := ends_resolveUnits_available hfail ha assist
      rw [hresult hends (failsBy_helped declarationsAgent_breaksOn (fun _ _ _ => Broken.not_known)
        fun _ _ => helpedUnits_category)]
      simp [hfail]
    | false =>
      rw [hresult (ends_resolveUnits_unavailable hfail ha assist)
        (failsBy_problem fun _ => keptUnits_category)]
      simp
  · obtain ⟨bodies, sent, k, hends⟩ :=
      ends_resolveUnits_local (n := t.requests.length) hfound hm assist
    simp [(ends_report "unit_tests" hends).result t rfl, unitTests, reported, not_fails hfound hm]

def RendererFails (c : Coordinator) (source : String) (options : Option Render.Options) (t : Trace)
    (e : Fault) : Prop :=
  ∃ p, (∃ m, c.renderView m (options.getD c.config.generation) = .error p) ∧ p.category? = none ∧
    (c.resolveView source options t).1 = .error (.known p) ∧ e = .uncategorized p

theorem interfaceTests_error_iff (c : Coordinator) (source : String)
    (options : Option Render.Options) (t : Trace) :
    (interfaceTests c source options t).1 = .error e ↔
      (c.available = true ∧ c.ViewFails source ∧
        ∃ text, c.service.answer t.requests.length = .reply text ∧
          BrokenView c.service.depthLimit text e) ∨
      RendererFails c source options t e := by
  have hresult {r : Except Fault Resolution} {sent : List Request} {k : Nat} {breaks : Fault → Prop}
      (h : Ends (c.resolveView source options) t.requests.length r sent k)
      (hf : FailsBy r breaks fun p =>
        ∃ m, c.renderView m (options.getD c.config.generation) = .error p) :
      (interfaceTests c source options t).1 = .error e ↔
        breaks e ∨ RendererFails c source options t e := by
    rw [show (interfaceTests c source options t).1 = reported r from
      (ends_report "ui_tests" h).result t rfl, hf.reported_error_iff, RendererFails, h.result t rfl]
  obtain hfail | ⟨m, hfound, hm⟩ := fails_or (c.foundView source) ViewModel.isEmpty
  · cases ha : c.available with
    | true =>
      obtain ⟨q, hends⟩ := ends_resolveView_available options hfail ha
      rw [hresult hends (failsBy_helped viewAgent_breaksOn (fun _ _ _ h => Broken.not_known h.2)
        fun _ _ => helpedView_plain)]
      simp [hfail]
    | false =>
      rw [hresult (ends_resolveView_unavailable options hfail ha)
        (failsBy_problem fun _ => keptView_plain)]
      simp
  · have hnot := not_fails hfound hm
    cases hr : c.renderView m (options.getD c.config.generation) with
    | ok output =>
      rw [hresult (ends_resolveView_rendered options hfound hm hr)
        (failsBy_problem (x := .ok _) fun _ h => by cases h)]
      simp [hnot]
    | error p =>
      have hplain (q : Problem) (hq : .error p = (.error q : Except Problem Resolution))
          (_ : q.category? = none) :
          ∃ m, c.renderView m (options.getD c.config.generation) = .error q := by
        cases hq
        exact ⟨m, hr⟩
      by_cases hp : p.kind.isGeneration = false ∨ c.available = false
      · rw [hresult (ends_resolveView_problem options hfound hm hr hp)
          (failsBy_problem (x := .error p) hplain)]
        simp [hnot]
      · have hgeneration : p.kind.isGeneration = true ∧ c.available = true := by simpa using hp
        obtain ⟨q, hends⟩ :=
          ends_resolveView_rendering options ⟨hfound, hm, hr, hgeneration.1⟩ hgeneration.2
        have hhelped (code : Option Code) (q : Problem)
            (h : helpedRendering m p code = .error q) : q.category? = none →
              ∃ m, c.renderView m (options.getD c.config.generation) = .error q := by
          cases code with
          | none => exact hplain q h
          | some code => cases h
        rw [hresult hends (failsBy_helped codeAgent_breaksOn (fun _ _ _ h => h) hhelped)]
        simp [hnot]

theorem interfaceTests_category {m : ViewModel} (h : Render.interfaceTests m o = .error p) :
    p.category? = some .invalidModel := by
  unfold Render.interfaceTests at h
  split at h
  · cases h
    rfl
  · cases h

/-- A host gets a report, unless the service was asked because nothing usable was found in the source and
the reply breaks the agent that reads it, or a renderer other than the one at hand fails with a problem
that has no category. A reply to an agent is responded to, unless it breaks the agent. -/
theorem report_unless_broken (c : Coordinator) (source : String) (assist : Bool)
    (options : Option Render.Options) (t : Trace) :
    (∀ e, (unitTests c source assist t).1 = .error e ↔
      c.available = true ∧ c.UnitsFail source ∧
        ∃ text, c.service.answer t.requests.length = .reply text ∧
          Broken (fun _ => false) c.service.depthLimit text e) ∧
    (∀ e, (interfaceTests c source options t).1 = .error e ↔
      (c.available = true ∧ c.ViewFails source ∧
        ∃ text, c.service.answer t.requests.length = .reply text ∧
          BrokenView c.service.depthLimit text e) ∨
      RendererFails c source options t e) ∧
    (c.renderView = Render.interfaceTests → ∀ e, ¬RendererFails c source options t e) ∧
    RespondsUnless declarationsAgent (Broken fun _ => false) ∧
    RespondsUnless viewAgent BrokenView ∧
    RespondsUnless codeAgent fun _ _ _ => False := by
  refine ⟨fun _ => unitTests_error_iff c source assist t,
    fun _ => interfaceTests_error_iff c source options t, ?_,
    respondsUnless declarationsAgent_prompt declarationsAgent_breaksOn,
    respondsUnless viewAgent_prompt viewAgent_breaksOn,
    respondsUnless codeAgent_prompt codeAgent_breaksOn⟩
  rintro hrender e ⟨p, ⟨m, hm⟩, hp, -, -⟩
  rw [hrender] at hm
  rw [interfaceTests_category hm] at hp
  cases hp

def listNameReply : String :=
  "\x7b\"name\": \"V\", \"stateVariables\": [\x7b\"name\": [\"x\"]\x7d]\x7d"

def listNameCoordinator : Coordinator :=
  .ofConfig { keys := { openai := some "sk-test" } } {
    provider := "openai"
    model := "gpt-4o"
    answer := fun _ => .reply listNameReply
    depthLimit := 990 }

theorem listName_no_report :
    (interfaceTests listNameCoordinator "struct NotAView \x7b\x7d" none {}).1 =
      .error .compoundName := by
  rw [interfaceTests_error_iff]
  refine .inl ⟨by decide +kernel, ?_, listNameReply, rfl, by decide +kernel, ?_⟩
  · have hnone :
        (listNameCoordinator.foundView "struct NotAView \x7b\x7d").toOption.isSome = false := by
      decide +kernel
    obtain hfail | ⟨m, hfound, -⟩ :=
      fails_or (listNameCoordinator.foundView "struct NotAView \x7b\x7d") ViewModel.isEmpty
    · exact hfail
    · rw [hfound] at hnone
      cases hnone
  · have hcompound : (Json.ofText 990 (jsonText listNameReply)).toOption.any hasCompoundName = true := by
      decide +kernel
    cases hread : Json.ofText 990 (jsonText listNameReply) with
    | error r =>
      rw [hread] at hcompound
      cases hcompound
    | ok j =>
      rw [hread] at hcompound
      exact .compound hread hcompound

end TestScaffold.Pipeline
