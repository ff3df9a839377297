import TestScaffold.Escalation
import TestScaffold.Proofs.Prompt.Rendering
import TestScaffold.Proofs.Service.Runs

namespace TestScaffold

open Render Prompt Reply Run

theorem declarationsAgent_prompt (q : SourceRequest) :
    ∃ prompt, declarationsAgent.prompt q = .ok prompt := by
  rw [declarationsAgent.prompt_eq (i := q) rfl]
  exact render_sourceRequest (t := declarationsTemplate) "no declarations found" q
    declarationsTemplate_user

theorem viewAgent_prompt (q : SourceRequest) : ∃ prompt, viewAgent.prompt q = .ok prompt := by
  rw [viewAgent.prompt_eq (i := q) rfl]
  exact render_sourceRequest (t := viewTemplate) "no UI elements found" q viewTemplate_user

theorem codeAgent_prompt (q : CodeRequest) : ∃ prompt, codeAgent.prompt q = .ok prompt :=
  render_codeRequest q

namespace Coordinator

variable (c : Coordinator) {n : Nat}

def foundUnits (source : String) : Except Problem DeclarationModel :=
  (extract c.window .declarations source).map fun facts => buildDeclarations facts (some source)

def foundView (source : String) : Except Problem ViewModel := buildView c.window source

theorem foundUnits_of_text {source : String} (h : Text.blankText source = false) :
    c.foundUnits source =
      .ok (buildDeclarations (declarationFacts source.toList) (some source)) := by
  simp only [foundUnits, extract, requireText, h, Bool.false_eq_true, if_false]
  rfl

def attempted {α : Type} : Except Fault α → Except Fault (Except Problem α)
  | .ok a => .ok (.ok a)
  | .error (.known p) => .ok (.error p)
  | .error e => .error e

theorem ends_attempt_of {α : Type} {x : Run α} {r : Except Fault α} {sent : List Request} {k : Nat}
    (h : Ends x n r sent k) : Ends (attempt x) n (attempted r) sent k := by
  have hm := h.map (Except.ok (ε := Problem))
  have hx (t : Trace) (ht : t.requests.length = n) : attempt x t =
      (attempted r, ((Except.ok (ε := Problem) <$> x : Run (Except Problem α)) t).2) := by
    have hr := hm.result t ht
    unfold attempt
    simp only [tryCatch, tryCatchThe, MonadExceptOf.tryCatch, ExceptT.tryCatch, ExceptT.mk, bind,
      StateT.bind]
    rcases he : (Except.ok (ε := Problem) <$> x : Run (Except Problem α)) t with ⟨z, u⟩
    rw [he] at hr
    subst hr
    rcases r with e | a
    · cases e <;> rfl
    · rfl
  refine ⟨fun t ht => ?_, fun t ht => ?_, fun t ht => ?_⟩
  · rw [hx t ht]
  · rw [hx t ht, hm.requests t ht]
  · rw [hx t ht, hm.closes t ht]

theorem ends_attempt {α : Type} {x : Run α} {y : Except Problem α}
    (h : Ends x n (y.mapError .known) [] 0) : Ends (attempt x) n (.ok y) [] 0 := by
  have hy : attempted (y.mapError .known) = .ok y := by cases y <;> rfl
  exact hy ▸ ends_attempt_of h

theorem ends_ofExcept_bind {α β : Type} {x : Except Problem α} {f : α → β} {g : α → Run β}
    (h : ∀ a, Ends (g a) n (.ok (f a)) [] 0) :
    Ends (Run.ofExcept x >>= g) n ((x.map f).mapError .known) [] 0 := by
  have hx := ends_ofExcept (n := n) x
  cases x with
  | error p => exact hx.bind_error _
  | ok a => exact hx.quiet_bind (h a)

theorem ends_declarations (source : String) :
    Ends (c.declarations source) n ((c.foundUnits source).mapError .known) [] 0 :=
  ends_ofExcept_bind fun _ => (ends_emit ..).quiet_bind (ends_pure _)

theorem ends_view (source : String) :
    Ends (c.view source) n ((c.foundView source).mapError .known) [] 0 :=
  ends_ofExcept_bind fun _ =>
    (ends_emit ..).quiet_bind ((ends_emit ..).quiet_bind (ends_pure _))

theorem ends_render (m : ViewModel) (o : Options) :
    Ends (c.render m o) n ((c.renderView m o).mapError .known) [] 0 := by
  have h : Ends (c.render m o) n (((c.renderView m o).map id).mapError .known) [] 0 :=
    ends_ofExcept_bind fun _ => (ends_emit ..).quiet_bind (ends_pure _)
  rwa [Except.map_id] at h

theorem ends_renderUnits (m : DeclarationModel) (bodies : Entries String) :
    Ends (renderUnits m bodies) n (.ok (unitTests m bodies)) [] 0 :=
  (ends_emit ..).quiet_bind (ends_pure _)

theorem ends_ask {ι ο : Type} (a : Agent ι ο) (operation : String) {input : ι} {prompt : String}
    (h : a.prompt input = .ok prompt) :
    Ends (c.ask a operation input) n (a.understood c.service (c.service.answer n))
      [a.request prompt] 1 := by
  obtain ⟨r, hr, ho⟩ := a.ends_invoke (n := n) c.service operation h
  have he := hr.closing.apart c.away
  rw [← ho]
  unfold ask
  rcases r with e | _ | ⟨output, model, digest⟩
  · exact he.bind_error _
  · exact he.bind_quiet ((ends_emit ..).quiet_bind (ends_pure _))
  · cases output with
    | ok o => exact he.bind_quiet (ends_pure _)
    | error failure => exact he.bind_quiet (ends_pure _)

def keptUnits (found : Except Problem DeclarationModel) (state : EscalationState) :
    Except Problem Resolution :=
  found.map fun m => { output := unitTests m [], state, model := some (.declarations m) }

def keptView (found : Except Problem ViewModel) (o : Options) (state : EscalationState) :
    Except Problem Resolution :=
  found.bind fun m =>
    (c.renderView m o).map fun output => { output, state, model := some (.view m) }

def helpedUnits (found : Except Problem DeclarationModel) :
    Option DeclarationsReply → Except Problem Resolution
  | none => keptUnits found .escalated
  | some r =>
    let m := externalUnits found r
    if m.isEmpty then keptUnits found .escalated
    else .ok {
      output := unitTests m []
      state := .escalated
      model := some (.declarations m)
      localError := problem? found
      external := true }

def helpedView (source : String) (found : Except Problem ViewModel) (o : Options) :
    Option ViewAnswer → Except Problem Resolution
  | none => c.keptView found o .escalated
  | some (.code code) => .ok {
      output := code.code, state := .escalated, localError := problem? found, external := true }
  | some (.view v) =>
    let m := v.toModel source
    if m.isEmpty then c.keptView found o .escalated
    else
      match c.renderView m o with
      | .ok output => .ok {
          output
          state := .escalated
          model := some (.view m)
          localError := problem? found
          external := true }
      | .error p => if p.kind.isGeneration then c.keptView found o .escalated else .error p

def helpedRendering (m : ViewModel) (p : Problem) : Option Code → Except Problem Resolution
  | none => .error p
  | some code => .ok {
      output := code.code
      state := .escalated
      model := some (.view m)
      localError := some p
      external := true }

theorem ends_localUnits (found : Except Problem DeclarationModel) (state : EscalationState) :
    Ends (localUnits found state) n ((keptUnits found state).mapError .known) [] 0 := by
  cases found with
  | error p => exact ends_fail p
  | ok m => exact (ends_renderUnits m []).quiet_bind (ends_pure _)

theorem ends_localView (found : Except Problem ViewModel) (o : Options) (state : EscalationState) :
    Ends (c.localView found o state) n ((c.keptView found o state).mapError .known) [] 0 := by
  cases found with
  | error p => exact ends_fail p
  | ok m =>
    have hr := c.ends_render (n := n) m o
    unfold localView keptView
    simp only [Except.bind]
    cases hx : c.renderView m o with
    | error p => rw [hx] at hr; exact hr.bind_error _
    | ok output => rw [hx] at hr; exact hr.quiet_bind (ends_pure _)

theorem ends_escalateUnits (source : String) (found : Except Problem DeclarationModel) :
    ∃ q, Ends (c.escalateUnits source found) n
      ((declarationsAgent.understood c.service (c.service.answer n)).bind
        fun reply => (helpedUnits found reply).mapError .known) [q] 1 := by
  obtain ⟨prompt, hp⟩ :=
    declarationsAgent_prompt { source, failure := reason found "no declarations found" }
  have hask := c.ends_ask (n := n) declarationsAgent "unit_tests" hp
  refine ⟨declarationsAgent.request prompt, (ends_emit ..).quiet_bind (hask.bind_each fun reply => ?_)⟩
  cases reply with
  | none => exact ends_localUnits found .escalated
  | some r =>
    simp only [helpedUnits]
    cases he : (externalUnits found r).isEmpty with
    | true => exact (ends_emit ..).quiet_bind (ends_localUnits found .escalated)
    | false => exact (ends_renderUnits _ []).quiet_bind (ends_pure _)

theorem ends_renderReported (m : ViewModel) (o : Options) :
    Ends (c.renderReported m o) n
      (if m.isEmpty then .ok none
      else
        match c.renderView m o with
        | .ok output => .ok (some output)
        | .error p => if p.kind.isGeneration then .ok none else .error (.known p)) [] 0 := by
  unfold renderReported
  cases he : m.isEmpty with
  | true => exact (ends_emit ..).quiet_bind (ends_pure _)
  | false =>
    refine (ends_attempt (c.ends_render m o)).quiet_bind ?_
    cases c.renderView m o with
    | ok output => exact ends_pure _
    | error p =>
      cases hg : p.kind.isGeneration with
      | true =>
        simp only [hg, Bool.false_eq_true, if_false, if_true]
        exact (ends_emit ..).quiet_bind (ends_pure _)
      | false =>
        simp only [hg, Bool.false_eq_true, if_false]
        exact ends_fail p

theorem ends_escalateView (source : String) (found : Except Problem ViewModel) (o : Options) :
    ∃ q, Ends (c.escalateView source found o) n
      ((viewAgent.understood c.service (c.service.answer n)).bind
        fun reply => (c.helpedView source found o reply).mapError .known) [q] 1 := by
  obtain ⟨prompt, hp⟩ := viewAgent_prompt { source, failure := reason found "no UI elements found" }
  have hask := c.ends_ask (n := n) viewAgent "ui_tests" hp
  refine ⟨viewAgent.request prompt, (ends_emit ..).quiet_bind (hask.bind_each fun reply => ?_)⟩
  rcases reply with _ | v | code
  · exact c.ends_localView found o .escalated
  · have hr := c.ends_renderReported (n := n + 1) (v.toModel source) o
    simp only [helpedView]
    cases he : (v.toModel source).isEmpty with
    | true =>
      rw [he] at hr
      exact hr.quiet_bind (c.ends_localView found o .escalated)
    | false =>
      rw [he] at hr
      cases hv : c.renderView (v.toModel source) o with
      | ok output => rw [hv] at hr; exact hr.quiet_bind (ends_pure _)
      | error p =>
        rw [hv] at hr
        cases hg : p.kind.isGeneration with
        | true =>
          simp only [hg, Bool.false_eq_true, if_false, if_true] at hr ⊢
          exact hr.quiet_bind (c.ends_localView found o .escalated)
        | false =>
          simp only [hg, Bool.false_eq_true, if_false] at hr ⊢
          exact hr.bind_error _
  · exact ends_pure _

theorem ends_escalateRendering (source : String) (m : ViewModel) (p : Problem)
    (h : c.available = true) :
    ∃ q, Ends (c.escalateRendering source m p) n
      ((codeAgent.understood c.service (c.service.answer n)).bind
        fun reply => (helpedRendering m p reply).mapError .known) [q] 1 := by
  obtain ⟨prompt, hp⟩ := codeAgent_prompt { source, failure := p.message }
  have hask := c.ends_ask (n := n) codeAgent "ui_render" hp
  unfold escalateRendering
  simp only [h, Bool.not_true, Bool.false_eq_true, if_false]
  refine ⟨codeAgent.request prompt, (ends_emit ..).quiet_bind (hask.bind_each fun reply => ?_)⟩
  cases reply with
  | none => exact ends_fail p
  | some code => exact ends_pure _

inductive Fails {μ : Type} (found : Except Problem μ) (isEmpty : μ → Bool) : Prop where
  | problem {p : Problem} (h : found = .error p)
  | empty {m : μ} (h : found = .ok m) (he : isEmpty m = true)

abbrev UnitsFail (source : String) : Prop := Fails (c.foundUnits source) DeclarationModel.isEmpty

abbrev ViewFails (source : String) : Prop := Fails (c.foundView source) ViewModel.isEmpty

structure RenderingFails (source : String) (o : Options) (m : ViewModel) (p : Problem) : Prop where
  found : c.foundView source = .ok m
  nonempty : m.isEmpty = false
  rendered : c.renderView m o = .error p
  generation : p.kind.isGeneration = true

section

variable {μ : Type} {found : Except Problem μ} {isEmpty : μ → Bool} {m : μ}

theorem usable (h : found = .ok m) (he : isEmpty m = false) :
    found.toOption.filter (!isEmpty ·) = some m := by
  rw [h]
  simp [Except.toOption, he]

theorem Fails.none_usable (h : Fails found isEmpty) : found.toOption.filter (!isEmpty ·) = none := by
  cases h with
  | problem h =>
    rw [h]
    rfl
  | empty h he =>
    rw [h]
    simp [Except.toOption, he]

theorem fails_or (found : Except Problem μ) (isEmpty : μ → Bool) :
    Fails found isEmpty ∨ ∃ m, found = .ok m ∧ isEmpty m = false := by
  cases found with
  | error p => exact .inl (.problem rfl)
  | ok m =>
    cases he : isEmpty m with
    | true => exact .inl (.empty rfl he)
    | false => exact .inr ⟨m, rfl, he⟩

theorem not_fails (h : found = .ok m) (he : isEmpty m = false) : ¬Fails found isEmpty := by
  rintro (⟨h'⟩ | ⟨h', he'⟩) <;> rw [h] at h'
  · cases h'
  · cases h'
    rw [he] at he'
    cases he'

end

variable {c} {source : String} {o : Options}

theorem ends_resolveUnits_found {m : DeclarationModel} (h : c.foundUnits source = .ok m)
    (he : m.isEmpty = false) :
    Ends (c.resolveUnits source false) n
      (.ok { output := unitTests m [], state := .local, model := some (.declarations m) }) [] 0 := by
  have hf := ends_attempt (c.ends_declarations (n := n) source)
  unfold resolveUnits
  refine hf.quiet_bind ?_
  rw [usable h he]
  exact (ends_pure _).quiet_bind <| (ends_emit ..).quiet_bind <|
    (ends_renderUnits m []).quiet_bind (ends_pure _)

theorem ends_resolveUnits_unavailable (h : c.UnitsFail source) (ha : c.available = false)
    (assist : Bool) :
    Ends (c.resolveUnits source assist) n
      ((keptUnits (c.foundUnits source) .local).mapError .known) [] 0 := by
  unfold resolveUnits
  refine (ends_attempt (c.ends_declarations source)).quiet_bind ?_
  rw [h.none_usable, ha]
  exact ends_localUnits _ .local

theorem ends_resolveUnits_available (h : c.UnitsFail source) (ha : c.available = true)
    (assist : Bool) :
    ∃ q, Ends (c.resolveUnits source assist) n
      ((declarationsAgent.understood c.service (c.service.answer n)).bind
        fun reply => (helpedUnits (c.foundUnits source) reply).mapError .known) [q] 1 := by
  obtain ⟨q, hq⟩ := c.ends_escalateUnits (n := n) source (c.foundUnits source)
  refine ⟨q, ?_⟩
  unfold resolveUnits
  refine (ends_attempt (c.ends_declarations source)).quiet_bind ?_
  rw [h.none_usable, ha]
  exact hq

theorem ends_resolveView_rendered {m : ViewModel} {output : String} (options : Option Options)
    (h : c.foundView source = .ok m) (he : m.isEmpty = false)
    (hr : c.renderView m (options.getD c.config.generation) = .ok output) :
    Ends (c.resolveView source options) n
      (.ok { output, state := .local, model := some (.view m) }) [] 0 := by
  unfold resolveView
  refine (ends_attempt (c.ends_view source)).quiet_bind ?_
  rw [usable h he]
  refine (ends_attempt (c.ends_render m _)).quiet_bind ?_
  rw [hr]
  exact (ends_emit ..).quiet_bind (ends_pure _)

theorem ends_resolveView_problem {m : ViewModel} {p : Problem} (options : Option Options)
    (h : c.foundView source = .ok m) (he : m.isEmpty = false)
    (hr : c.renderView m (options.getD c.config.generation) = .error p)
    (hp : p.kind.isGeneration = false ∨ c.available = false) :
    Ends (c.resolveView source options) n (.error (.known p)) [] 0 := by
  unfold resolveView
  refine (ends_attempt (c.ends_view source)).quiet_bind ?_
  rw [usable h he]
  refine (ends_attempt (c.ends_render m _)).quiet_bind ?_
  rw [hr]
  cases hg : p.kind.isGeneration with
  | false =>
    simp only [hg, Bool.false_eq_true, if_false]
    exact ends_fail p
  | true =>
    have ha : c.available = false := by simpa [hg] using hp
    simp only [hg, if_true, escalateRendering, ha, Bool.not_false]
    exact (ends_fail p).bind_error _

theorem ends_resolveView_rendering {m : ViewModel} {p : Problem} (options : Option Options)
    (h : c.RenderingFails source (options.getD c.config.generation) m p)
    (ha : c.available = true) :
    ∃ q, Ends (c.resolveView source options) n
      ((codeAgent.understood c.service (c.service.answer n)).bind
        fun reply => (helpedRendering m p reply).mapError .known) [q] 1 := by
  obtain ⟨q, hq⟩ := c.ends_escalateRendering (n := n) source m p ha
  refine ⟨q, ?_⟩
  unfold resolveView
  refine (ends_attempt (c.ends_view source)).quiet_bind ?_
  rw [usable h.found h.nonempty]
  refine (ends_attempt (c.ends_render m _)).quiet_bind ?_
  rw [h.rendered]
  simp only [h.generation, if_true]
  exact hq

theorem ends_resolveView_unavailable (options : Option Options) (h : c.ViewFails source)
    (ha : c.available = false) :
    Ends (c.resolveView source options) n
      ((c.keptView (c.foundView source) (options.getD c.config.generation) .local).mapError .known)
      [] 0 := by
  unfold resolveView
  refine (ends_attempt (c.ends_view source)).quiet_bind ?_
  rw [h.none_usable, ha]
  exact c.ends_localView _ _ .local

theorem ends_resolveView_available (options : Option Options) (h : c.ViewFails source)
    (ha : c.available = true) :
    ∃ q, Ends (c.resolveView source options) n
      ((viewAgent.understood c.service (c.service.answer n)).bind
        fun reply => (c.helpedView source (c.foundView source)
          (options.getD c.config.generation) reply).mapError .known) [q] 1 := by
  obtain ⟨q, hq⟩ := c.ends_escalateView (n := n) source (c.foundView source)
    (options.getD c.config.generation)
  refine ⟨q, ?_⟩
  unfold resolveView
  refine (ends_attempt (c.ends_view source)).quiet_bind ?_
  rw [h.none_usable, ha]
  exact hq

end Coordinator

end TestScaffold
