import TestScaffold.Proofs.Escalation.Outcomes

namespace TestScaffold.Coordinator

open Render Prompt Reply Run

variable {c : Coordinator} {source : String} {o : Options} {n : Nat}

/-- Behind `t`, the call asks the service with the requests `sent`: one if it is needed, none otherwise.
It closes the client as often, and what it returns says whether it has asked. -/
structure AsksIf (needed : Prop) (x : Run Resolution) (t : Trace) (sent : List Request) : Prop where
  requests : (x t).2.requests = t.requests ++ sent
  at_most_once : sent.length ≤ 1
  once_iff : sent.length = 1 ↔ needed
  closes : (x t).2.closes = t.closes + sent.length
  state : ∀ r, (x t).1 = .ok r → (r.state = .escalated ↔ sent.length = 1)
  external : ∀ r, (x t).1 = .ok r → r.external = true → r.state = .escalated

theorem asksIf_of_silent {needed : Prop} {x : Run Resolution} {r : Except Fault Resolution}
    (t : Trace) (h : Ends x t.requests.length r [] 0) (hn : ¬needed)
    (hr : ∀ a, r = .ok a → a.state = .local ∧ a.external = false) : AsksIf needed x t [] where
  requests := h.requests t rfl
  at_most_once := Nat.zero_le 1
  once_iff := by simpa using hn
  closes := h.closes t rfl
  state a ha := by simp [(hr a ((h.result t rfl).symm.trans ha)).1]
  external a ha he := by simp [(hr a ((h.result t rfl).symm.trans ha)).2] at he

theorem asksIf_of_asked {needed : Prop} {x : Run Resolution} {r : Except Fault Resolution}
    {q : Request} (t : Trace) (h : Ends x t.requests.length r [q] 1) (hn : needed)
    (hr : ∀ a, r = .ok a → a.state = .escalated) : AsksIf needed x t [q] where
  requests := h.requests t rfl
  at_most_once := Nat.le_refl 1
  once_iff := by simpa using hn
  closes := h.closes t rfl
  state a ha := by simp [hr a ((h.result t rfl).symm.trans ha)]
  external a ha _ := hr a ((h.result t rfl).symm.trans ha)

theorem keptUnits_state {found : Except Problem DeclarationModel} {state : EscalationState}
    {r : Resolution} (h : keptUnits found state = .ok r) : r.state = state ∧ r.external = false := by
  cases found with
  | error p => cases h
  | ok m => cases h; exact ⟨rfl, rfl⟩

theorem keptView_state {found : Except Problem ViewModel} {state : EscalationState}
    {r : Resolution} (h : c.keptView found o state = .ok r) :
    r.state = state ∧ r.external = false := by
  cases found with
  | error p => cases h
  | ok m =>
    simp only [keptView, Except.bind] at h
    cases hm : c.renderView m o with
    | error p => rw [hm] at h; cases h
    | ok output => rw [hm] at h; cases h; exact ⟨rfl, rfl⟩

theorem helpedUnits_state {found : Except Problem DeclarationModel}
    {reply : Option DeclarationsReply} {r : Resolution} (h : helpedUnits found reply = .ok r) :
    r.state = .escalated := by
  cases reply with
  | none => exact (keptUnits_state h).1
  | some d =>
    simp only [helpedUnits] at h
    split at h
    · exact (keptUnits_state h).1
    · cases h; rfl

theorem helpedView_state {found : Except Problem ViewModel} {reply : Option ViewAnswer}
    {r : Resolution} (h : c.helpedView source found o reply = .ok r) : r.state = .escalated := by
  rcases reply with _ | v | code
  · exact (keptView_state h).1
  · simp only [helpedView] at h
    split at h
    · exact (keptView_state h).1
    · split at h
      · cases h; rfl
      · split at h
        · exact (keptView_state h).1
        · cases h
  · cases h; rfl

theorem helpedRendering_state {m : ViewModel} {p : Problem} {reply : Option Code} {r : Resolution}
    (h : helpedRendering m p reply = .ok r) : r.state = .escalated := by
  cases reply with
  | none => cases h
  | some code => cases h; rfl

theorem ok_of_mapError {α : Type} {x : Except Problem α} {a : α}
    (h : x.mapError Fault.known = .ok a) : x = .ok a := by
  cases x with
  | error p => cases h
  | ok b => cases h; rfl

theorem ok_of_bind {α β : Type} {x : Except Fault α} {f : α → Except Problem β} {b : β}
    (h : (x.bind fun a => (f a).mapError Fault.known) = .ok b) : ∃ a, f a = .ok b := by
  cases x with
  | error e => cases h
  | ok a => exact ⟨a, ok_of_mapError h⟩

theorem resolveUnits_asksIf (c : Coordinator) (source : String) (t : Trace) :
    ∃ sent, AsksIf (c.available = true ∧ c.UnitsFail source) (c.resolveUnits source false) t sent := by
  rcases fails_or (c.foundUnits source) DeclarationModel.isEmpty with h | ⟨m, hm, he⟩
  · cases ha : c.available with
    | true =>
      obtain ⟨q, hq⟩ := ends_resolveUnits_available (n := t.requests.length) h ha false
      refine ⟨[q], asksIf_of_asked t hq ⟨rfl, h⟩ fun r hr => ?_⟩
      obtain ⟨reply, hreply⟩ := ok_of_bind hr
      exact helpedUnits_state hreply
    | false =>
      refine ⟨[], asksIf_of_silent t (ends_resolveUnits_unavailable h ha false) (by simp) ?_⟩
      exact fun r hr => keptUnits_state (ok_of_mapError hr)
  · refine ⟨[], asksIf_of_silent t (ends_resolveUnits_found hm he) ?_ ?_⟩
    · exact fun h => not_fails hm he h.2
    · rintro r ⟨⟩
      exact ⟨rfl, rfl⟩

theorem resolveView_asksIf (c : Coordinator) (source : String) (options : Option Options)
    (t : Trace) :
    ∃ sent, AsksIf
      (c.available = true ∧ (c.ViewFails source ∨
        ∃ m p, c.RenderingFails source (options.getD c.config.generation) m p))
      (c.resolveView source options) t sent := by
  rcases fails_or (c.foundView source) ViewModel.isEmpty with h | ⟨m, hm, he⟩
  · cases ha : c.available with
    | true =>
      obtain ⟨q, hq⟩ := ends_resolveView_available (n := t.requests.length) options h ha
      refine ⟨[q], asksIf_of_asked t hq ⟨rfl, .inl h⟩ fun r hr => ?_⟩
      obtain ⟨reply, hreply⟩ := ok_of_bind hr
      exact helpedView_state hreply
    | false =>
      refine ⟨[], asksIf_of_silent t (ends_resolveView_unavailable options h ha) (by simp) ?_⟩
      exact fun r hr => keptView_state (ok_of_mapError hr)
  have hv := not_fails hm he
  cases hr : c.renderView m (options.getD c.config.generation) with
  | ok output =>
    refine ⟨[], asksIf_of_silent t (ends_resolveView_rendered options hm he hr) ?_ ?_⟩
    · rintro ⟨-, h | ⟨m', p', h⟩⟩
      · exact hv h
      · have hm' : m' = m := by simpa [hm] using h.found.symm
        have hp' := h.rendered
        rw [hm', hr] at hp'
        cases hp'
    · rintro r ⟨⟩
      exact ⟨rfl, rfl⟩
  | error p =>
    by_cases hg : p.kind.isGeneration = true ∧ c.available = true
    · have hf : c.RenderingFails source (options.getD c.config.generation) m p := ⟨hm, he, hr, hg.1⟩
      obtain ⟨q, hq⟩ := ends_resolveView_rendering (n := t.requests.length) options hf hg.2
      refine ⟨[q], asksIf_of_asked t hq ⟨hg.2, .inr ⟨m, p, hf⟩⟩ fun r h => ?_⟩
      obtain ⟨reply, hreply⟩ := ok_of_bind h
      exact helpedRendering_state hreply
    · have hp : p.kind.isGeneration = false ∨ c.available = false := by
        cases h : p.kind.isGeneration <;> simp_all
      refine ⟨[], asksIf_of_silent t (ends_resolveView_problem options hm he hr hp) ?_ ?_⟩
      · rintro ⟨ha, h | ⟨m', p', h⟩⟩
        · exact hv h
        · have hm' : m' = m := by simpa [hm] using h.found.symm
          have hp' : p' = p := by
            have := h.rendered
            rw [hm', hr] at this
            simpa using this.symm
          exact hg ⟨hp' ▸ h.generation, ha⟩
      · rintro r ⟨⟩

theorem asks_once_iff_needed (c : Coordinator) (source : String) (options : Option Options)
    (t : Trace) :
    (∃ sent, AsksIf (c.available = true ∧ c.UnitsFail source) (c.resolveUnits source false) t sent) ∧
      ∃ sent, AsksIf
        (c.available = true ∧ (c.ViewFails source ∨
          ∃ m p, c.RenderingFails source (options.getD c.config.generation) m p))
        (c.resolveView source options) t sent :=
  ⟨resolveUnits_asksIf c source t, resolveView_asksIf c source options t⟩

end TestScaffold.Coordinator
