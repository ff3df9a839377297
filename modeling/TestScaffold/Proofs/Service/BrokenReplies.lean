import TestScaffold.Proofs.Service.Runs

/-!
Replies that break an agent. A reply is understood, or it is a failure of the service, or it breaks the
agent: by a number with too many digits, by lists and objects too deep within one another, and in the
description of a view by a variable whose name is a list or an object.
-/

namespace TestScaffold

open Prompt Reply Run

/-- What an agent reads as JSON: the code of a reply that is one block, or else the reply. -/
def jsonText (reply : String) : String := ((wholeBlock? reply.toList).map (·.code)).getD reply

/-- Reading the reply as JSON, with `unusable` for values that no record can be made of, comes to a
fault that is no failure of the service. -/
inductive Broken (unusable : Json → Bool) (limit : Nat) (reply : String) : Fault → Prop
  | digits (h : Json.ofText limit (jsonText reply) = .error .tooManyDigits) :
    Broken unusable limit reply .numberTooLong
  | depth (h : Json.ofText limit (jsonText reply) = .error .tooDeep) :
    Broken unusable limit reply .nestedTooDeep
  | compound {j : Json} (h : Json.ofText limit (jsonText reply) = .ok j) (hj : unusable j = true) :
    Broken unusable limit reply .compoundName

theorem isFailure_malformed (agent provider message : String) :
    (Fault.known (malformed agent provider message)).isFailure = true := rfl

theorem parseJson_error_iff {α : Type} {limit : Nat} {agent provider : String} {d : Decoder α}
    {unusable : Json → Bool} {reply : String} {e : Fault} :
    (parseJson limit agent provider d unusable reply = .error e ∧ e.isFailure = false) ↔
      Broken unusable limit reply e := by
  have htext : ((wholeBlock? reply.toList).map (·.code)).getD reply = jsonText reply := rfl
  constructor
  · rintro ⟨h, hfailure⟩
    simp only [parseJson, htext] at h
    cases hj : Json.ofText limit (jsonText reply) with
    | error r =>
      rw [hj] at h
      cases r with
      | malformed =>
        cases h
        rw [isFailure_malformed] at hfailure
        cases hfailure
      | tooManyDigits =>
        cases h
        exact .digits hj
      | tooDeep =>
        cases h
        exact .depth hj
    | ok j =>
      rw [hj] at h
      cases hu : unusable j with
      | true =>
        simp only [hu, if_true] at h
        cases h
        exact .compound hj hu
      | false =>
        simp only [hu, Bool.false_eq_true, if_false] at h
        cases hd : d j with
        | valid a =>
          rw [hd] at h
          cases h
        | invalid paths =>
          rw [hd] at h
          cases h
          rw [isFailure_malformed] at hfailure
          cases hfailure
  · intro h
    simp only [parseJson, htext]
    cases h with
    | digits hj => exact ⟨by rw [hj], rfl⟩
    | depth hj => exact ⟨by rw [hj], rfl⟩
    | compound hj hu => exact ⟨by rw [hj]; simp only [hu, if_true], rfl⟩

namespace Agent

variable {ι ο : Type} {a : Agent ι ο} {s : Service} {answer : Answer} {e : Fault}

theorem understood_eq_error_iff : a.understood s answer = .error e ↔
    ∃ text, answer = .reply text ∧ a.parse s.depthLimit s.provider text = .error e ∧
      e.isFailure = false := by
  constructor
  · intro h
    cases answer with
    | silent => cases h
    | failed failure message => cases h
    | reply text =>
      rw [understood] at h
      cases hp : a.parse s.depthLimit s.provider text with
      | ok output =>
        rw [hp] at h
        cases h
      | error e' =>
        rw [hp] at h
        cases hf : e'.isFailure with
        | true =>
          simp only [hf, if_true] at h
          cases h
        | false =>
          simp only [hf, Bool.false_eq_true, if_false] at h
          cases h
          exact ⟨text, rfl, hp, hf⟩
  · rintro ⟨text, rfl, hp, hf⟩
    simp [understood, hp, hf]

def BreaksOn (a : Agent ι ο) (broken : Nat → String → Fault → Prop) : Prop :=
  ∀ (s : Service) answer e, a.understood s answer = .error e ↔
    ∃ text, answer = .reply text ∧ broken s.depthLimit text e

theorem breaksOn_of_parse {broken : Nat → String → Fault → Prop}
    (h : ∀ limit provider text e,
      (a.parse limit provider text = .error e ∧ e.isFailure = false) ↔ broken limit text e) :
    a.BreaksOn broken := by
  intro s answer e
  rw [understood_eq_error_iff]
  exact exists_congr fun text => and_congr_right fun _ => h s.depthLimit s.provider text e

end Agent

def BrokenView (limit : Nat) (reply : String) (e : Fault) : Prop :=
  (wholeBlock? reply.toList).filter (!looksLikeJson ·) = none ∧ Broken hasCompoundName limit reply e

theorem declarationsAgent_breaksOn : declarationsAgent.BreaksOn (Broken fun _ => false) :=
  Agent.breaksOn_of_parse fun _ _ _ _ => parseJson_error_iff

theorem parseView_error_iff {limit : Nat} {provider reply : String} {e : Fault} :
    (parseView limit provider reply = .error e ∧ e.isFailure = false) ↔ BrokenView limit reply e := by
  have hparse : (parseJson limit "view_analysis" provider ViewReply.decode hasCompoundName reply =
      .error e ∧ e.isFailure = false) ↔ Broken hasCompoundName limit reply e := parseJson_error_iff
  unfold parseView BrokenView
  cases hb : (wholeBlock? reply.toList).filter (!looksLikeJson ·) with
  | some code => simp
  | none =>
    rw [← hparse]
    cases parseJson limit "view_analysis" provider ViewReply.decode hasCompoundName reply <;>
      simp [Except.map]

theorem viewAgent_breaksOn : viewAgent.BreaksOn BrokenView :=
  Agent.breaksOn_of_parse fun _ _ _ _ => parseView_error_iff

theorem codeAgent_breaksOn : codeAgent.BreaksOn fun _ _ _ => False := by
  refine Agent.breaksOn_of_parse fun limit provider text e => iff_of_false ?_ id
  rintro ⟨h, hfailure⟩
  have hparse : parseCode provider text = .error e := h
  unfold parseCode at hparse
  simp only at hparse
  split at hparse
  · cases hparse
  · split at hparse
    · cases hparse
      rw [isFailure_malformed] at hfailure
      cases hfailure
    · cases hparse

end TestScaffold
