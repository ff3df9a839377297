import Mathlib.Data.List.Forall2
import TestScaffold.Proofs.Escalation.Outcomes
import TestScaffold.Proofs.Extraction.Units
import TestScaffold.Proofs.Service.BrokenReplies

/-!
Asking for the bodies of the tests, unit by unit within one deadline. Whatever the service answers, the
bodies that arrive before the first silence are kept, and every other unit keeps the test made here.
-/

namespace TestScaffold.Coordinator

open Render Prompt Reply Run

variable {c : Coordinator} {source : String} {n : Nat}

def AsksBody (source : String) (u : Fact) (q : Request) : Prop :=
  ∃ prompt, codeAgent.prompt (bodyRequest source u) = .ok prompt ∧ q = codeAgent.request prompt

def codeOf (provider : String) : Answer → Option String
  | .reply text => (parseCode provider text).toOption.map (·.code)
  | .failed .. | .silent => none

def replied (s : Service) (n : Nat) (us : List Fact) : List (Fact × Answer) :=
  ((us.zipIdx n).map fun p => (p.1, s.answer p.2)).takeWhile (·.2 != .silent)

def arrived (s : Service) (n : Nat) (us : List Fact) : Entries String :=
  (replied s n us).filterMap fun p => (codeOf s.provider p.2).map (p.1.name, ·)

variable {s : Service} {u : Fact} {us : List Fact}

theorem replied_silent (h : s.answer n = .silent) : replied s n (u :: us) = [] := by
  simp [replied, h]

theorem replied_cons (h : s.answer n ≠ .silent) :
    replied s n (u :: us) = (u, s.answer n) :: replied s (n + 1) us := by
  simp [replied, h]

theorem arrived_code {code : String} (h : s.answer n ≠ .silent)
    (hcode : codeOf s.provider (s.answer n) = some code) :
    arrived s n (u :: us) = (u.name, code) :: arrived s (n + 1) us := by
  simp [arrived, replied_cons h, hcode]

theorem arrived_none (h : s.answer n ≠ .silent) (hcode : codeOf s.provider (s.answer n) = none) :
    arrived s n (u :: us) = arrived s (n + 1) us := by
  simp [arrived, replied_cons h, hcode]

structure Hears (s : Service) (n : Nat) (response : Option (Response Code)) : Prop where
  silent : response = none ↔ s.answer n = .silent
  code : response.bind (·.output.toOption.map (·.code)) = codeOf s.provider (s.answer n)

theorem ends_invoke_body (c : Coordinator) (source : String) (u : Fact) :
    ∃ response request, AsksBody source u request ∧ Hears c.service n response ∧
      Ends (codeAgent.invoke c.service "unit_body" (bodyRequest source u)) n (.ok response)
        [request] 0 := by
  obtain ⟨prompt, hprompt⟩ := codeAgent_prompt (bodyRequest source u)
  have hasks : AsksBody source u (codeAgent.request prompt) := ⟨prompt, hprompt, rfl⟩
  cases ha : c.service.answer n with
  | silent =>
    exact ⟨none, _, hasks, ⟨by simp [ha], by simp [ha, codeOf]⟩,
      codeAgent.ends_invoke_silent c.service "unit_body" hprompt ha⟩
  | failed failure message =>
    exact ⟨some _, _, hasks, ⟨by simp [ha], by rw [ha]; rfl⟩,
      codeAgent.ends_invoke_failed c.service "unit_body" hprompt ha⟩
  | reply text =>
    obtain ⟨r, hends, hr⟩ := codeAgent.ends_invoke_reply c.service "unit_body" hprompt ha
    cases r with
    | error e =>
      -- No reply breaks the agent for code.
      obtain ⟨_, _, hfalse⟩ := (codeAgent_breaksOn _ _ _).1 hr.symm
      exact hfalse.elim
    | ok response =>
      refine ⟨some response, _, hasks, ⟨by simp [ha], ?_⟩, hends⟩
      have hparse : codeAgent.parse c.service.depthLimit c.service.provider text =
          parseCode c.service.provider text := rfl
      rw [Agent.understood, hparse] at hr
      rw [ha, codeOf, Option.bind_some]
      cases hp : parseCode c.service.provider text with
      | ok code =>
        rw [hp] at hr
        simp only [Except.map, Except.ok.injEq] at hr
        rw [hr]
        rfl
      | error e =>
        rw [hp] at hr
        cases hf : e.isFailure with
        | true =>
          simp only [hf, if_true, Except.map, Except.ok.injEq] at hr
          rw [hr]
          rfl
        | false =>
          simp only [hf, Bool.false_eq_true, if_false, Except.map] at hr
          cases hr

theorem ends_authorEach (c : Coordinator) (source : String) (us : List Fact)
    (bodies : Entries String) (n : Nat) (hnames : (bodies.keys ++ us.map (·.name)).Nodup) :
    ∃ inTime sent,
      List.Forall₂ (AsksBody source) (us.take ((replied c.service n us).length + 1)) sent ∧
      Ends (c.authorEach source bodies us) n (.ok (bodies ++ arrived c.service n us, inTime))
        sent 0 := by
  induction us generalizing bodies n with
  | nil =>
    refine ⟨true, [], .nil, ?_⟩
    rw [arrived, replied, List.zipIdx_nil, List.map_nil, List.takeWhile_nil, List.filterMap_nil,
      List.append_nil]
    exact ends_pure (bodies, true)
  | cons u us ih =>
    obtain ⟨response, request, hasks, hears, hcall⟩ := ends_invoke_body (n := n) c source u
    have hfresh : u.name ∉ bodies.keys := by
      intro hmem
      exact (List.nodup_append.1 hnames).2.2 _ hmem _ List.mem_cons_self rfl
    have hrest : (bodies.keys ++ us.map (·.name)).Nodup :=
      hnames.sublist ((List.Sublist.refl _).append (List.sublist_cons_self _ _))
    unfold authorEach
    rcases response with _ | ⟨output, model, digest⟩
    · have hs := hears.silent.1 rfl
      refine ⟨false, [request], by simpa [replied_silent hs] using hasks, ?_⟩
      simpa [arrived, replied_silent hs] using hcall.bind_quiet (ends_pure (bodies, false))
    · have hs : c.service.answer n ≠ .silent := fun h => nomatch hears.silent.2 h
      have hcode := hears.code
      simp only [Option.bind_some] at hcode
      rw [replied_cons hs]
      cases output with
      | ok code =>
        have hmoved : ((bodies.put u.name code.code).keys ++ us.map (·.name)).Nodup := by
          rw [Entries.keys_put, if_neg hfresh, List.append_assoc]
          exact hnames
        obtain ⟨inTime, sent, hsent, hends⟩ := ih (bodies.put u.name code.code) (n + 1) hmoved
        refine ⟨inTime, request :: sent, .cons hasks hsent, ?_⟩
        have hbodies : bodies.put u.name code.code ++ arrived c.service (n + 1) us =
            bodies ++ arrived c.service n (u :: us) := by
          rw [Entries.put_of_not_mem _ hfresh, arrived_code hs hcode.symm, List.append_assoc,
            List.singleton_append]
        rw [hbodies] at hends
        exact hcall.bind (k := 0) (l := 0) hends
      | error failure =>
        obtain ⟨inTime, sent, hsent, hends⟩ := ih bodies (n + 1) hrest
        refine ⟨inTime, request :: sent, .cons hasks hsent, ?_⟩
        rw [← arrived_none hs hcode.symm] at hends
        exact hcall.bind (k := 0) (l := 0) ((ends_emit ..).quiet_bind hends)

theorem ends_authorBodies (c : Coordinator) (source : String) (m : DeclarationModel) (n : Nat)
    (hnames : (m.units.map (·.name)).Nodup) :
    ∃ sent,
      List.Forall₂ (AsksBody source) (m.units.take ((replied c.service n m.units).length + 1)) sent ∧
      Ends (c.authorBodies source m) n (.ok (arrived c.service n m.units)) sent 1 := by
  obtain ⟨inTime, sent, hsent, heach⟩ := ends_authorEach c source m.units [] n hnames
  refine ⟨sent, hsent, Ends.apart c.away (Ends.closing ?_)⟩
  refine heach.bind_quiet ?_
  cases inTime with
  | true => exact ends_pure _
  | false => exact (ends_emit ..).quiet_bind (ends_pure _)

variable {m : DeclarationModel}

theorem nodup_names_foundUnits (h : c.foundUnits source = .ok m) : (m.units.map (·.name)).Nodup := by
  unfold foundUnits at h
  cases hx : extract c.window .declarations source with
  | error p =>
    rw [hx] at h
    cases h
  | ok facts =>
    rw [hx] at h
    cases h
    exact nodup_names_buildDeclarations facts (some source)

theorem ends_resolved (m : DeclarationModel) (bodies : Entries String) (n : Nat) :
    Ends (do
      emitResolved "unit_tests" "units" m.units.length
      return {
        output := ← renderUnits m bodies, state := .local, model := some (.declarations m) }
      : Run Resolution) n
      (.ok { output := unitTests m bodies, state := .local, model := some (.declarations m) })
      [] 0 :=
  (ends_emit ..).quiet_bind ((ends_renderUnits m bodies).quiet_bind (ends_pure _))

theorem ends_resolveUnits_assisted (h : c.foundUnits source = .ok m) (he : m.isEmpty = false)
    (ha : c.available = true) :
    ∃ sent,
      List.Forall₂ (AsksBody source) (m.units.take ((replied c.service n m.units).length + 1)) sent ∧
      Ends (c.resolveUnits source true) n
        (.ok {
          output := unitTests m (arrived c.service n m.units)
          state := .local
          model := some (.declarations m) }) sent 1 := by
  obtain ⟨sent, hsent, hends⟩ := ends_authorBodies c source m n (nodup_names_foundUnits h)
  refine ⟨sent, hsent, ?_⟩
  unfold resolveUnits
  refine (ends_attempt (c.ends_declarations source)).quiet_bind ?_
  rw [usable h he]
  simp only [ha, Bool.and_self, if_true]
  exact hends.bind_quiet (ends_resolved m _ _)

theorem ends_resolveUnits_local (h : c.foundUnits source = .ok m) (he : m.isEmpty = false)
    (assist : Bool) :
    ∃ bodies sent k, Ends (c.resolveUnits source assist) n
      (.ok { output := unitTests m bodies, state := .local, model := some (.declarations m) })
      sent k := by
  cases hassist : assist && c.available with
  | true =>
    obtain ⟨rfl, ha⟩ := Bool.and_eq_true_iff.1 hassist
    obtain ⟨sent, -, hends⟩ := ends_resolveUnits_assisted (n := n) h he ha
    exact ⟨_, sent, 1, hends⟩
  | false =>
    refine ⟨[], [], 0, ?_⟩
    unfold resolveUnits
    refine (ends_attempt (c.ends_declarations source)).quiet_bind ?_
    rw [usable h he]
    simp only [hassist, Bool.false_eq_true, if_false]
    exact (ends_pure _).quiet_bind (ends_resolved m [] n)

theorem replied_starts (s : Service) (n : Nat) (us : List Fact) :
    replied s n us <+: (us.zipIdx n).map fun p => (p.1, s.answer p.2) :=
  List.takeWhile_prefix _

theorem length_replied_le : (replied s n us).length ≤ us.length := by
  simpa using (replied_starts s n us).length_le

theorem getElem?_replied {i : Nat} : (replied s n us)[i]? =
    if i < (replied s n us).length then us[i]?.map fun u => (u, s.answer (n + i)) else none := by
  split
  · rename_i hi
    have hget := List.prefix_iff_getElem?.1 (replied_starts s n us) i hi
    rw [List.getElem?_eq_getElem hi, ← hget]
    simp [Function.comp_def]
  · rename_i hi
    exact List.getElem?_eq_none (Nat.not_lt.1 hi)

theorem keys_arrived : (arrived s n us).keys.Sublist (us.map (·.name)) := by
  induction us generalizing n with
  | nil => simp [arrived, replied, Entries.keys]
  | cons u us ih =>
    by_cases hs : s.answer n = .silent
    · simp [arrived, replied_silent hs, Entries.keys]
    · cases hcode : codeOf s.provider (s.answer n) with
      | none =>
        rw [arrived_none hs hcode]
        exact ih.cons _
      | some code =>
        rw [arrived_code hs hcode]
        exact ih.cons_cons _

theorem mem_arrived {k code : String} : (k, code) ∈ arrived s n us ↔
    ∃ i u, us[i]? = some u ∧ u.name = k ∧ i < (replied s n us).length ∧
      codeOf s.provider (s.answer (n + i)) = some code := by
  rw [arrived, List.mem_filterMap]
  constructor
  · rintro ⟨p, hp, hcode⟩
    obtain ⟨i, hi⟩ := List.mem_iff_getElem?.1 hp
    rw [getElem?_replied] at hi
    split at hi
    · rename_i hlt
      obtain ⟨u, hu, rfl⟩ := Option.map_eq_some_iff.1 hi
      obtain ⟨body, hbody, hpair⟩ := Option.map_eq_some_iff.1 hcode
      cases hpair
      exact ⟨i, u, hu, rfl, hlt, hbody⟩
    · cases hi
  · rintro ⟨i, u, hu, rfl, hlt, hcode⟩
    have hi : (replied s n us)[i]? = some (u, s.answer (n + i)) := by
      rw [getElem?_replied, if_pos hlt, hu]
      rfl
    exact ⟨(u, s.answer (n + i)), List.mem_iff_getElem?.2 ⟨i, hi⟩, by simp [hcode]⟩

def testBlock (m : DeclarationModel) (body? : Option String) (u : Fact) : List String :=
  "" :: unitTest (m.subject?.getD "<#SystemUnderTest#>") body? u

theorem unitTestLines_eq (m : DeclarationModel) : ∃ front back, ∀ bodies,
    unitTestLines m bodies =
      front ++ m.units.flatMap (fun u => testBlock m (bodies.get? u.name) u) ++ back := by
  cases he : m.isEmpty with
  | true =>
    have hunits : m.units = [] := List.isEmpty_iff.1 he
    refine ⟨unitTestLines m [], [], fun bodies => ?_⟩
    simp [unitTestLines, he, hunits]
  | false =>
    refine ⟨["import XCTest", "", "class " ++ m.subject?.getD "Generated" ++
      "Tests: XCTestCase \x7b"] ++ fixture (m.subject?.getD "<#SystemUnderTest#>"), ["\x7d"], ?_⟩
    intro bodies
    simp [unitTestLines, he, testBlock]

/-- Behind `t`, the call asks for the body of each unit in turn, hears of `heard` of them before the
service falls silent, and makes the tests with the bodies it has by then. -/
structure Assists (c : Coordinator) (source : String) (m : DeclarationModel) (t : Trace) (heard : Nat)
    (bodies : Entries String) : Prop where
  units : heard ≤ m.units.length
  answered : ∀ i < heard, c.service.answer (t.requests.length + i) ≠ .silent
  silence : heard < m.units.length → c.service.answer (t.requests.length + heard) = .silent
  requests : ∃ sent, List.Forall₂ (AsksBody source) (m.units.take (heard + 1)) sent ∧
    (c.resolveUnits source true t).2.requests = t.requests ++ sent
  kept : ∀ k code, bodies.get? k = some code ↔
    ∃ i u, m.units[i]? = some u ∧ u.name = k ∧ i < heard ∧
      codeOf c.service.provider (c.service.answer (t.requests.length + i)) = some code
  result : (c.resolveUnits source true t).1 = .ok {
    output := unitTests m bodies
    state := .local
    model := some (.declarations m)
    localError := none
    external := false }
  others : ∃ front back,
    unitTests m bodies =
      joinLines (front ++ m.units.flatMap (fun u => testBlock m (bodies.get? u.name) u) ++ back) ∧
    unitTests m [] = joinLines (front ++ m.units.flatMap (testBlock m none) ++ back)
  closes : (c.resolveUnits source true t).2.closes = t.closes + 1

theorem answered_replied {i : Nat} (hi : i < (replied s n us).length) :
    s.answer (n + i) ≠ .silent := by
  have hu : i < us.length := Nat.lt_of_lt_of_le hi length_replied_le
  have hget : (replied s n us)[i]? = some (us[i], s.answer (n + i)) := by
    rw [getElem?_replied, if_pos hi, List.getElem?_eq_getElem hu]
    rfl
  have hpassed := List.all_eq_true.1 List.all_takeWhile _ (List.mem_of_getElem? hget)
  simpa using hpassed

theorem silence_replied (h : (replied s n us).length < us.length) :
    s.answer (n + (replied s n us).length) = .silent := by
  induction us generalizing n with
  | nil => simp at h
  | cons u us ih =>
    by_cases hs : s.answer n = .silent
    · simpa [replied_silent hs] using hs
    · rw [replied_cons hs, List.length_cons] at h ⊢
      have hrest := ih (n := n + 1) (by simpa using h)
      rwa [Nat.add_right_comm, Nat.add_assoc] at hrest

def hesitant : Coordinator where
  config := { keys := { openai := some "key" } }
  service := {
    provider := "openai"
    model := "gpt-4o"
    answer := fun
      | 0 => .reply "XCTAssertTrue(a())"
      | 1 => .failed .network "offline"
      | _ => .silent
    depthLimit := 990 }
  window := 100

def threeUnits : String := "func a() \x7b\x7d\nvar b: Int\nvar c: Int"

end TestScaffold.Coordinator
