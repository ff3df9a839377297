import TestScaffold.Proofs.Prompt.Rendering
import TestScaffold.Proofs.Service.Runs

namespace TestScaffold.Prompt

variable {t : Template} {ps : List Piece} {vars : Entries String} {name : String}

def written (ps : List Piece) : String := String.ofList (ps.flatMap Piece.write)

/-- A name that starts with no digit and has no character that means something within a field. -/
structure IsFieldName (name : String) : Prop where
  start : ∃ c ∈ name.toList.head?, Text.digitValue? c = none
  plain : ∀ c ∈ name.toList, c ∉ "\x7b\x7d[].!:".toList

def Provides (vars : Entries String) (ps : List Piece) : Prop :=
  ∀ name, .field name ∈ ps → ∃ v, vars.get? name = some v

def Piece.filled (vars : Entries String) : Piece → List Char
  | .literal text => text
  | .field name => ((vars.get? name).getD "").toList

def Template.closing (t : Template) : String :=
  if t.format.isEmpty then "" else "\n\n" ++ t.format

/-- The prompt holds the source as it is in a block of Swift code, between texts that do not depend on it. -/
def Quotes (prompt : String → Except TemplateError String) : Prop :=
  ∃ before behind : String, ∀ source,
    prompt source = .ok (before ++ "```swift\n" ++ source ++ "\n```" ++ behind)

theorem IsFieldName.wellNamed (h : IsFieldName name) : (Piece.field name).WellNamed := by
  obtain ⟨c, hc, hdigit⟩ := h.start
  obtain ⟨cs, hcs⟩ := List.head?_eq_some_iff.1 hc
  refine ⟨?_, fun hmem => h.plain _ hmem (by decide), fun hmem => h.plain _ hmem (by decide)⟩
  rw [nameFault?, hcs, nameFaultAfter, hdigit]

theorem wellNamed_of_fieldNames (h : ∀ name, .field name ∈ ps → IsFieldName name) :
    ∀ p ∈ ps, p.WellNamed := by
  intro p hp
  cases p with
  | literal text => trivial
  | field name => exact (h name hp).wellNamed

theorem valueOf_provided (h : Provides vars ps) :
    valueOf vars ps = .ok (ps.flatMap (Piece.filled vars)) := by
  induction ps with
  | nil => rfl
  | cons p ps ih =>
    have hrest := ih fun name hname => h name (List.mem_cons_of_mem p hname)
    have hp : p.value vars = .ok (p.filled vars) := by
      cases p with
      | literal text => rfl
      | field name =>
        obtain ⟨v, hv⟩ := h name List.mem_cons_self
        simp only [Piece.value, Piece.filled, hv, Option.getD_some]
    rw [valueOf, hp, hrest]
    rfl

theorem valueOf_missing (h : .field name ∈ ps) (hname : vars.get? name = none) :
    ∃ missing, valueOf vars ps = .error (.missingVariable missing) := by
  induction ps with
  | nil => cases h
  | cons p ps ih =>
    rw [valueOf]
    cases hp : p.value vars with
    | error e =>
      cases p with
      | literal text => cases hp
      | field other =>
        simp only [Piece.value] at hp
        split at hp <;> cases hp
        exact ⟨other, rfl⟩
    | ok v =>
      have hrest : .field name ∈ ps := by
        rcases List.mem_cons.1 h with rfl | h
        · simp [Piece.value, hname] at hp
        · exact h
      obtain ⟨missing, heq⟩ := ih hrest
      exact ⟨missing, by rw [heq]; rfl⟩

theorem render_closing (vars : Entries String) (ht : t.user.toList = ps.flatMap Piece.write)
    (h : ∀ p ∈ ps, p.WellNamed) :
    t.render vars = (valueOf vars ps).map fun v => String.ofList v ++ t.closing := by
  rw [render_eq vars ht h]
  congr 1
  funext v
  unfold Template.closing
  split
  · rw [String.append_empty]
  · rw [String.append_assoc]

section

variable (hps : t.user = written ps) (hnames : ∀ name, .field name ∈ ps → IsFieldName name)
  (hfree : vars.get? Template.ownName = none)

include hps hnames hfree

theorem call_written :
    t.call vars = ((valueOf vars ps).map fun v => String.ofList v ++ t.closing).mapError .fault := by
  have huser : t.user.toList = ps.flatMap Piece.write := by rw [hps, written, String.toList_ofList]
  rw [Template.call, hfree, render_closing vars huser (wellNamed_of_fieldNames hnames)]
  rfl

theorem call_provided (h : Provides vars ps) :
    t.call vars = .ok (String.ofList (ps.flatMap (Piece.filled vars)) ++ t.closing) := by
  rw [call_written hps hnames hfree, valueOf_provided h]
  rfl

theorem call_missing_iff :
    (∃ missing, t.call vars = .error (.fault (.missingVariable missing))) ↔
      ∃ name, .field name ∈ ps ∧ vars.get? name = none := by
  constructor
  · rintro ⟨missing, heq⟩
    refine Classical.byContradiction fun hall => ?_
    have hprovides : Provides vars ps := fun name hname =>
      Option.ne_none_iff_exists'.1 fun hnone => hall ⟨name, hname, hnone⟩
    rw [call_provided hps hnames hfree hprovides] at heq
    cases heq
  · rintro ⟨name, hname, hnone⟩
    obtain ⟨missing, heq⟩ := valueOf_missing hname hnone
    refine ⟨missing, ?_⟩
    rw [call_written hps hnames hfree, heq]
    rfl

end

theorem quotes_sourceRequest (nothing failure : String)
    (ht : t.user.toList = (sourcePieces t).flatMap Piece.write) :
    Quotes fun source => t.render (SourceRequest.values nothing { source, failure }) := by
  let question := t.user.toList.takeWhile (· != '\x7b')
  refine ⟨String.ofList question ++ orElse failure nothing ++ "\n\n", t.closing, fun source => ?_⟩
  have hvalue : valueOf (SourceRequest.values nothing { source, failure }) (sourcePieces t) =
      .ok (question ++ ((orElse failure nothing).toList ++
        ("\n\n```swift\n".toList ++ (source.toList ++ ("\n```".toList ++ []))))) := rfl
  change t.render _ = _
  rw [render_closing _ ht (wellNamed_sourcePieces t), hvalue, Except.map]
  congr 1
  rw [← String.toList_inj]
  simp

theorem quotes_agent {ο : Type} {a : Agent SourceRequest ο} {nothing : String}
    (hvalues : ∀ r, a.values r = .ok (r.values nothing))
    (ht : a.template.user.toList = (sourcePieces a.template).flatMap Piece.write) (failure : String) :
    Quotes fun source => a.prompt { source, failure } := by
  simp only [a.prompt_eq (hvalues _)]
  exact quotes_sourceRequest nothing failure ht

theorem quotes_codeRequest (target : CodeTarget) (unitName unitType : Option String) (failure : String) :
    Quotes fun source => codeAgent.prompt { source, target, unitName, unitType, failure } := by
  obtain ⟨instructions, h⟩ :=
    instructions_codeRequest { source := "", target, unitName, unitType, failure }
  refine ⟨instructions ++ "\n\nLocal analysis result: " ++ orElse failure "none" ++
    "\n\nSwift code:\n", codeTemplate.closing, fun source => ?_⟩
  have hvalues : CodeRequest.values { source, target, unitName, unitType, failure } =
      .ok [("instructions", instructions), ("source", source), ("failure", orElse failure "none")] := by
    rw [CodeRequest.values]
    exact congrArg (Except.map _) h
  have hvalue : valueOf [("instructions", instructions), ("source", source),
      ("failure", orElse failure "none")] codePieces =
      .ok (instructions.toList ++ ("\n\nLocal analysis result: ".toList ++
        ((orElse failure "none").toList ++ ("\n\nSwift code:\n```swift\n".toList ++
          (source.toList ++ ("\n```".toList ++ [])))))) := rfl
  change codeAgent.prompt _ = _
  rw [codeAgent.prompt_eq hvalues]
  change codeTemplate.render _ = _
  rw [render_closing _ codeTemplate_user wellNamed_codePieces, hvalue, Except.map]
  congr 1
  rw [← String.toList_inj]
  simp

/-- A template is called with any variables but one that goes by the name of the template itself. -/
theorem prompts_verbatim (hps : t.user = written ps)
    (hnames : ∀ name, .field name ∈ ps → IsFieldName name) (vars : Entries String) :
    (vars.get? Template.ownName ≠ none → t.call vars = .error .takenName) ∧
    (vars.get? Template.ownName = none →
      (Provides vars ps →
        t.call vars = .ok (String.ofList (ps.flatMap (Piece.filled vars)) ++ t.closing)) ∧
      ((∃ missing, t.call vars = .error (.fault (.missingVariable missing))) ↔
        ∃ name, .field name ∈ ps ∧ vars.get? name = none)) ∧
    (∀ failure, Quotes fun source => declarationsAgent.prompt { source, failure }) ∧
    (∀ failure, Quotes fun source => viewAgent.prompt { source, failure }) ∧
    ∀ target unitName unitType failure,
      Quotes fun source => codeAgent.prompt { source, target, unitName, unitType, failure } := by
  refine ⟨fun htaken => ?_, fun hfree => ⟨call_provided hps hnames hfree,
    call_missing_iff hps hnames hfree⟩, quotes_agent (fun _ => rfl) declarationsTemplate_user,
    quotes_agent (fun _ => rfl) viewTemplate_user, quotes_codeRequest⟩
  rw [Template.call, if_pos (Option.isSome_iff_ne_none.2 htaken)]

def quoting : List Piece := [.literal "Read \x7bthis\x7d: ".toList, .field "content"]

def ofPieces (ps : List Piece) : Template where
  id := "quoting"
  version := "1.0.0"
  system := ""
  user := written ps
  format := "Reply with \x7b\x7d"

theorem prompts_verbatim_braces :
    (∀ name, .field name ∈ quoting → IsFieldName name) ∧
    Provides [("content", "\x7bx\x7d \x7b\x7b")] quoting ∧
    (ofPieces quoting).call [("content", "\x7bx\x7d \x7b\x7b")] =
      .ok "Read \x7bthis\x7d: \x7bx\x7d \x7b\x7b\n\nReply with \x7b\x7d" := by
  have honly {name : String} (h : .field name ∈ quoting) : name = "content" := by
    simpa [quoting] using h
  have hnames : ∀ name, .field name ∈ quoting → IsFieldName name := by
    intro name h
    rw [honly h]
    exact ⟨⟨'c', rfl, by decide⟩, by decide⟩
  have hprovides : Provides [("content", "\x7bx\x7d \x7b\x7b")] quoting := by
    intro name h
    rw [honly h]
    exact ⟨_, rfl⟩
  refine ⟨hnames, hprovides, ?_⟩
  rw [((prompts_verbatim (t := ofPieces quoting) rfl hnames _).2.1 rfl).1 hprovides]
  rfl

theorem call_ownName :
    IsFieldName Template.ownName ∧
    Provides [(Template.ownName, "Swift")] [.field Template.ownName] ∧
    (ofPieces [.field Template.ownName]).call [(Template.ownName, "Swift")] = .error .takenName := by
  refine ⟨⟨⟨'s', rfl, by decide⟩, by decide⟩, ?_, rfl⟩
  intro name h
  obtain rfl : name = Template.ownName := by simpa using h
  exact ⟨"Swift", rfl⟩

end TestScaffold.Prompt
