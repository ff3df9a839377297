import TestScaffold.Prompt.Requests

namespace TestScaffold.Prompt

variable {vars : Entries String} {rest : List Char} {r : Except TemplateError (List Char)}

def Piece.value (vars : Entries String) : Piece → Except TemplateError (List Char)
  | .literal text => .ok text
  | .field name =>
    match vars.get? name with
    | some v => .ok v.toList
    | none => .error (.missingVariable name)

def Piece.WellNamed : Piece → Prop
  | .literal _ => True
  | .field name =>
    nameFault? name.toList = none ∧ '\x7b' ∉ name.toList ∧ '\x7d' ∉ name.toList

def valueOf (vars : Entries String) : List Piece → Except TemplateError (List Char)
  | [] => .ok []
  | p :: ps => (p.value vars).bind fun v => (valueOf vars ps).map (v ++ ·)

theorem fill_literal (text : List Char)
    (h : ∀ fuel, rest.length ≤ fuel → fill vars fuel rest = r) (fuel : Nat)
    (hf : (writeLiteral text ++ rest).length ≤ fuel) :
    fill vars fuel (writeLiteral text ++ rest) = r.map (text ++ ·) := by
  induction text generalizing fuel with
  | nil =>
    have hr := h fuel (by simpa [writeLiteral] using hf)
    cases r <;> simpa [writeLiteral, Except.map] using hr
  | cons c text ih =>
    have hstep (n : Nat) (hn : (writeLiteral text ++ rest).length ≤ n) :
        (fill vars n (writeLiteral text ++ rest)).map (c :: ·) = r.map (c :: text ++ ·) := by
      rw [ih n hn]
      cases r <;> rfl
    obtain ⟨n, rfl⟩ : ∃ n, fuel = n + 1 := by
      have : 0 < (writeLiteral (c :: text) ++ rest).length := by
        simp only [writeLiteral, List.flatMap_cons]
        split <;> simp
      exact ⟨fuel - 1, by omega⟩
    by_cases ho : c = '\x7b'
    · subst ho
      have hw : writeLiteral ('\x7b' :: text) ++ rest =
          '\x7b' :: '\x7b' :: (writeLiteral text ++ rest) := by simp [writeLiteral]
      rw [hw] at hf ⊢
      simp only [List.length_cons] at hf
      simpa [fill] using hstep n (by omega)
    by_cases hc : c = '\x7d'
    · subst hc
      have hw : writeLiteral ('\x7d' :: text) ++ rest =
          '\x7d' :: '\x7d' :: (writeLiteral text ++ rest) := by simp [writeLiteral]
      rw [hw] at hf ⊢
      simp only [List.length_cons] at hf
      simpa [fill] using hstep n (by omega)
    · have hw : writeLiteral (c :: text) ++ rest = c :: (writeLiteral text ++ rest) := by
        simp [writeLiteral, ho, hc]
      rw [hw] at hf ⊢
      simp only [List.length_cons] at hf
      simpa [fill, ho, hc] using hstep n (by omega)

theorem fill_field {name : String} (hn : (Piece.field name).WellNamed)
    (h : ∀ fuel, rest.length ≤ fuel → fill vars fuel rest = r) (fuel : Nat)
    (hf : ((Piece.field name).write ++ rest).length ≤ fuel) :
    fill vars fuel ((Piece.field name).write ++ rest) =
      ((Piece.field name).value vars).bind fun v => r.map (v ++ ·) := by
  obtain ⟨hfault, ho, hc⟩ := hn
  obtain ⟨n, rfl⟩ : ∃ n, fuel = n + 1 := by
    simp only [Piece.write, List.length_append, List.length_cons] at hf
    exact ⟨fuel - 1, by omega⟩
  have hw : (Piece.field name).write ++ rest = '\x7b' :: (name.toList ++ '\x7d' :: rest) := by
    simp [Piece.write]
  rw [hw] at hf ⊢
  have htake : (name.toList ++ '\x7d' :: rest).takeWhile (· != '\x7d') = name.toList := by
    rw [List.takeWhile_append_of_pos]
    · simp
    · intro c hcn
      simpa using fun e : c = '\x7d' => hc (e ▸ hcn)
  have hr := h n (by simp at hf; omega)
  have hhead (tail : List Char) : name.toList ++ '\x7d' :: rest ≠ '\x7b' :: tail := by
    intro he
    cases hname : name.toList with
    | nil => simp [hname] at he
    | cons d ds =>
      rw [hname, List.cons_append, List.cons.injEq] at he
      exact ho (by simp [hname, he.1])
  unfold fill
  rw [if_pos (by simp)]
  split
  · next tail he => exact absurd he (hhead tail)
  · simp only [htake, List.drop_left, hfault, String.ofList_toList, hr, Piece.value]
    rw [if_neg (by simpa using ho)]
    cases vars.get? name <;> rfl

theorem fill_write {ps : List Piece} (h : ∀ p ∈ ps, p.WellNamed) (fuel : Nat)
    (hf : (ps.flatMap Piece.write).length ≤ fuel) :
    fill vars fuel (ps.flatMap Piece.write) = valueOf vars ps := by
  induction ps generalizing fuel with
  | nil => cases fuel <;> rfl
  | cons p ps ih =>
    have hps := ih fun q hq => h q (List.mem_cons_of_mem p hq)
    rw [List.flatMap_cons] at hf ⊢
    cases p with
    | literal text => exact fill_literal text hps fuel hf
    | field name => exact fill_field (h _ List.mem_cons_self) hps fuel hf

theorem fillText_write {template : String} {ps : List Piece} (vars : Entries String)
    (ht : template.toList = ps.flatMap Piece.write) (h : ∀ p ∈ ps, p.WellNamed) :
    fillText template vars = (valueOf vars ps).map String.ofList := by
  have hl : (ps.flatMap Piece.write).length ≤ template.length := by
    rw [← ht]
    exact Nat.le_of_eq String.length_toList
  rw [fillText, ht, fill_write h _ hl]

def sourcePieces (t : Template) : List Piece :=
  [.literal (t.user.toList.takeWhile (· != '\x7b')), .field "failure",
   .literal "\n\n```swift\n".toList, .field "source", .literal "\n```".toList]

def codePieces : List Piece :=
  [.field "instructions", .literal "\n\nLocal analysis result: ".toList, .field "failure",
   .literal "\n\nSwift code:\n```swift\n".toList, .field "source", .literal "\n```".toList]

def bodyPieces : List Piece :=
  [.literal "Generate a test for this function or property: ".toList, .field "unit_name",
   .literal ", and this is the type: ".toList, .field "unit_type",
   .literal
    (".\nReturn only the statements of the test method body, without the func declaration.").toList]

theorem toList_text (lines : List String) :
    (text lines).toList = ['\n'].intercalate (lines.map String.toList) := by
  rw [text, String.toList_intercalate]
  simp

theorem declarationsTemplate_user :
    declarationsTemplate.user.toList = (sourcePieces declarationsTemplate).flatMap Piece.write := by
  simp only [sourcePieces, declarationsTemplate, toList_text, List.map_cons, List.map_nil,
    String.toList_append]
  decide +kernel

theorem viewTemplate_user :
    viewTemplate.user.toList = (sourcePieces viewTemplate).flatMap Piece.write := by
  simp only [sourcePieces, viewTemplate, toList_text, List.map_cons, List.map_nil,
    String.toList_append]
  decide +kernel

theorem codeTemplate_user : codeTemplate.user.toList = codePieces.flatMap Piece.write := by
  simp only [codePieces, codeTemplate, toList_text, List.map_cons, List.map_nil]
  decide +kernel

theorem toList_bodyInstructions : bodyInstructions.toList = bodyPieces.flatMap Piece.write := by
  simp only [bodyPieces, bodyInstructions, toList_text, List.map_cons, List.map_nil,
    String.toList_append]
  decide +kernel

theorem wellNamed_bodyPieces : ∀ p ∈ bodyPieces, p.WellNamed := by
  simp only [bodyPieces, List.forall_mem_cons, Piece.WellNamed, List.not_mem_nil,
    false_implies, implies_true, and_true, true_and]
  decide +kernel

theorem wellNamed_sourcePieces (t : Template) : ∀ p ∈ sourcePieces t, p.WellNamed := by
  simp only [sourcePieces, List.forall_mem_cons, Piece.WellNamed, List.not_mem_nil,
    false_implies, implies_true, and_true, true_and]
  decide +kernel

theorem wellNamed_codePieces : ∀ p ∈ codePieces, p.WellNamed := by
  simp only [codePieces, List.forall_mem_cons, Piece.WellNamed, List.not_mem_nil,
    false_implies, implies_true, and_true, true_and]
  decide +kernel

theorem render_eq {t : Template} {ps : List Piece} (vars : Entries String)
    (ht : t.user.toList = ps.flatMap Piece.write) (h : ∀ p ∈ ps, p.WellNamed) :
    t.render vars = (valueOf vars ps).map fun v =>
      if t.format.isEmpty then String.ofList v else String.ofList v ++ "\n\n" ++ t.format := by
  rw [Template.render, fillText_write vars ht h]
  cases valueOf vars ps <;> rfl

theorem render_sourceRequest {t : Template} (nothing : String) (q : SourceRequest)
    (ht : t.user.toList = (sourcePieces t).flatMap Piece.write) :
    ∃ prompt, t.render (q.values nothing) = .ok prompt := by
  rw [render_eq _ ht (wellNamed_sourcePieces t)]
  exact ⟨_, rfl⟩

theorem instructions_codeRequest (q : CodeRequest) :
    ∃ instructions, q.instructions = .ok instructions := by
  unfold CodeRequest.instructions
  cases q.target with
  | interface => exact ⟨_, rfl⟩
  | unitBody =>
    rw [fillText_write _ toList_bodyInstructions wellNamed_bodyPieces]
    exact ⟨_, rfl⟩

theorem render_codeRequest (q : CodeRequest) :
    ∃ prompt, q.values.bind codeTemplate.render = .ok prompt := by
  obtain ⟨instructions, h⟩ := instructions_codeRequest q
  rw [CodeRequest.values, h]
  change ∃ prompt, codeTemplate.render _ = .ok prompt
  rw [render_eq _ codeTemplate_user wellNamed_codePieces]
  exact ⟨_, rfl⟩

end TestScaffold.Prompt
