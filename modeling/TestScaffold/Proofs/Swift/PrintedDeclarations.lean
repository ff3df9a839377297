import TestScaffold.Proofs.Extraction.Units
import TestScaffold.Proofs.Swift.MemberPasses

namespace TestScaffold.Swift

open Text Pattern

def staticWords (isStatic : Bool) : List String := if isStatic then ["static"] else []

theorem staticMark_eq (isStatic : Bool) : staticMark isStatic = spaced (staticWords isStatic) := by
  cases isStatic <;> rfl

section

variable {isStatic isAsync isThrowing : Bool} {name : Identifier} {o : Nat}

theorem mem_effectNames {w : String} (h : w ∈ effectWords isAsync isThrowing) :
    w ∈ Grammar.effectNames := by
  revert w
  cases isAsync <;> cases isThrowing <;> decide

theorem fact_function {p : ParameterText} {t : Option ReturnText} :
    factOfDeclaration
        { kind := .function, name := String.ofList name.text, start := o,
          qualifiers := staticWords isStatic, effects := effectWords isAsync isThrowing,
          declaredType := t.map fun t => String.ofList t.text, parameters := strippedText? p.text } =
      { Member.fact ⟨isStatic, name, .function p isAsync isThrowing t⟩ with position := o } := by
  simp only [factOfDeclaration, Declaration.isStatic, strippedText?_eq, Member.fact]
  cases isStatic <;> simp [staticWords]

theorem fact_property {u : TypeWord} :
    factOfDeclaration
        { kind := .property, name := String.ofList name.text, start := o,
          qualifiers := staticWords isStatic, declaredType := some (String.ofList u.text) } =
      { Member.fact ⟨isStatic, name, .property u⟩ with position := o } := by
  simp only [factOfDeclaration, Declaration.isStatic, Member.fact]
  cases isStatic <;> simp [staticWords]

end

def functionFact (m : Found Slot) : Fact := factOfDeclaration (functionOf m)

def propertyFact (m : Found Slot) : Fact := factOfDeclaration (propertyOf m)

def isFunction (f : Fact) : Bool := f.kind == .function

namespace Member

variable {o : Nat} {r : List Char}

theorem position_eq (m : Member) : o + (staticMark m.isStatic).length +
    m.form.keyword.toList.length + 1 = o + m.front.length := by
  simp only [front, List.length_append, List.length_cons, List.length_nil]
  omega

theorem scans_function (m : Member) : Grammar.function.Scans functionFact (some '\n') o m.line r
    ([m.factAt o].filter isFunction) := by
  obtain ⟨isStatic, name, form⟩ := m
  cases form with
  | property u => exact (silent_function rfl).scans
  | function p isAsync isThrowing t =>
    let head := Grammar.functionHead (staticWords isStatic) name p.text
      (effectWords isAsync isThrowing) t
    have hline : line ⟨isStatic, name, .function p isAsync isThrowing t⟩ = head ++ ['\x7d', '\n'] := by
      rw [line_function rfl]
      simp [front, Form.keyword, head, Grammar.functionHead, signature, staticMark_eq, spaced]
    have hqs : ∀ q ∈ staticWords isStatic, q ∈ Grammar.functionQualifiers := by
      cases isStatic <;> decide
    have heffects : ∀ w ∈ effectWords isAsync isThrowing, w ∈ Grammar.effectNames := fun w =>
      mem_effectNames
    have hfound : Grammar.function.Scans functionFact (some '\n') o head (['\x7d', '\n'] ++ r)
        [factAt o ⟨isStatic, name, .function p isAsync isThrowing t⟩] := by
      have hscan := (scans_functionHead (b := some '\n') (o := o) (r := ['\x7d', '\n'] ++ r) hqs name
        p.shallow heffects t (by decide)).map factOfDeclaration
      rw [List.map_singleton, fact_function, ← staticMark_eq] at hscan
      rw [factAt, ← position_eq]
      exact hscan
    rw [hline]
    exact hfound.append (Grammar.introduces_function.silent_noSmall (by decide)).scans

theorem scans_property (m : Member) : Grammar.property.Scans propertyFact (some '\n') o m.line r
    ([m.factAt o].filter (!isFunction ·)) := by
  obtain ⟨isStatic, name, form⟩ := m
  cases form with
  | function p isAsync isThrowing t => exact (silent_property rfl).scans
  | property u =>
    let head := Grammar.propertyHead (staticWords isStatic) name u
    have hline : line ⟨isStatic, name, .property u⟩ = head ++ ['\n'] := by
      rw [line_property rfl]
      simp [front, Form.keyword, head, Grammar.propertyHead, staticMark_eq]
    have hqs : ∀ q ∈ staticWords isStatic, q ∈ Grammar.propertyQualifiers := by
      cases isStatic <;> decide
    have hfound : Grammar.property.Scans propertyFact (some '\n') o head (['\n'] ++ r)
        [factAt o ⟨isStatic, name, .property u⟩] := by
      have hscan := (scans_propertyHead (b := some '\n') (o := o) (r := r) hqs name u
        (by decide)).map factOfDeclaration
      rw [List.map_singleton, fact_property, ← staticMark_eq] at hscan
      rw [factAt, ← position_eq]
      exact hscan
    rw [hline]
    exact hfound.append (Grammar.introduces_property.silent_noSmall (by decide)).scans

end Member

def typeHead (t : TypeIdentifier) : List Char := "struct ".toList ++ (t.text ++ " \x7b\n".toList)

def printedDeclarations (t : TypeIdentifier) (ms : List Member) : List Char :=
  typeHead t ++ (ms.flatMap Member.line ++ ['\x7d'])

def memberFacts (o : Nat) (ms : List Member) : List Fact :=
  placed Member.line (fun o m => [m.factAt o]) o ms

variable {t : TypeIdentifier} {ms : List Member} {p : Grammar} {keywords : List (List Char)}

theorem Introduces.silent_typeHead {r : List Char} (h : Introduces keywords p)
    (hw : ∀ w ∈ keywords, IsSmallWord w ∧ w ≠ "struct".toList) : p.Silent none (typeHead t) r := by
  have hstands : ∀ w ∈ keywords, ¬ Stands w ("struct".toList ++ ' ' :: (t.text ++ [' '])) := by
    rintro w hmem
    obtain ⟨hsmall, hne⟩ := hw w hmem
    have hcapital : w ≠ t.text := by
      rintro rfl
      have hfirst := t.not_small t.first rfl
      simp [hsmall.2 t.first List.mem_cons_self] at hfirst
    exact not_stands_word hsmall.isWordText (by decide) (by decide) (.inl hne) <|
      not_stands_word hsmall.isWordText (by decide) t.isWordText.2 (.inl hcapital)
        (not_stands_of_word (by simp))
  have hhead : typeHead t = ("struct".toList ++ ' ' :: (t.text ++ [' '])) ++ ['\x7b', '\n'] := by
    unfold typeHead
    rw [List.append_assoc, List.cons_append, List.append_assoc]
    rfl
  rw [hhead]
  exact (h.silent_front hstands (fun w hmem => (hw w hmem).1) (by decide)).append
    (h.silent_noSmall (by decide))

theorem getLast?_typeHead : (typeHead t).getLast? = some '\n' := by
  unfold typeHead
  rw [List.getLast?_append, List.getLast?_append]
  rfl

theorem Member.getLast?_line (m : Member) : m.line.getLast? = some '\n' := by
  simp [line]

theorem scan_printedDeclarations {f : Found Slot → Fact} {q : Fact → Bool} (t : TypeIdentifier)
    (ms : List Member) (h : Introduces keywords p) (hw : ∀ w ∈ keywords, IsSmallWord w ∧ w ≠ "struct".toList)
    (hlines : ∀ m o r, p.Scans f (some '\n') o (Member.line m) r ([m.factAt o].filter q)) :
    (p.scan (printedDeclarations t ms)).map f = (memberFacts (typeHead t).length ms).filter q := by
  have hmembers : p.Scans f (some '\n') (typeHead t).length (ms.flatMap Member.line) ['\x7d']
      ((memberFacts (typeHead t).length ms).filter q) := by
    rw [memberFacts, ← placed_filter]
    exact scans_lines Member.getLast?_line (fun m ls o => hlines m o _) _ ms
  have hend : p.Silent ((ms.flatMap Member.line).getLast?.or (some '\n')) ['\x7d'] [] :=
    h.silent_noSmall (by decide)
  have hlines : p.Scans f (some '\n') (0 + (typeHead t).length)
      (ms.flatMap Member.line ++ ['\x7d']) [] ((memberFacts (typeHead t).length ms).filter q) := by
    rw [Nat.zero_add]
    simpa using hmembers.append hend.scans
  have hhead : p.Scans f none 0 (typeHead t) (ms.flatMap Member.line ++ ['\x7d'] ++ []) [] :=
    (h.silent_typeHead hw).scans
  -- Nothing starts in the head, nor at the end of the text.
  rw [printedDeclarations]
  refine (hhead.append ?_).scan (h.ways_eq_nil fun hs => ?_)
  · rw [getLast?_typeHead]
    exact hlines
  · obtain ⟨c, hc, -⟩ := hs.small
    simp at hc

theorem position_memberFacts {o : Nat} {f : Fact} (hf : f ∈ memberFacts o ms) : (o : Int) ≤ f.position := by
  induction ms generalizing o with
  | nil => simp [memberFacts, placed] at hf
  | cons m ms ih =>
    rw [memberFacts, placed, List.singleton_append] at hf
    rcases List.mem_cons.1 hf with rfl | hf
    · simp only [Member.factAt]
      omega
    · have hle := ih hf
      omega

theorem ordered_memberFacts (o : Nat) (ms : List Member) : Ordered (memberFacts o ms) := by
  refine ⟨?_, fun f hf => ?_⟩
  · induction ms generalizing o with
    | nil => exact List.Pairwise.nil
    | cons m ms ih =>
      rw [memberFacts, placed, List.singleton_append]
      refine List.Pairwise.cons (fun f hf => ?_) (ih _)
      have hle := position_memberFacts hf
      have hline : m.front.length < m.line.length := by
        simp only [Member.line, List.length_append, List.length_cons]
        omega
      simp only [Member.factAt]
      omega
  · have hle := position_memberFacts hf
    omega

theorem isDeclaration_memberFacts {o : Nat} {f : Fact} (hf : f ∈ memberFacts o ms) :
    f.kind.isDeclaration = true := by
  induction ms generalizing o with
  | nil => simp [memberFacts, placed] at hf
  | cons m ms ih =>
    rw [memberFacts, placed, List.singleton_append] at hf
    rcases List.mem_cons.1 hf with rfl | hf
    · obtain ⟨isStatic, name, form⟩ := m
      cases form <;> rfl
    · exact ih hf

def unplaced (f : Fact) : Fact := { f with position := -1 }

theorem unplaced_memberFacts (o : Nat) (ms : List Member) :
    (memberFacts o ms).map unplaced = ms.map Member.fact := by
  have hfact (m : Member) (o : Nat) : unplaced (m.factAt o) = m.fact := by
    obtain ⟨isStatic, name, form⟩ := m
    cases form <;> rfl
  rw [memberFacts, map_placed]
  simp only [List.map_singleton, hfact]
  rw [placed_eq_flatMap, List.map_eq_flatMap]

theorem declarationFacts_printedDeclarations : declarationFacts (printedDeclarations t ms) =
    firstOfEachName [] ((memberFacts (typeHead t).length ms).filter isFunction) ++
      firstOfEachName [] ((memberFacts (typeHead t).length ms).filter (!isFunction ·)) := by
  have hfunctions := scan_printedDeclarations t ms Grammar.introduces_function
    (by decide) fun m o r => m.scans_function
  have hproperties := scan_printedDeclarations t ms Grammar.introduces_property
    (by decide) fun m o r => m.scans_property
  rw [declarationFacts, declarationPass, declarationPass, functions, properties, List.map_map,
    List.map_map]
  exact congrArg₂ (fun fs gs => firstOfEachName [] fs ++ firstOfEachName [] gs) hfunctions hproperties

theorem Grammar.prefers_typeDeclaration {o : Nat} {r : List Char}
    (hr : ∀ c ∈ r.head?, isNameChar c = false) :
    Grammar.typeDeclaration.Prefers ⟨none, o, "struct".toList ++ ' ' :: (t.text ++ r), []⟩
      ⟨t.text.getLast?.or (some ' '), o + "struct".toList.length + 1 + t.text.length, r,
        [(.name, ⟨o + "struct".toList.length + 1, t.text ++ r, t.text.length⟩)]⟩ := by
  have hunique : ∀ v ∈ ["class", "struct", "enum", "actor", "extension"], v ≠ "struct" →
      v.toList.isPrefixOf ("struct".toList ++ ' ' :: (t.text ++ r)) = false := by
    simp [List.isPrefixOf]
  have hcapital : ('A' ≤ t.first && t.first ≤ 'Z') = true := by
    simp [t.capital.1, t.capital.2]
  have hname {b : Option Char} {o : Nat} {k : List (Slot × Stretch)} :
      (all [.capture Slot.name
        (.seq (.one fun c => 'A' ≤ c && c ≤ 'Z') (Pattern.star (.one isNameChar)))]).Prefers
        ⟨b, o, t.text ++ r, k⟩
        ⟨t.text.getLast?.or b, o + t.text.length, r, (.name, ⟨o, t.text ++ r, t.text.length⟩) :: k⟩ := by
    refine Prefers.capture ?_ rfl Slot.name
    rw [Identifier.text, last_cons, add_length_cons]
    exact (prefers_one hcapital).seq (prefers_run t.rest_ok hr)
  exact (prefers_wordEdge (by decide) (by decide)).cons <| (prefers_any_lit (by simp) hunique).cons <|
    (prefers_someSpace (t.not_isBlank_head? r)).cons hname

theorem typeNames_printedDeclarations :
    (typeNames (printedDeclarations t ms)).head? = some (String.ofList t.text) := by
  have htext : printedDeclarations t ms = ("struct".toList ++ ' ' :: t.text) ++
      (' ' :: '\x7b' :: '\n' :: (ms.flatMap Member.line ++ ['\x7d'])) := by
    unfold printedDeclarations typeHead
    rw [List.append_assoc, List.append_assoc, List.append_assoc]
    rfl
  have hp := Grammar.prefers_typeDeclaration (t := t) (o := 0)
    (r := ' ' :: '\x7b' :: '\n' :: (ms.flatMap Member.line ++ ['\x7d'])) (by simp; decide)
  have hscan := Prefers.scans (f := fun m => m.string Slot.name) (u := "struct".toList ++ ' ' :: t.text)
    (by simp) (by simpa using hp) (by simp; omega)
  unfold Scans at hscan
  rw [typeNames, scan, htext, hscan, List.head?_append, List.head?_cons, Found.string_eq rfl]
  rfl

theorem blankText_printedDeclarations :
    blankText (String.ofList (printedDeclarations t ms)) = false := by
  rw [blankText, String.toList_ofList]
  rfl

theorem buildDeclarations_printedDeclarations (window : Int) (t : TypeIdentifier) (ms : List Member) :
    let source := String.ofList (printedDeclarations t ms)
    ∃ facts, extract window .declarations source = .ok facts ∧
      (buildDeclarations facts (some source)).typeName = some (String.ofList t.text) ∧
      (buildDeclarations facts (some source)).units.map unplaced =
        (ms.map Member.fact).eraseDupsBy (·.name == ·.name) := by
  intro source
  let facts := memberFacts (typeHead t).length ms
  have hextract : extract window .declarations source =
      .ok (firstOfEachName [] (facts.filter isFunction) ++
        firstOfEachName [] (facts.filter (!isFunction ·))) := by
    rw [extract, requireText, blankText_printedDeclarations]
    simp only [source, String.toList_ofList, declarationFacts_printedDeclarations]
    rfl
  have hkinds : (firstOfEachName [] (facts.filter isFunction) ++
      firstOfEachName [] (facts.filter (!isFunction ·))).filter (·.kind.isDeclaration) =
        firstOfEachName [] (facts.filter isFunction) ++
          firstOfEachName [] (facts.filter (!isFunction ·)) := by
    refine List.filter_eq_self.2 fun f hf => ?_
    rcases List.mem_append.1 hf with hf | hf
    · exact isDeclaration_memberFacts (List.mem_filter.1 (firstOfEachName_sublist.subset hf)).1
    · exact isDeclaration_memberFacts (List.mem_filter.1 (firstOfEachName_sublist.subset hf)).1
  refine ⟨_, hextract, ?_, ?_⟩
  · simp only [buildDeclarations, source, Option.bind_some, String.toList_ofList,
      typeNames_printedDeclarations]
  · rw [buildDeclarations]
    simp only
    rw [hkinds, (ordered_memberFacts _ ms).firstOfEachName_merge,
      firstOfEachName_map (g := unplaced) fun _ => rfl, unplaced_memberFacts, firstOfEachName_eq]
    simp

end TestScaffold.Swift
