import TestScaffold.Proofs.Extraction.Merging
import TestScaffold.Proofs.Render.Sections
import TestScaffold.Render.UnitTests

namespace TestScaffold.Text

theorem upperChar_of_isNameChar {c : Char} (h : isNameChar c = true) :
    upperChar c = [c.toUpper] ∧ isNameChar c.toUpper = true :=
  forall_ascii (P := fun c => isNameChar c = true → upperChar c = [c.toUpper] ∧ isNameChar c.toUpper = true)
    (by decide +kernel) (toNat_lt_of_isNameChar h) h

theorem toUpper_cases {c : Char} (h : isNameChar c = true) :
    c.toUpper = c ∨ (c.toUpper ≠ c ∧ c.toUpper.toLower = c) :=
  forall_ascii (P := fun c => c.toUpper = c ∨ (c.toUpper ≠ c ∧ c.toUpper.toLower = c))
    (by decide +kernel) (toNat_lt_of_isNameChar h)

end TestScaffold.Text

namespace TestScaffold.Render

open Text Swift

variable {x y : String} {u : Fact} {l : String} {ls rest : List String}

/-- Names that differ in the case of their first letter alone. -/
def Clash (x y : String) : Prop :=
  ∃ c rest, x.toList = c :: rest ∧ y.toList = c.toUpper :: rest ∧ c.toUpper ≠ c

theorem toList_capitalizeFirst {c : Char} {cs : List Char} (hx : x.toList = c :: cs)
    (hc : isNameChar c = true) : (capitalizeFirst x).toList = c.toUpper :: cs := by
  simp [capitalizeFirst, hx, (upperChar_of_isNameChar hc).1]

theorem isName_capitalizeFirst (hx : IsName x) : IsName (capitalizeFirst x) := by
  obtain ⟨c, cs, hcs, hc⟩ := hx.head
  have htext := toList_capitalizeFirst hcs hc
  refine ⟨fun hnil => by simp [hnil] at htext, ?_⟩
  rw [htext, List.forall_mem_cons]
  refine ⟨(upperChar_of_isNameChar hc).2, fun d hd => hx.2 d ?_⟩
  rw [hcs]
  exact List.mem_cons_of_mem c hd

theorem toUpper_toUpper {c : Char} (h : isNameChar c = true) : c.toUpper.toUpper = c.toUpper :=
  forall_ascii (P := fun c => c.toUpper.toUpper = c.toUpper) (by decide +kernel)
    (toNat_lt_of_isNameChar h)

theorem capitalizeFirst_eq_iff (hx : IsName x) (hy : IsName y) :
    capitalizeFirst x = capitalizeFirst y ↔ x = y ∨ Clash x y ∨ Clash y x := by
  obtain ⟨c, cs, hcs, hc⟩ := hx.head
  obtain ⟨d, ds, hds, hd⟩ := hy.head
  rw [← String.toList_inj, toList_capitalizeFirst hcs hc, toList_capitalizeFirst hds hd,
    ← String.toList_inj, hcs, hds]
  constructor
  · intro h
    obtain ⟨hupper, rfl⟩ := List.cons.inj h
    rcases toUpper_cases hc with hc' | ⟨hc', hcl⟩ <;> rcases toUpper_cases hd with hd' | ⟨hd', hdl⟩
    · exact .inl (by rw [← hc', ← hd', hupper])
    · exact .inr (.inr ⟨d, cs, hds, by rw [hcs, ← hupper, hc'], hd'⟩)
    · exact .inr (.inl ⟨c, cs, hcs, by rw [hds, hupper, hd'], hc'⟩)
    · exact .inl (by rw [← hcl, ← hdl, hupper])
  · rintro (h | ⟨e, rest, hx, hy, -⟩ | ⟨e, rest, hy, hx, -⟩)
    · obtain ⟨rfl, rfl⟩ := List.cons.inj h
      rfl
    · obtain ⟨rfl, rfl⟩ := List.cons.inj (hcs.symm.trans hx)
      obtain ⟨rfl, rfl⟩ := List.cons.inj (hds.symm.trans hy)
      rw [toUpper_toUpper hc]
    · obtain ⟨rfl, rfl⟩ := List.cons.inj (hcs.symm.trans hx)
      obtain ⟨rfl, rfl⟩ := List.cons.inj (hds.symm.trans hy)
      rw [toUpper_toUpper hd]

theorem nodup_testNames_iff {us : List Fact} (hnames : ∀ u ∈ us, IsName u.name)
    (hnodup : (us.map (·.name)).Nodup) :
    (us.map testName).Nodup ↔ ∀ u ∈ us, ∀ v ∈ us, ¬ Clash u.name v.name := by
  have htest {u v : Fact} (hu : u ∈ us) (hv : v ∈ us) : testName u = testName v ↔
      u.name = v.name ∨ Clash u.name v.name ∨ Clash v.name u.name := by
    rw [← capitalizeFirst_eq_iff (hnames u hu) (hnames v hv)]
    simp [testName]
  constructor
  · rintro h u hu v hv hclash
    have heq := List.inj_on_of_nodup_map h hu hv ((htest hu hv).2 (.inr (.inl hclash)))
    obtain ⟨c, rest, hx, hy, hne⟩ := hclash
    rw [heq] at hx
    exact hne (List.cons.inj (hx.symm.trans hy)).1.symm
  · intro h
    refine (List.nodup_map_iff_inj_on (List.Nodup.of_map _ hnodup)).2 fun u hu v hv heq => ?_
    rcases (htest hu hv).1 heq with hname | hclash | hclash
    · exact List.inj_on_of_nodup_map hnodup hu hv hname
    · exact absurd hclash (h u hu v hv)
    · exact absurd hclash (h v hv u hu)

theorem functionName?_of_blankText (h : blankText l = true) : functionName? l = none := by
  rw [functionName?, if_neg]
  intro hprefix
  obtain ⟨w, hw⟩ := List.isPrefixOf_iff_prefix.1 hprefix
  have hf : isBlank 'f' = true := List.all_eq_true.1 h 'f' (by rw [← hw]; simp)
  revert hf
  decide

def insideTest (subject : String) (body? : Option String) (u : Fact) : List String :=
  match body? with
  | some body => bodyLines body
  | none => (statements subject u).map (indented 2)

theorem unitTest_eq (subject : String) (body? : Option String) (u : Fact) :
    unitTest subject body? u = indented 1 (signature u body?.isSome) ::
      (insideTest subject body? u ++ [indented 1 "\x7d"]) := by
  cases body? <;> rfl

theorem functionName?_insideTest {subject : String} {body? : Option String}
    (h : l ∈ insideTest subject body? u) : functionName? l = none := by
  cases body? with
  | none =>
    obtain ⟨x, -, rfl⟩ := List.mem_map.1 h
    exact (deep_indented x).functionName?
  | some body =>
    obtain ⟨x, -, rfl⟩ := List.mem_map.1 h
    unfold indentedUnlessBlank
    split
    · exact functionName?_of_blankText ‹_›
    · exact (deep_indented _).functionName?

theorem functionName?_signature (h : IsName u.name) (given : Bool) :
    functionName? (indented 1 (signature u given)) = some (testName u) := by
  have hparen : '(' ∉ (testName u).toList := by
    rw [testName, String.toList_append, List.mem_append]
    rintro (hmem | hmem)
    · revert hmem
      decide
    · have hname := (isName_capitalizeFirst h).2 '(' hmem
      revert hname
      decide
  have hline : signature u given = "func " ++ (testName u ++ ("(" ++
      (")" ++ (if u.isAsync then " async" else "") ++ (if u.isThrowing || given then " throws" else "") ++
        " \x7b"))) := by
    have hcall : "()" = "(" ++ ")" := rfl
    simp only [signature, hcall, String.append_assoc]
  rw [hline, functionName?_call hparen]

theorem functionsOf_unitTest {subject : String} {body? : Option String} (h : IsName u.name) :
    (functionsOf ("" :: unitTest subject body? u ++ rest)).map (·.1) =
      testName u :: (functionsOf rest).map (·.1) := by
  have hlines : "" :: unitTest subject body? u ++ rest = [""] ++ indented 1 (signature u body?.isSome) ::
      ((insideTest subject body? u ++ [indented 1 "\x7d"]) ++ rest) := by
    rw [unitTest_eq]
    rfl
  have hinside : ∀ l ∈ insideTest subject body? u ++ [indented 1 "\x7d"], functionName? l = none := by
    intro l hl
    rcases List.mem_append.1 hl with hl | hl
    · exact functionName?_insideTest hl
    · obtain rfl := List.mem_singleton.1 hl
      decide
  rw [hlines, functionsOf_skip (by decide), functionsOf, functionName?_signature h]
  simp only [List.map_cons, functionsOf_skip hinside]

theorem functionsOf_unitTests {subject : String} {bodies : Entries String} {us : List Fact}
    (h : ∀ u ∈ us, IsName u.name) :
    (functionsOf (us.flatMap (fun u => "" :: unitTest subject (bodies.get? u.name) u) ++ rest)).map (·.1) =
      us.map testName ++ (functionsOf rest).map (·.1) := by
  induction us with
  | nil => rfl
  | cons u us ih =>
    rw [List.forall_mem_cons] at h
    rw [List.flatMap_cons, List.append_assoc, functionsOf_unitTest h.1, ih h.2]
    rfl

theorem functionName?_fixture {subject : String} : ∀ l ∈ fixture subject, functionName? l = none := by
  have hvar : functionName? (indented 1 ("var sut: " ++ subject ++ "!")) = none := by
    rw [functionName?, toList_indented]
    simp
  simp only [fixture, List.forall_mem_cons]
  exact ⟨by decide, hvar, by decide, by decide, by decide, (deep_indented _).functionName?, by decide,
    by decide, by decide, by decide, by decide, by decide, by simp⟩

theorem functionsOf_unitTestLines {m : DeclarationModel} (bodies : Entries String)
    (h : ∀ u ∈ m.units, IsName u.name) :
    (functionsOf (unitTestLines m bodies)).map (·.1) = m.units.map testName := by
  let subject := m.subject?.getD "<#SystemUnderTest#>"
  let head := ["import XCTest", "", "class " ++ m.subject?.getD "Generated" ++ "Tests: XCTestCase \x7b"]
  have hhead : ∀ l ∈ head, functionName? l = none := by
    have hclass (x : String) : functionName? ("class " ++ m.subject?.getD "Generated" ++ x) = none := by
      simp [functionName?]
    simp only [head, List.forall_mem_cons]
    exact ⟨by decide, by decide, hclass _, by simp⟩
  have hclose : functionsOf ["\x7d"] = [] := by decide
  cases hm : m.isEmpty with
  | true =>
    have hunits : m.units = [] := List.isEmpty_iff.1 hm
    have hlines : unitTestLines m bodies = head ++ ["\x7d"] := by simp [unitTestLines, hm, head]
    rw [hlines, functionsOf_skip hhead, hclose, hunits]
    rfl
  | false =>
    have hlines : unitTestLines m bodies = head ++ (fixture subject ++
        (m.units.flatMap (fun u => "" :: unitTest subject (bodies.get? u.name) u) ++ ["\x7d"])) := by
      simp [unitTestLines, hm, head, subject]
    rw [hlines, functionsOf_skip hhead, functionsOf_skip functionName?_fixture,
      functionsOf_unitTests h, hclose]
    simp

theorem isName_of_mem_units {text : String} {file : Option String}
    (h : u ∈ (buildDeclarations (declarationFacts text.toList) file).units) : IsName u.name := by
  rw [units_declarationFacts] at h
  obtain ⟨d, hd, rfl⟩ := List.mem_map.1 (firstOfEachName_sublist.subset h)
  have hname : IsNameText d.name.toList := by
    rcases List.mem_append.1 ((perm_declarationsInOrder _).subset hd) with hd | hd
    · exact (namedAt_of_mem_functions hd).2.1
    · exact (namedAt_of_mem_properties hd).2.1
  have hisName := hname.isName
  rwa [String.ofList_toList] at hisName

/-- The class for a source has a test for each unit, in their order, and the names of its tests are
distinct exactly if no two units clash. -/
theorem testNames_of_source (window : Int) {text : String} (h : blankText text = false)
    (bodies : Entries String) :
    ∃ facts, extract window .declarations text = .ok facts ∧
      let m := buildDeclarations facts (some text)
      let lines := unitTestLines m bodies
      let names := (functionsOf lines).map (·.1)
      unitTests m bodies = joinLines lines ∧
      names = m.units.map testName ∧
      (names.Nodup ↔ ∀ u ∈ m.units, ∀ v ∈ m.units, ¬ Clash u.name v.name) := by
  refine ⟨declarationFacts text.toList, by rw [extract, requireText, h]; rfl, ?_⟩
  intro m lines names
  have hisName : ∀ u ∈ m.units, IsName u.name := fun u hu => isName_of_mem_units hu
  have hnames : names = m.units.map testName := functionsOf_unitTestLines bodies hisName
  rw [hnames]
  exact ⟨rfl, rfl, nodup_testNames_iff hisName (nodup_names_buildDeclarations _ _)⟩

variable {fs : List Fact} {text : String}

theorem units_of_ordered (h : blankText text = false) (hfacts : declarationFacts text.toList = fs)
    (hordered : Ordered fs) : extract 100 .declarations text = .ok fs ∧
      (buildDeclarations fs (some text)).units = firstOfEachName [] fs := by
  refine ⟨by rw [extract, requireText, h, ← hfacts]; rfl, hordered.units_buildDeclarations ?_ (some text)⟩
  rw [← hfacts]
  exact isDeclaration_declarationFacts _

def shopSource : String :=
  "class Shop \x7b\n    static func open() async throws \x7b\x7d\n    var items: [Item]\n\x7d\n"

theorem testNames_of_source_shop : blankText shopSource = false ∧
    ∃ facts, extract 100 .declarations shopSource = .ok facts ∧
      let m := buildDeclarations facts (some shopSource)
      let lines := unitTestLines m []
      let names := (functionsOf lines).map (·.1)
      unitTests m [] = joinLines lines ∧ names = ["testOpen", "testItems"] ∧ names.Nodup := by
  have h : blankText shopSource = false := by decide +kernel
  have hfound : declarationFacts shopSource.toList =
      [{ kind := .function, name := "open", isStatic := true, modifiers := ["async", "throws"],
         position := 29 },
       { kind := .property, name := "items", declaredType := some "[Item]", position := 60 }] := by
    decide +kernel
  obtain ⟨hfacts, hunits⟩ := units_of_ordered h hfound ⟨by decide, by decide⟩
  obtain ⟨facts, hfacts', houtput, hnames, -⟩ := testNames_of_source 100 h []
  obtain rfl := Except.ok.inj (hfacts'.symm.trans hfacts)
  rw [hunits] at hnames
  refine ⟨h, _, hfacts, ?_⟩
  intro m lines names
  have heq : names = ["testOpen", "testItems"] := hnames.trans (by decide +kernel)
  exact ⟨houtput, heq, by rw [heq]; decide⟩

def matrixSource : String :=
  "struct Matrix \x7b\n    func t() -> Matrix \x7b\x7d\n    let T: Int\n\x7d\n"

theorem testNames_matrix : ∃ facts, extract 100 .declarations matrixSource = .ok facts ∧
    let m := buildDeclarations facts (some matrixSource)
    let lines := unitTestLines m []
    unitTests m [] = joinLines lines ∧ (functionsOf lines).map (·.1) = ["testT", "testT"] := by
  have hfound : declarationFacts matrixSource.toList =
      [{ kind := .function, name := "t", declaredType := some "Matrix", position := 25 },
       { kind := .property, name := "T", declaredType := some "Int", position := 50 }] := by
    decide +kernel
  obtain ⟨hfacts, hunits⟩ := units_of_ordered (by decide +kernel) hfound ⟨by decide, by decide⟩
  refine ⟨_, hfacts, rfl, ?_⟩
  rw [functionsOf_unitTestLines [] fun u hu => isName_of_mem_units (hfound ▸ hu), hunits]
  decide +kernel

end TestScaffold.Render
