import Mathlib.Data.List.Infix
import TestScaffold.Proofs.Render.Naming
import TestScaffold.Render.InterfaceTests

/-!
The test functions of a rendered class, read back from its lines. Every section is there exactly when
there is something to test, and apart from comments it holds one block for each of its elements.
-/

namespace TestScaffold.Render

open Text

def functionName? (line : String) : Option String :=
  if "    func ".toList.isPrefixOf line.toList then
    some (String.ofList ((line.toList.drop 9).takeWhile (· != '(')))
  else none

def functionsOf : List String → List (String × List String)
  | [] => []
  | l :: ls =>
    match functionName? l with
    | some name => (name, ls.takeWhile (· != "    \x7d")) :: functionsOf ls
    | none => functionsOf ls

def isComment (line : String) : Bool := ['/', '/'].isPrefixOf (line.toList.dropWhile (· == ' '))

def code (lines : List String) : List String := lines.filter (!isComment ·)

/-- A test function: its name, whether it is wanted, and what its lines must be. -/
structure TestPlan where
  name : String
  doc : String
  wanted : Bool
  holds : List String → Prop

def OneEach {α : Type} (vars : α → List String) (block : Fact → α → List String) (fs : List Fact)
    (lines : List String) : Prop :=
  ∃ names : List α, names.length = fs.length ∧ (names.flatMap vars).Nodup ∧
    code lines = (fs.zip names).flatMap fun p => block p.1 p.2

def inputBlock (f : Fact) (v : String) : List String :=
  [letLine v (lookup (query f.kind) (effectiveIdentifier f)), assertExists v, tap v,
    indented 2 (v ++ ".typeText(\"" ++ sampleInput ++ "\")")] ++
  if f.kind = .secureField then []
  else [indented 2 ("XCTAssertEqual(" ++ v ++ ".value as? String, \"" ++ sampleInput ++ "\")")]

def tapBlock (f : Fact) (v : String) : List String :=
  [letLine v (lookup "buttons" (effectiveIdentifier f)), assertExists v, tap v]

def toggleBlock (f : Fact) (n : ToggleNames) : List String :=
  [letLine n.toggle (lookup "switches" (effectiveIdentifier f)), assertExists n.toggle,
    letLine n.initial (n.toggle ++ ".value as? String"), tap n.toggle,
    letLine n.updated (n.toggle ++ ".value as? String"),
    indented 2 ("XCTAssertNotEqual(" ++ n.initial ++ ", " ++ n.updated ++ ")")]

def linkBlock (f : Fact) (v : String) : List String :=
  tapBlock f v ++ [indented 2 "app.navigationBars.buttons.element(boundBy: 0).tap()"]

def toggleVars (n : ToggleNames) : List String := [n.toggle, n.initial, n.updated]

def mentioned (state : String) (f : Fact) : Bool :=
  decide (state.toList <:+: f.label.toList) ||
    f.modifiers.any fun x => decide (state.toList <:+: x.toList)

def statePairs (m : ViewModel) : List (String × Fact) :=
  m.booleanState.flatMap fun s => (m.elements.filter (mentioned s)).map (s, ·)

def existencePlan (m : ViewModel) : TestPlan where
  name := "testElementsExist"
  doc := "Test that verifies all UI elements exist"
  wanted := true
  holds lines :=
    code lines = m.elements.map (fun f =>
      assertExists (lookup (query f.kind) (effectiveIdentifier f))) ∧
    (m.elements = [] → lines = [indented 2 "// No UI elements found to test"]) ∧
    (m.elements ≠ [] → indented 2 "// No UI elements found to test" ∉ lines)

def inputPlan (m : ViewModel) : TestPlan where
  name := "testTextInput"
  doc := "Test text input"
  wanted := m.elements.any (·.kind.isTextInput)
  holds := OneEach (fun v => [v]) inputBlock (m.elements.filter (·.kind.isTextInput))

def tappable (f : Fact) : Bool := f.kind == .button && f.hasAction

def buttonPlan (m : ViewModel) : TestPlan where
  name := "testButtonTaps"
  doc := "Test button taps"
  wanted := m.elements.any tappable
  holds := OneEach (fun v => [v]) tapBlock (m.elements.filter tappable)

def togglePlan (m : ViewModel) : TestPlan where
  name := "testToggles"
  doc := "Test toggles"
  wanted := m.elements.any (·.kind == .toggle)
  holds := OneEach toggleVars toggleBlock (m.elements.filter (·.kind == .toggle))

def statePlan (m : ViewModel) (o : Options) : TestPlan where
  name := "testStateChanges"
  doc := "Test UI state changes"
  wanted := o.stateTests && m.booleanState.any fun s => m.elements.any (mentioned s)
  holds lines := lines = (statePairs m).flatMap fun p => stateLines p.1 p.2

def navigationPlan (m : ViewModel) (o : Options) : TestPlan where
  name := "testNavigation"
  doc := "Test navigation"
  wanted := o.navigationTests && m.isNavigationContainer
  holds lines :=
    OneEach (fun v => [v]) linkBlock (m.elements.filter (·.kind == .navigationLink)) lines ∧
    (m.elements.filter (·.kind == .navigationLink) = [] →
      lines = [indented 2 "// No navigation links found in this view",
        indented 2 "// Add custom navigation test code here"])

def plans (m : ViewModel) (o : Options) : List TestPlan :=
  [existencePlan m, inputPlan m, buttonPlan m, togglePlan m, statePlan m o, navigationPlan m o]

def wantedPlans (m : ViewModel) (o : Options) : List TestPlan := (plans m o).filter (·.wanted)

def lacksIdentifier (f : Fact) : Bool := f.identifier.all (·.isEmpty)

def suggestionBlock (fs : List Fact) : List String :=
  ["", "/* ACCESSIBILITY SUGGESTIONS",
    " The following UI elements are missing accessibility identifiers.",
    " Consider adding them to improve testability:"] ++
  fs.flatMap (fun f => [" - " ++ commentText f.label ++ " (" ++ f.kindName ++ "):",
    "   .accessibility(identifier: \"" ++ swiftString (effectiveIdentifier f) ++ "\")"]) ++
  [" */"]

def suggestionsOf (m : ViewModel) (o : Options) : List String :=
  if o.suggestions && m.elements.any lacksIdentifier then
    suggestionBlock (m.elements.filter lacksIdentifier)
  else []

variable {o : Options} {l v x : String} {ls rest body : List String}

theorem toList_indented (level : Nat) (x : String) :
    (indented level x).toList = List.replicate (4 * level) ' ' ++ x.toList := by
  simp [indented]

theorem isComment_indented (level : Nat) (x : String) : isComment (indented level x) = isComment x := by
  have hspaces : ∀ c ∈ List.replicate (4 * level) ' ', (c == ' ') = true := by
    intro c hc
    simp [List.eq_of_mem_replicate hc]
  rw [isComment, toList_indented, List.dropWhile_append_of_pos hspaces, isComment]

def Deep (line : String) : Prop := List.replicate 8 ' ' <+: line.toList

theorem deep_indented (x : String) : Deep (indented 2 x) := by
  rw [Deep, toList_indented]
  exact List.prefix_append _ _

theorem deep_comment {texts : List String} : ∀ l ∈ comment o 2 texts, Deep l := by
  intro l hl
  unfold comment at hl
  split at hl
  · obtain ⟨x, -, rfl⟩ := List.mem_map.1 hl
    exact deep_indented x
  · cases hl

theorem Deep.functionName? (h : Deep l) : functionName? l = none := by
  obtain ⟨w, hw⟩ := h
  rw [Render.functionName?, ← hw]
  rfl

theorem Deep.ne_close (h : Deep l) : l ≠ "    \x7d" := by
  rintro rfl
  revert h
  unfold Deep
  decide

theorem code_append (ls rest : List String) : code (ls ++ rest) = code ls ++ code rest :=
  List.filter_append ..

theorem code_eq_self (h : ∀ l ∈ ls, isComment l = false) : code ls = ls :=
  List.filter_eq_self.2 fun l hl => by simp [h l hl]

theorem code_comment {level : Nat} {texts : List String} (h : ∀ x ∈ texts, isComment x = true) :
    code (comment o level texts) = [] := by
  unfold comment
  split
  · refine List.filter_eq_nil_iff.2 fun l hl => ?_
    obtain ⟨x, hx, rfl⟩ := List.mem_map.1 hl
    simp [isComment_indented, h x hx]
  · rfl

theorem code_flatMap {α : Type} (f : α → List String) (as : List α) :
    code (as.flatMap f) = as.flatMap fun a => code (f a) := by
  simp only [code, List.filter_flatMap]

theorem joinLines_append (hl : ls ≠ []) (hr : rest ≠ []) :
    joinLines (ls ++ rest) = joinLines ls ++ joinLines rest := by
  rw [joinLines, String.intercalate_append_of_ne_nil hl hr, joinLines, joinLines]
  simp only [String.append_assoc]

theorem toList_joinLines (h : ls ≠ []) :
    (joinLines ls).toList = (ls.map String.toList).flatMap (· ++ ['\n']) := by
  induction ls with
  | nil => exact absurd rfl h
  | cons x ls ih =>
    have hfirst : (joinLines [x]).toList = x.toList ++ ['\n'] := by
      rw [joinLines, String.intercalate_singleton, String.toList_append]
      rfl
    by_cases hls : ls = []
    · subst hls
      simpa using hfirst
    · have hsplit : joinLines (x :: ls) = joinLines [x] ++ joinLines ls :=
        joinLines_append (List.cons_ne_nil x []) hls
      rw [hsplit, String.toList_append, hfirst, ih hls]
      rfl

theorem functionsOf_skip (h : ∀ l ∈ ls, functionName? l = none) :
    functionsOf (ls ++ rest) = functionsOf rest := by
  induction ls with
  | nil => rfl
  | cons l ls ih =>
    rw [List.cons_append, functionsOf, h l List.mem_cons_self]
    exact ih fun x hx => h x (List.mem_cons_of_mem l hx)

theorem functionName?_call {name rest : String} (h : '(' ∉ name.toList) :
    functionName? (indented 1 ("func " ++ (name ++ ("(" ++ rest)))) = some name := by
  have hline : (indented 1 ("func " ++ (name ++ ("(" ++ rest)))).toList =
      "    func ".toList ++ (name.toList ++ '(' :: rest.toList) := by
    rw [toList_indented]
    simp
  have hprefix : "    func ".toList.isPrefixOf
      ("    func ".toList ++ (name.toList ++ '(' :: rest.toList)) = true := by simp
  have hdrop : ("    func ".toList ++ (name.toList ++ '(' :: rest.toList)).drop 9 =
      name.toList ++ '(' :: rest.toList := rfl
  have hname : ∀ c ∈ name.toList, (c != '(') = true := by
    intro c hc
    simpa using ne_of_mem_of_not_mem hc h
  rw [functionName?, hline, if_pos hprefix, hdrop, List.takeWhile_append_of_pos hname]
  simp

theorem functionName?_opening {name : String} (h : '(' ∉ name.toList) :
    functionName? (indented 1 ("func " ++ name ++ "() throws \x7b")) = some name := by
  have hline : "func " ++ name ++ "() throws \x7b" = "func " ++ (name ++ ("(" ++ ") throws \x7b")) := by
    simp only [String.append_assoc]
    rfl
  rw [hline, functionName?_call h]

theorem functionsOf_testFunction {doc name : String} (hname : '(' ∉ name.toList)
    (hbody : ∀ l ∈ body, Deep l) :
    functionsOf (testFunction o doc name body ++ rest) = (name, body) :: functionsOf rest := by
  have hlines : testFunction o doc name body ++ rest =
      ("" :: comment o 1 ["/// " ++ doc]) ++
        indented 1 ("func " ++ name ++ "() throws \x7b") :: (body ++ indented 1 "\x7d" :: rest) := by
    simp [testFunction]
  have hfront : ∀ l ∈ "" :: comment o 1 ["/// " ++ doc], functionName? l = none := by
    intro l hl
    rcases List.mem_cons.1 hl with rfl | hl
    · rfl
    · unfold comment at hl
      split at hl
      · obtain ⟨x, hx, rfl⟩ := List.mem_map.1 hl
        obtain rfl := List.mem_singleton.1 hx
        rw [functionName?, toList_indented]
        simp
      · cases hl
  have hclose : indented 1 "\x7d" = "    \x7d" := by decide
  have hopen : ∀ l ∈ body, (l != "    \x7d") = true := fun l hl => by simpa using (hbody l hl).ne_close
  rw [hlines, functionsOf_skip hfront, functionsOf, functionName?_opening hname, hclose]
  simp only
  -- The lines of the body stand too deep to open a function or to close this one.
  rw [List.takeWhile_append_of_pos hopen, functionsOf_skip fun l hl => (hbody l hl).functionName?]
  simp [functionsOf, functionName?]

/-- The section is the planned function, or nothing if none is wanted. -/
def Meets (o : Options) (p : TestPlan) (lines : List String) : Prop :=
  if p.wanted then
    ∃ body, lines = testFunction o p.doc p.name body ∧ (∀ l ∈ body, Deep l) ∧ p.holds body
  else lines = []

theorem Meets.replan {p : TestPlan} {holds : List String → Prop} (h : Meets o p ls)
    (hbody : ∀ body, p.wanted = true → ls = testFunction o p.doc p.name body → holds body) :
    Meets o { p with holds := holds } ls := by
  unfold Meets at *
  change if p.wanted = true then _ else _
  split
  · rename_i hwanted
    rw [if_pos hwanted] at h
    obtain ⟨body, hls, hdeep, -⟩ := h
    exact ⟨body, hls, hdeep, hbody body hwanted hls⟩
  · rename_i hwanted
    rwa [if_neg hwanted] at h

theorem exists_bodies {ps : List TestPlan} {sections : List (List String)}
    (h : List.Forall₂ (Meets o) ps sections) :
    ∃ bodies, List.Forall₂ TestPlan.holds (ps.filter (·.wanted)) bodies ∧
      (∀ body ∈ bodies, ∀ l ∈ body, Deep l) ∧
      sections.flatten = ((ps.filter (·.wanted)).zip bodies).flatMap fun p =>
        testFunction o p.1.doc p.1.name p.2 := by
  induction h with
  | nil => exact ⟨[], .nil, by simp, rfl⟩
  | @cons p lines ps sections hp _ ih =>
    obtain ⟨bodies, hholds, hdeep, hlines⟩ := ih
    unfold Meets at hp
    cases hw : p.wanted with
    | true =>
      rw [hw, if_pos rfl] at hp
      obtain ⟨body, rfl, hdeepBody, hbody⟩ := hp
      rw [List.filter_cons_of_pos hw]
      exact ⟨body :: bodies, .cons hbody hholds, List.forall_mem_cons.2 ⟨hdeepBody, hdeep⟩,
        by simp [hlines]⟩
    | false =>
      rw [hw, if_neg Bool.false_ne_true] at hp
      rw [List.filter_cons_of_neg (by simp [hw])]
      exact ⟨bodies, hholds, hdeep, by simp [hp, hlines]⟩

theorem functionsOf_bodies {fns : List (TestPlan × List String)}
    (hnames : ∀ p ∈ fns, '(' ∉ p.1.name.toList) (hbodies : ∀ p ∈ fns, ∀ l ∈ p.2, Deep l) :
    functionsOf (fns.flatMap (fun p => testFunction o p.1.doc p.1.name p.2) ++ rest) =
      fns.map (fun p => (p.1.name, p.2)) ++ functionsOf rest := by
  induction fns with
  | nil => rfl
  | cons p fns ih =>
    rw [List.forall_mem_cons] at hnames hbodies
    rw [List.flatMap_cons, List.append_assoc, functionsOf_testFunction hnames.1 hbodies.1,
      ih hnames.2 hbodies.2]
    rfl

theorem meets_testFunctionFor {α : Type} {p : TestPlan} {subjects : List α}
    {body : List α → List String} (hwanted : p.wanted = !subjects.isEmpty)
    (hdeep : ∀ l ∈ body subjects, Deep l) (hholds : p.holds (body subjects)) :
    Meets o p (testFunctionFor o p.doc p.name subjects body) := by
  unfold Meets testFunctionFor
  rw [hwanted]
  cases subjects.isEmpty with
  | true => rfl
  | false => exact ⟨_, rfl, hdeep, hholds⟩

structure Fresh {α : Type} (choose : Fact → List String → α × List String)
    (vars : α → List String) : Prop where
  isName : ∀ f used, ∀ v ∈ vars (choose f used).1, IsName v
  nodup : ∀ f used, (vars (choose f used).1).Nodup
  free : ∀ f used, ∀ v ∈ vars (choose f used).1, v ∉ used
  taken : ∀ f used, vars (choose f used).1 ⊆ (choose f used).2

theorem fresh_chooseOne {suffix : String} (hs : ∀ c ∈ suffix.toList, isNameChar c = true) :
    Fresh (chooseOne suffix) fun v => [v] where
  isName f used v hv := by
    obtain rfl := List.mem_singleton.1 hv
    exact isName_freshVariable _ _ hs
  nodup f used := List.nodup_singleton _
  free f used v hv := by
    obtain rfl := List.mem_singleton.1 hv
    exact freshVariable_not_mem _ _ _
  taken f used := List.Subset.refl _

theorem fresh_chooseToggle : Fresh chooseToggle toggleVars where
  isName f used v hv := by
    simp only [toggleVars, chooseToggle, List.mem_cons, List.not_mem_nil, or_false] at hv
    rcases hv with rfl | rfl | rfl <;> exact isName_freshVariable _ _ (by decide)
  nodup f used := by
    have hinitial := freshVariable_not_mem (freshVariable (effectiveIdentifier f) used "")
      (freshVariable (effectiveIdentifier f) used "" :: used) "Initial"
    have hupdated := freshVariable_not_mem (freshVariable (effectiveIdentifier f) used "")
      (freshVariable (freshVariable (effectiveIdentifier f) used "")
        (freshVariable (effectiveIdentifier f) used "" :: used) "Initial" ::
          freshVariable (effectiveIdentifier f) used "" :: used) "Updated"
    simp only [List.mem_cons, not_or] at hinitial hupdated
    simp [toggleVars, chooseToggle, Ne.symm hinitial.1, Ne.symm hupdated.1, Ne.symm hupdated.2.1]
  free f used v hv := by
    simp only [toggleVars, chooseToggle, List.mem_cons, List.not_mem_nil, or_false] at hv
    rcases hv with rfl | rfl | rfl
    · exact freshVariable_not_mem _ _ _
    · exact fun hmem => freshVariable_not_mem _ _ _ (List.mem_cons_of_mem _ hmem)
    · exact fun hmem => freshVariable_not_mem _ _ _
        (List.mem_cons_of_mem _ (List.mem_cons_of_mem _ hmem))
  taken f used := by simp [toggleVars, chooseToggle]

theorem nameEach_eq_zip {α : Type} {choose : Fact → List String → α × List String}
    {vars : α → List String} (h : Fresh choose vars) (used : List String) (fs : List Fact) :
    ∃ names, nameEach choose used fs = fs.zip names ∧ names.length = fs.length ∧
      (names.flatMap vars).Nodup ∧ ∀ a ∈ names, ∀ v ∈ vars a, IsName v ∧ v ∉ used := by
  induction fs generalizing used with
  | nil => exact ⟨[], rfl, rfl, List.nodup_nil, by simp⟩
  | cons f fs ih =>
    obtain ⟨names, heq, hlength, hnodup, hnames⟩ := ih ((choose f used).2 ++ used)
    refine ⟨(choose f used).1 :: names, by simp [nameEach, heq], by simp [hlength], ?_, ?_⟩
    · -- The variables taken for `f` are in use when those behind are chosen.
      rw [List.flatMap_cons, List.nodup_append]
      refine ⟨h.nodup f used, hnodup, ?_⟩
      rintro v hv w hw rfl
      obtain ⟨a, ha, hva⟩ := List.mem_flatMap.1 hw
      exact (hnames a ha v hva).2 (List.mem_append_left used (h.taken f used hv))
    · intro a ha v hv
      rcases List.mem_cons.1 ha with rfl | ha
      · exact ⟨h.isName f used v hv, h.free f used v hv⟩
      · obtain ⟨hname, hfree⟩ := hnames a ha v hv
        exact ⟨hname, fun hmem => hfree (List.mem_append_right _ hmem)⟩

theorem mem_nameEach {α : Type} {choose : Fact → List String → α × List String}
    {vars : α → List String} (h : Fresh choose vars) {used : List String} {fs : List Fact}
    {p : Fact × α} (hp : p ∈ nameEach choose used fs) : p.1 ∈ fs ∧ ∀ v ∈ vars p.2, IsName v := by
  obtain ⟨names, heq, -, -, hnames⟩ := nameEach_eq_zip h used fs
  rw [heq] at hp
  exact ⟨(List.of_mem_zip hp).1, fun v hv => (hnames p.2 (List.of_mem_zip hp).2 v hv).1⟩

theorem map_fst_nameEach {α : Type} (choose : Fact → List String → α × List String)
    (used : List String) (fs : List Fact) : (nameEach choose used fs).map (·.1) = fs := by
  induction fs generalizing used with
  | nil => rfl
  | cons f fs ih => simp [nameEach, ih]

theorem oneEach_nameEach {α : Type} {choose : Fact → List String → α × List String}
    {vars : α → List String} (h : Fresh choose vars) {lines block : Fact → α → List String}
    (hblock : ∀ f a, (∀ v ∈ vars a, IsName v) → code (lines f a) = block f a) (fs : List Fact) :
    OneEach vars block fs ((nameEach choose [] fs).flatMap fun p => lines p.1 p.2) := by
  obtain ⟨names, heq, hlength, hnodup, hnames⟩ := nameEach_eq_zip h [] fs
  refine ⟨names, hlength, hnodup, ?_⟩
  rw [heq, code_flatMap]
  refine List.flatMap_congr fun p hp => hblock p.1 p.2 fun v hv => ?_
  exact (hnames p.2 (List.of_mem_zip hp).2 v hv).1

theorem deep_flatMap {α : Type} {as : List α} {f : α → List String}
    (h : ∀ a, ∀ l ∈ f a, Deep l) : ∀ l ∈ as.flatMap f, Deep l := by
  intro l hl
  obtain ⟨a, -, hl⟩ := List.mem_flatMap.1 hl
  exact h a l hl

theorem isComment_name (hv : IsName v) (x : String) : isComment (indented 2 (v ++ x)) = false := by
  obtain ⟨c, w, hcw, hc⟩ := hv.head
  have hspace : (c == ' ') = false := by
    rw [beq_eq_false_iff_ne]
    rintro rfl
    exact absurd hc (by decide)
  have hslash : ('/' == c) = false := by
    rw [beq_eq_false_iff_ne]
    rintro rfl
    exact absurd hc (by decide)
  rw [isComment_indented, isComment, String.toList_append, hcw]
  simp [List.isPrefixOf, hspace, hslash]

theorem isComment_letLine (v x : String) : isComment (letLine v x) = false := by
  rw [letLine, isComment_indented, isComment]
  simp [List.isPrefixOf]

theorem isComment_assertExists (x : String) : isComment (assertExists x) = false := by
  rw [assertExists, isComment_indented, isComment]
  simp [List.isPrefixOf]

theorem code_tapBlock (f : Fact) (hv : IsName v) : code (tapBlock f v) = tapBlock f v := by
  refine code_eq_self ?_
  simp [tapBlock, isComment_letLine, isComment_assertExists, tap, isComment_name hv]

theorem code_inputLines (o : Options) (f : Fact) (hv : IsName v) :
    code (inputLines o f v) = inputBlock f v := by
  have hlabel : code (comment o 2 ["// Test input for " ++ commentText f.label]) = [] :=
    code_comment (by simp [isComment])
  have hsecure : code (comment o 2 ["// Secure fields do not expose their typed value"]) = [] :=
    code_comment (by simp [isComment])
  have hlines : ∀ l ∈ [letLine v (lookupOf f), assertExists v, tap v,
      indented 2 (v ++ ".typeText(\"" ++ sampleInput ++ "\")")], isComment l = false := by
    simp [isComment_letLine, isComment_assertExists, tap, isComment_name hv, String.append_assoc]
  have hvalue : isComment
      (indented 2 ("XCTAssertEqual(" ++ v ++ ".value as? String, \"" ++ sampleInput ++ "\")")) =
        false := by
    rw [isComment_indented, isComment]
    simp [List.isPrefixOf]
  rw [inputLines, code_append, code_append, hlabel, code_eq_self hlines, inputBlock]
  split
  · rw [hsecure]
    rfl
  · rw [code_eq_self (by simpa using hvalue)]
    rfl

theorem code_buttonLines (o : Options) (f : Fact) (hv : IsName v) :
    code (buttonLines o f v) = tapBlock f v := by
  have hlabel : code (comment o 2 ["// Test tap on " ++ commentText f.label ++ " button"]) = [] :=
    code_comment (by simp [isComment])
  have hresult : code (comment o 2
      ["// Add assertions for the expected result of tapping this button"]) = [] :=
    code_comment (by simp [isComment])
  have htap : code (tapLines f v) = tapBlock f v := code_tapBlock f hv
  rw [buttonLines, code_append, code_append, hlabel, hresult, htap]
  simp

theorem code_toggleLines (o : Options) (f : Fact) {n : ToggleNames}
    (hn : ∀ v ∈ toggleVars n, IsName v) : code (toggleLines o f n) = toggleBlock f n := by
  have hlabel : code (comment o 2 ["// Test " ++ commentText f.label ++ " toggle"]) = [] :=
    code_comment (by simp [isComment])
  have htoggle : IsName n.toggle := hn _ (by simp [toggleVars])
  have hcompare : isComment
      (indented 2 ("XCTAssertNotEqual(" ++ n.initial ++ ", " ++ n.updated ++ ")")) = false := by
    rw [isComment_indented, isComment]
    simp [List.isPrefixOf]
  have hlines : ∀ l ∈ toggleBlock f n, isComment l = false := by
    simp [toggleBlock, isComment_letLine, isComment_assertExists, tap, isComment_name htoggle,
      hcompare]
  rw [toggleLines, code_append, hlabel]
  exact code_eq_self hlines

theorem code_linkLines (o : Options) (f : Fact) (hv : IsName v) :
    code (linkLines o f v) = linkBlock f v := by
  have hlabel : code (comment o 2 ["// Test navigation for " ++ commentText f.label]) = [] :=
    code_comment (by simp [isComment])
  have hresult : code (comment o 2
      ["// Verify navigation occurred (replace with the actual destination check)",
        "// Example: XCTAssertTrue(app.navigationBars[\"Destination\"].exists)"]) = [] :=
    code_comment (by simp [isComment])
  have htap : code (tapLines f v) = tapBlock f v := code_tapBlock f hv
  have hback : code [indented 2 "app.navigationBars.buttons.element(boundBy: 0).tap()"] =
      [indented 2 "app.navigationBars.buttons.element(boundBy: 0).tap()"] :=
    code_eq_self (by decide)
  rw [linkLines, code_append, code_append, code_append, hlabel, htap, hresult, hback, linkBlock]
  simp

theorem deep_tapBlock (f : Fact) (v : String) : ∀ l ∈ tapBlock f v, Deep l := by
  simp [tapBlock, letLine, assertExists, tap, deep_indented]

theorem elementsOf_singleton (m : ViewModel) (k : FactKind) :
    m.elementsOf [k] = m.elements.filter (·.kind == k) := by
  refine List.filter_congr fun f _ => ?_
  rw [Bool.eq_iff_iff]
  simp

theorem elementsOf_inputs (m : ViewModel) :
    m.elementsOf [.textField, .secureField] = m.elements.filter (·.kind.isTextInput) := by
  refine List.filter_congr fun f _ => ?_
  cases f.kind <;> rfl

theorem any_eq_filter {α : Type} (q : α → Bool) (as : List α) :
    as.any q = !(as.filter q).isEmpty := by
  cases h : as.any q with
  | true =>
    obtain ⟨a, ha, hq⟩ := List.any_eq_true.1 h
    have hne := List.ne_nil_of_mem (List.mem_filter.2 ⟨ha, hq⟩)
    simpa using hne
  | false => simpa using h

theorem meets_existenceTest (m : ViewModel) (o : Options) :
    Meets o (existencePlan m) (existenceTest m o) := by
  have hlines (f : Fact) : existenceLines o f =
      comment o 2 ["// Check that " ++ commentText f.label ++ " exists"] ++
        [assertExists (lookupOf f)] := by
    simp [existenceLines, effectiveIdentifier_ne_empty]
  have hcode (f : Fact) : code (existenceLines o f) = [assertExists (lookupOf f)] := by
    have hlabel : code (comment o 2 ["// Check that " ++ commentText f.label ++ " exists"]) = [] :=
      code_comment (by simp [isComment])
    rw [hlines, code_append, hlabel, code_eq_self (by simp [isComment_assertExists])]
    rfl
  have hmarker : code (if m.isEmpty then [indented 2 noElementsMarker] else []) = [] := by
    split
    · decide
    · rfl
  have hdeep (f : Fact) : ∀ l ∈ existenceLines o f, Deep l := by
    rw [hlines]
    exact List.forall_mem_append.2 ⟨deep_comment, List.forall_mem_singleton.2 (deep_indented _)⟩
  have hother (f : Fact) : indented 2 noElementsMarker ∉ existenceLines o f := by
    intro hmem
    rw [hlines] at hmem
    rcases List.mem_append.1 hmem with hmem | hmem
    · unfold comment at hmem
      split at hmem
      · have hline := congrArg String.toList (List.mem_singleton.1 hmem)
        rw [toList_indented, toList_indented] at hline
        simp [noElementsMarker] at hline
      · cases hmem
    · have hassert := isComment_assertExists (lookupOf f)
      rw [← List.mem_singleton.1 hmem] at hassert
      revert hassert
      decide
  refine ⟨_, rfl, ?_, ?_, ?_, ?_⟩
  · refine List.forall_mem_append.2 ⟨?_, deep_flatMap hdeep⟩
    split <;> simp [deep_indented]
  · rw [code_append, hmarker, code_flatMap, List.nil_append]
    simp only [hcode, ← List.map_eq_flatMap]
    rfl
  · intro hnil
    simp [ViewModel.isEmpty, hnil]
    rfl
  · intro hne hmem
    rcases List.mem_append.1 hmem with hmem | hmem
    · simp [ViewModel.isEmpty, hne] at hmem
    · obtain ⟨f, -, hf⟩ := List.mem_flatMap.1 hmem
      exact hother f hf

theorem meets_textInputTest (m : ViewModel) (o : Options) :
    Meets o (inputPlan m) (textInputTest m o) := by
  have hdeep (p : Fact × String) : ∀ l ∈ inputLines o p.1 p.2, Deep l := by
    refine List.forall_mem_append.2 ⟨List.forall_mem_append.2 ⟨deep_comment, ?_⟩, ?_⟩
    · simp [letLine, assertExists, tap, deep_indented]
    · split
      · exact deep_comment
      · exact List.forall_mem_singleton.2 (deep_indented _)
  unfold textInputTest
  rw [elementsOf_inputs]
  refine meets_testFunctionFor (p := inputPlan m) (any_eq_filter _ _) (deep_flatMap hdeep) ?_
  exact oneEach_nameEach (fresh_chooseOne (by decide))
    (fun f v hv => code_inputLines o f (hv v (List.mem_singleton_self v))) _

theorem meets_buttonTest (m : ViewModel) (o : Options) :
    Meets o (buttonPlan m) (buttonTest m o) := by
  have hbuttons : (m.elementsOf [.button]).filter (·.hasAction) = m.elements.filter tappable := by
    rw [elementsOf_singleton, List.filter_filter]
    exact List.filter_congr fun f _ => Bool.and_comm ..
  have hdeep (p : Fact × String) : ∀ l ∈ buttonLines o p.1 p.2, Deep l :=
    List.forall_mem_append.2
      ⟨List.forall_mem_append.2 ⟨deep_comment, deep_tapBlock p.1 p.2⟩, deep_comment⟩
  unfold buttonTest
  rw [hbuttons]
  refine meets_testFunctionFor (p := buttonPlan m) (any_eq_filter _ _) (deep_flatMap hdeep) ?_
  exact oneEach_nameEach (fresh_chooseOne (by decide))
    (fun f v hv => code_buttonLines o f (hv v (List.mem_singleton_self v))) _

theorem meets_toggleTest (m : ViewModel) (o : Options) :
    Meets o (togglePlan m) (toggleTest m o) := by
  have hblock (p : Fact × ToggleNames) : ∀ l ∈ toggleBlock p.1 p.2, Deep l := by
    simp [toggleBlock, letLine, assertExists, tap, deep_indented]
  have hdeep (p : Fact × ToggleNames) : ∀ l ∈ toggleLines o p.1 p.2, Deep l :=
    List.forall_mem_append.2 ⟨deep_comment, hblock p⟩
  unfold toggleTest
  rw [elementsOf_singleton]
  refine meets_testFunctionFor (p := togglePlan m) (any_eq_filter _ _) (deep_flatMap hdeep) ?_
  exact oneEach_nameEach fresh_chooseToggle (fun f n hn => code_toggleLines o f hn) _

theorem occursIn_eq (needle cs : List Char) : occursIn needle cs = decide (needle <:+: cs) := by
  induction cs with
  | nil => cases needle <;> simp [occursIn]
  | cons c cs ih =>
    rw [occursIn, ih, Bool.eq_iff_iff]
    simp only [Bool.or_eq_true, decide_eq_true_eq, List.isPrefixOf_iff_prefix, List.infix_cons_iff]

theorem mentions_eq (state : String) (f : Fact) : mentions state f = mentioned state f := by
  have hoccurs : occurs state = fun x => decide (state.toList <:+: x.toList) :=
    funext fun x => occursIn_eq _ _
  rw [mentions, hoccurs, mentioned]

theorem affected_eq (m : ViewModel) : affected m = statePairs m := by
  have hmentions : mentions = mentioned := funext fun s => funext fun f => mentions_eq s f
  rw [affected, hmentions, statePairs]

theorem statePairs_isEmpty (m : ViewModel) :
    (m.booleanState.any fun s => m.elements.any (mentioned s)) = !(statePairs m).isEmpty := by
  rw [Bool.eq_iff_iff]
  simp [statePairs]

theorem meets_stateChangeTest (m : ViewModel) (o : Options) :
    Meets o (statePlan m o) (if o.stateTests then stateChangeTest m o else []) := by
  have hdeep (p : String × Fact) : ∀ l ∈ stateLines p.1 p.2, Deep l := by
    simp [stateLines, deep_indented]
  cases ho : o.stateTests with
  | false => simp [Meets, statePlan, ho]
  | true =>
    rw [if_pos rfl, stateChangeTest, affected_eq]
    refine meets_testFunctionFor (p := statePlan m o) ?_ (deep_flatMap hdeep) rfl
    rw [← statePairs_isEmpty, statePlan, ho, Bool.true_and]

theorem meets_navigationTest (m : ViewModel) (o : Options) :
    Meets o (navigationPlan m o)
      (if o.navigationTests && m.isNavigationContainer then navigationTest m o else []) := by
  have htap (p : Fact × String) : ∀ l ∈ comment o 2 ["// Test navigation for " ++
      commentText p.1.label] ++ tapLines p.1 p.2, Deep l :=
    List.forall_mem_append.2 ⟨deep_comment, deep_tapBlock p.1 p.2⟩
  have hdeep (p : Fact × String) : ∀ l ∈ linkLines o p.1 p.2, Deep l :=
    List.forall_mem_append.2 ⟨List.forall_mem_append.2 ⟨htap p, deep_comment⟩,
      List.forall_mem_singleton.2 (deep_indented _)⟩
  have hnotes : code (if (m.elements.filter (·.kind == .navigationLink)).isEmpty then
      [indented 2 "// No navigation links found in this view",
        indented 2 "// Add custom navigation test code here"] else []) = [] := by
    split
    · decide
    · rfl
  cases hw : o.navigationTests && m.isNavigationContainer with
  | false => simp [Meets, navigationPlan, hw]
  | true =>
    unfold Meets navigationTest
    rw [elementsOf_singleton, if_pos rfl, navigationPlan, if_pos hw]
    have hfresh : Fresh (chooseOne "") fun v => [v] := fresh_chooseOne (by decide)
    obtain ⟨names, hlength, hnodup, hcode⟩ :=
      oneEach_nameEach hfresh (fun f v hv => code_linkLines o f (hv v (List.mem_singleton_self v)))
        (m.elements.filter (·.kind == .navigationLink))
    refine ⟨_, rfl, ?_, ⟨names, hlength, hnodup, ?_⟩, ?_⟩
    · refine List.forall_mem_append.2 ⟨?_, deep_flatMap hdeep⟩
      split <;> simp [deep_indented]
    · rw [code_append, hnotes, List.nil_append, hcode]
    · intro hnil
      rw [hnil]
      rfl

theorem meets_sections (m : ViewModel) (o : Options) :
    List.Forall₂ (Meets o) (plans m o) (sections m o) :=
  .cons (meets_existenceTest m o) <| .cons (meets_textInputTest m o) <|
    .cons (meets_buttonTest m o) <| .cons (meets_toggleTest m o) <|
      .cons (meets_stateChangeTest m o) <| .cons (meets_navigationTest m o) .nil

theorem parenthesis_not_mem_name {m : ViewModel} : ∀ p ∈ plans m o, '(' ∉ p.name.toList := by
  simp only [plans, List.forall_mem_cons]
  refine ⟨?_, ?_, ?_, ?_, ?_, ?_, by simp⟩
  all_goals
    simp [existencePlan, inputPlan, buttonPlan, togglePlan, statePlan, navigationPlan]

theorem parenthesis_not_mem_map {m : ViewModel} {change : TestPlan → TestPlan}
    (h : ∀ p, (change p).name = p.name) : ∀ p ∈ (plans m o).map change, '(' ∉ p.name.toList := by
  intro p hp
  obtain ⟨q, hq, rfl⟩ := List.mem_map.1 hp
  rw [h]
  exact parenthesis_not_mem_name q hq

theorem functionName?_header (name : String) : ∀ l ∈ header name o, functionName? l = none := by
  have hdeep {texts : List String} : ∀ l ∈ comment o 2 texts, functionName? l = none :=
    fun l hl => (deep_comment l hl).functionName?
  have hlaunch : ∀ l ∈ (if o.launchArguments then
      [indented 2 "app.launchArguments = [\"--uitesting\"]"] else []), functionName? l = none := by
    split <;> decide
  have hclass : functionName? ("class " ++ name ++ "Tests: XCTestCase \x7b") = none := by
    simp [functionName?]
  intro l hl
  simp only [header, List.mem_append] at hl
  rcases hl with ((((hl | hl) | hl) | hl) | hl) | hl
  · simp only [List.mem_cons, List.not_mem_nil, or_false] at hl
    rcases hl with rfl | rfl | rfl | rfl | rfl | rfl | rfl | rfl
    · decide
    · decide
    · exact hclass
    all_goals decide
  · exact hlaunch l hl
  · exact hdeep l hl
  · obtain rfl := List.mem_singleton.1 hl
    decide
  · exact hdeep l hl
  · obtain rfl := List.mem_singleton.1 hl
    decide

theorem suggestions_eq (m : ViewModel) :
    suggestions m = if m.elements.any lacksIdentifier then
      suggestionBlock (m.elements.filter lacksIdentifier) else [] := by
  have hmissing : unidentified m = m.elements.filter lacksIdentifier := by
    refine List.filter_congr fun f _ => ?_
    cases hf : f.identifier <;> simp [lacksIdentifier, hf]
  rw [suggestions, hmissing, any_eq_filter]
  cases m.elements.filter lacksIdentifier <;> rfl

theorem suggestionsOf_eq (m : ViewModel) (o : Options) :
    suggestionsOf m o = if o.suggestions then suggestions m else [] := by
  rw [suggestionsOf, suggestions_eq]
  cases o.suggestions <;> rfl

theorem interfaceTestLines_eq (m : ViewModel) (o : Options) :
    interfaceTestLines m o =
      header m.name o ++ (sections m o).flatten ++ "\x7d" :: suggestionsOf m o := by
  rw [interfaceTestLines, suggestionsOf_eq]
  simp only [List.append_assoc, List.singleton_append]

theorem functionName?_suggestionBlock {fs : List Fact} :
    ∀ l ∈ suggestionBlock fs, functionName? l = none := by
  intro l hl
  simp only [suggestionBlock, List.mem_append, List.mem_flatMap, List.mem_cons, List.not_mem_nil,
    or_false] at hl
  rcases hl with ((rfl | rfl | rfl | rfl) | ⟨f, -, rfl | rfl⟩) | rfl
  all_goals simp [functionName?]

theorem functionsOf_suggestionBlock (fs : List Fact) : functionsOf (suggestionBlock fs) = [] := by
  have h : functionsOf (suggestionBlock fs ++ []) = [] := functionsOf_skip functionName?_suggestionBlock
  rwa [List.append_nil] at h

theorem functionsOf_class {ps : List TestPlan} {m : ViewModel}
    (hsections : List.Forall₂ (Meets o) ps (sections m o))
    (hnames : ∀ p ∈ ps, '(' ∉ p.name.toList) (hrest : ∀ l ∈ rest, functionName? l = none) :
    ∃ bodies, List.Forall₂ TestPlan.holds (ps.filter (·.wanted)) bodies ∧
      functionsOf (interfaceTestLines m o ++ rest) =
        ((ps.filter (·.wanted)).zip bodies).map fun p => (p.1.name, p.2) := by
  have hclose : functionName? "\x7d" = none := by decide
  have hnone : functionsOf (rest ++ []) = [] := functionsOf_skip hrest
  rw [List.append_nil] at hnone
  have hsuggestions : functionsOf (suggestionsOf m o ++ rest) = [] := by
    unfold suggestionsOf
    split
    · rw [functionsOf_skip functionName?_suggestionBlock, hnone]
    · exact hnone
  have htail : functionsOf ("\x7d" :: suggestionsOf m o ++ rest) = [] := by
    simp only [List.cons_append, functionsOf, hclose, hsuggestions]
  obtain ⟨bodies, hholds, hdeep, hlines⟩ := exists_bodies hsections
  refine ⟨bodies, hholds, ?_⟩
  rw [interfaceTestLines_eq, hlines, List.append_assoc, List.append_assoc,
    functionsOf_skip (functionName?_header m.name), functionsOf_bodies, htail, List.append_nil]
  · exact fun p hp => hnames p.1 (List.mem_of_mem_filter (List.of_mem_zip hp).1)
  · exact fun p hp => hdeep p.2 (List.of_mem_zip hp).2

theorem exists_plan {ps : List TestPlan} {m : ViewModel} {f : String × List String}
    (hsections : List.Forall₂ (Meets o) ps (sections m o))
    (hnames : ∀ p ∈ ps, '(' ∉ p.name.toList) (hrest : ∀ l ∈ rest, functionName? l = none)
    (hf : f ∈ functionsOf (interfaceTestLines m o ++ rest)) :
    ∃ p ∈ ps, p.wanted = true ∧ p.name = f.1 ∧ p.holds f.2 := by
  obtain ⟨bodies, hholds, hfunctions⟩ := functionsOf_class hsections hnames hrest
  rw [hfunctions] at hf
  obtain ⟨p, hp, rfl⟩ := List.mem_map.1 hf
  obtain ⟨hmem, hwanted⟩ := List.mem_filter.1 (List.of_mem_zip hp).1
  exact ⟨p.1, hmem, hwanted, rfl, List.forall₂_zip hholds hp⟩

theorem exists_function {ps : List TestPlan} {m : ViewModel} {p : TestPlan}
    (hsections : List.Forall₂ (Meets o) ps (sections m o))
    (hnames : ∀ p ∈ ps, '(' ∉ p.name.toList) (hrest : ∀ l ∈ rest, functionName? l = none)
    (hp : p ∈ ps) (hwanted : p.wanted = true) :
    ∃ f ∈ functionsOf (interfaceTestLines m o ++ rest), f.1 = p.name ∧ p.holds f.2 := by
  obtain ⟨bodies, hholds, hfunctions⟩ := functionsOf_class hsections hnames hrest
  have hmem : p ∈ ((ps.filter (·.wanted)).zip bodies).map Prod.fst := by
    rw [List.map_fst_zip (Nat.le_of_eq hholds.length_eq)]
    exact List.mem_filter.2 ⟨hp, hwanted⟩
  obtain ⟨q, hq, rfl⟩ := List.mem_map.1 hmem
  exact ⟨(q.1.name, q.2), hfunctions ▸ List.mem_map.2 ⟨q, hq, rfl⟩, rfl, List.forall₂_zip hholds hq⟩

def signIn : ViewModel where
  name := "SignIn"
  elements := [{ kind := .secureField, name := "Password" },
    { kind := .button, name := "Sign In", hasAction := true, identifier := some "go" }]

example : existenceTest { name := "Empty" } {} =
    ["", "    /// Test that verifies all UI elements exist", "    func testElementsExist() throws \x7b",
      "        // No UI elements found to test", "    \x7d"] := by
  decide

end TestScaffold.Render
