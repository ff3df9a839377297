import TestScaffold.Proofs.Render.Forms
import TestScaffold.Proofs.Text.Marks

namespace TestScaffold.Render

open Text

def textLines (text : String) : List String := (pieces (· == '\n') text.toList).map String.ofList

def Inserted (x short long : String) : Prop :=
  ∃ front rest, short = joinLines front ++ joinLines rest ∧
    long = joinLines front ++ x ++ joinLines rest

def AtMostTest (o : Options) (name x : String) : Prop :=
  x = "" ∨ ∃ doc body, x = joinLines (testFunction o doc name body) ∧ ∀ l ∈ body, Deep l

def launchLine : String := "        app.launchArguments = [\"--uitesting\"]"

/-- No option changes what the others do. -/
structure OptionsApart (text : Options → String) : Prop where
  comments : ∀ o : Options, code (textLines (text { o with comments := true })) =
    code (textLines (text { o with comments := false }))
  suggestions : ∀ o : Options, ∃ more,
    text { o with suggestions := true } = text { o with suggestions := false } ++ more
  stateTests : ∀ o : Options, ∃ x, AtMostTest { o with stateTests := true } "testStateChanges" x ∧
    Inserted x (text { o with stateTests := false }) (text { o with stateTests := true })
  navigationTests : ∀ o : Options, ∃ x, AtMostTest { o with navigationTests := true } "testNavigation" x ∧
    Inserted x (text { o with navigationTests := false }) (text { o with navigationTests := true })
  launchArguments : ∀ o : Options, Inserted (launchLine ++ "\n")
    (text { o with launchArguments := false }) (text { o with launchArguments := true })

def declared? (line : String) : Option String :=
  if "        let ".toList.isPrefixOf line.toList then
    some (String.ofList ((line.toList.drop 12).takeWhile (· != ' ')))
  else none

def variablesOf (lines : List String) : List String := lines.filterMap declared?

def rendered (m : ViewModel) (o : Options) : String := joinLines (interfaceTestLines m o)

variable {o o' : Options} {m : ViewModel} {v x doc name : String}
  {ls rs ls' rs' body body' texts front rest : List String} {level : Nat}

theorem pieces_append_cons {sep : Char → Bool} {c : Char} (hc : sep c = true) (u r : List Char) :
    pieces sep (u ++ c :: r) = pieces sep u ++ pieces sep r := by
  induction u with
  | nil => simp [pieces, hc]
  | cons d u ih =>
    obtain ⟨w, ws, hws⟩ := List.exists_cons_of_ne_nil (pieces_ne_nil sep u)
    rw [List.cons_append, pieces, pieces, ih, hws]
    split <;> simp

def codeOf (ls : List String) : List String := ls.flatMap fun l => code (textLines l)

theorem textLines_joinLines (h : ls ≠ []) :
    textLines (joinLines ls) = ls.flatMap textLines ++ [""] := by
  have hpieces (us : List (List Char)) : pieces (· == '\n') (us.flatMap (· ++ ['\n'])) =
      us.flatMap (pieces (· == '\n')) ++ [[]] := by
    induction us with
    | nil => rfl
    | cons u us ih =>
      rw [List.flatMap_cons, List.append_assoc, List.singleton_append,
        pieces_append_cons (by decide), ih, List.flatMap_cons, List.append_assoc]
  rw [textLines, toList_joinLines h, hpieces, List.map_append, List.map_flatMap, List.flatMap_map]
  rfl

theorem code_textLines_joinLines (h : ls ≠ []) :
    code (textLines (joinLines ls)) = codeOf ls ++ [""] := by
  rw [textLines_joinLines h, code_append, code_flatMap]
  rfl

def SameCode (ls ls' : List String) : Prop := codeOf ls = codeOf ls'

namespace SameCode

theorem refl (ls : List String) : SameCode ls ls := rfl

theorem append (h : SameCode ls ls') (h' : SameCode rs rs') : SameCode (ls ++ rs) (ls' ++ rs') := by
  unfold SameCode codeOf at *
  rw [List.flatMap_append, List.flatMap_append, h, h']

theorem cons (x : String) (h : SameCode ls ls') : SameCode (x :: ls) (x :: ls') :=
  (refl [x]).append h

theorem flatMap {α : Type} {f g : α → List String} (h : ∀ a, SameCode (f a) (g a)) (as : List α) :
    SameCode (as.flatMap f) (as.flatMap g) := by
  induction as with
  | nil => exact refl []
  | cons a as ih => exact (h a).append ih

end SameCode

theorem isComment_of_isNote (h : IsNote x) : isComment x = true := by
  obtain ⟨r, hr⟩ := h.1
  rw [isComment, ← hr]
  simp

theorem codeOf_comment (h : ∀ x ∈ texts, IsNote x) : codeOf (comment o level texts) = [] := by
  refine List.flatMap_eq_nil_iff.2 fun l hl => ?_
  unfold comment at hl
  split at hl
  · obtain ⟨x, hx, rfl⟩ := List.mem_map.1 hl
    have hnote := h x hx
    have hplain : ∀ c ∈ (indented level x).toList, (c == '\n') = false := by
      intro c hc
      rw [toList_indented] at hc
      rcases List.mem_append.1 hc with hc | hc
      · rw [List.eq_of_mem_replicate hc]
        decide
      · simpa using ne_of_mem_of_not_mem hc hnote.2
    rw [textLines, pieces_eq_self hplain]
    simp [code, isComment_indented, isComment_of_isNote hnote]
  · cases hl

theorem sameCode_comment (h : ∀ x ∈ texts, IsNote x) :
    SameCode (comment o level texts) (comment o' level texts) := by
  rw [SameCode, codeOf_comment h, codeOf_comment h]

theorem sameCode_note (h : IsNote x) : SameCode (comment o level [x]) (comment o' level [x]) :=
  sameCode_comment (List.forall_mem_singleton.2 h)

theorem sameCode_testFunction (hdoc : '\n' ∉ doc.toList) (h : SameCode body body') :
    SameCode (testFunction o doc name body) (testFunction o' doc name body') := by
  have hnote : IsNote ("/// " ++ doc) := IsNote.append (by decide) hdoc
  exact ((((sameCode_note hnote).cons "").append (.refl _)).append h).append (.refl _)

theorem sameCode_testFunctionFor {α : Type} {subjects : List α} {lines lines' : List α → List String}
    (hdoc : '\n' ∉ doc.toList) (h : SameCode (lines subjects) (lines' subjects)) :
    SameCode (testFunctionFor o doc name subjects lines)
      (testFunctionFor o' doc name subjects lines') := by
  unfold testFunctionFor
  split
  · exact .refl []
  · exact sameCode_testFunction hdoc h

theorem sameCode_header (hname : '\n' ∉ name.toList) (h : o.launchArguments = o'.launchArguments) :
    SameCode (header name o) (header name o') := by
  unfold header
  rw [h]
  exact ((((SameCode.refl _).append (sameCode_note (by decide))).append (.refl _)).append
    (sameCode_comment (isNote_navigate hname))).append (.refl _)

theorem sameCode_existenceTest (m : ViewModel) : SameCode (existenceTest m o) (existenceTest m o') := by
  refine sameCode_testFunction (by decide) ((SameCode.refl _).append (.flatMap (fun f => ?_) _))
  unfold existenceLines
  split
  · exact .refl []
  · exact (sameCode_note ((isNote_label (by decide) f).append (by decide))).append (.refl _)

theorem sameCode_textInputTest (m : ViewModel) : SameCode (textInputTest m o) (textInputTest m o') := by
  refine sameCode_testFunctionFor (by decide) (.flatMap (fun p => ?_) _)
  refine ((sameCode_note (isNote_label (by decide) p.1)).append (.refl _)).append ?_
  split
  · exact sameCode_note (by decide)
  · exact .refl _

theorem sameCode_buttonTest (m : ViewModel) : SameCode (buttonTest m o) (buttonTest m o') := by
  refine sameCode_testFunctionFor (by decide) (.flatMap (fun p => ?_) _)
  exact ((sameCode_note ((isNote_label (by decide) p.1).append (by decide))).append (.refl _)).append
    (sameCode_note (by decide))

theorem sameCode_toggleTest (m : ViewModel) : SameCode (toggleTest m o) (toggleTest m o') := by
  refine sameCode_testFunctionFor (by decide) (.flatMap (fun p => ?_) _)
  exact (sameCode_note ((isNote_label (by decide) p.1).append (by decide))).append (.refl _)

theorem sameCode_stateChangeTest (m : ViewModel) :
    SameCode (stateChangeTest m o) (stateChangeTest m o') :=
  sameCode_testFunctionFor (by decide) (.refl _)

theorem sameCode_navigationTest (m : ViewModel) :
    SameCode (navigationTest m o) (navigationTest m o') := by
  refine sameCode_testFunction (by decide) ((SameCode.refl _).append (.flatMap (fun p => ?_) _))
  exact (((sameCode_note (isNote_label (by decide) p.1)).append (.refl _)).append
    (sameCode_comment isNote_verify)).append (.refl _)

theorem sameCode_marker {c : Bool} (h : SameCode ls ls') :
    SameCode (if c then ls else []) (if c then ls' else []) := by
  cases c with
  | true => exact h
  | false => exact .refl []

theorem sameCode_comments (hname : '\n' ∉ m.name.toList) (o : Options) :
    SameCode (interfaceTestLines m { o with comments := true })
      (interfaceTestLines m { o with comments := false }) := by
  have hsections : SameCode (sections m { o with comments := true }).flatten
      (sections m { o with comments := false }).flatten := by
    simp only [sections, List.flatten_cons, List.flatten_nil]
    exact (sameCode_existenceTest m).append <| (sameCode_textInputTest m).append <|
      (sameCode_buttonTest m).append <| (sameCode_toggleTest m).append <|
        (sameCode_marker (sameCode_stateChangeTest m)).append <|
          (sameCode_marker (sameCode_navigationTest m)).append (.refl [])
  have hheader : SameCode (header m.name { o with comments := true })
      (header m.name { o with comments := false }) := sameCode_header hname rfl
  simp only [interfaceTestLines]
  exact ((hheader.append hsections).append (.refl _)).append (.refl _)

theorem inserted_nothing (hfront : front ≠ []) (hrest : rest ≠ []) :
    Inserted "" (joinLines (front ++ rest)) (joinLines (front ++ rest)) := by
  have hlines := joinLines_append hfront hrest
  exact ⟨front, rest, hlines, by rw [String.append_empty, hlines]⟩

theorem inserted_joinLines (hfront : front ≠ []) (hls : ls ≠ []) (hrest : rest ≠ []) :
    Inserted (joinLines ls) (joinLines (front ++ rest)) (joinLines (front ++ ls ++ rest)) :=
  ⟨front, rest, joinLines_append hfront hrest, by
    rw [joinLines_append (List.append_ne_nil_of_left_ne_nil hfront ls) hrest,
      joinLines_append hfront hls]⟩

theorem Meets.inserted {p : TestPlan} (h : Meets o p ls) (hfront : front ≠ []) (hrest : rest ≠ []) :
    ∃ x, AtMostTest o p.name x ∧
      Inserted x (joinLines (front ++ rest)) (joinLines (front ++ ls ++ rest)) := by
  unfold Meets at h
  split at h
  · obtain ⟨body, rfl, hdeep, -⟩ := h
    have hne : testFunction o p.doc p.name body ≠ [] := List.cons_ne_nil _ _
    exact ⟨_, .inr ⟨p.doc, body, rfl, hdeep⟩, inserted_joinLines hfront hne hrest⟩
  · subst h
    rw [List.append_nil]
    exact ⟨"", .inl rfl, inserted_nothing hfront hrest⟩

def opening (m : ViewModel) (o : Options) : List String :=
  header m.name o ++ existenceTest m o ++ textInputTest m o ++ buttonTest m o ++ toggleTest m o

def stateSection (m : ViewModel) (o : Options) : List String :=
  if o.stateTests then stateChangeTest m o else []

def navigationSection (m : ViewModel) (o : Options) : List String :=
  if o.navigationTests && m.isNavigationContainer then navigationTest m o else []

def closing (m : ViewModel) (o : Options) : List String :=
  "\x7d" :: if o.suggestions then suggestions m else []

theorem rendered_eq (m : ViewModel) (o : Options) : rendered m o =
    joinLines (opening m o ++ stateSection m o ++ navigationSection m o ++ closing m o) := by
  simp only [rendered, interfaceTestLines, sections, opening, stateSection, navigationSection,
    closing, List.flatten_cons, List.flatten_nil, List.append_nil, List.append_assoc,
    List.singleton_append]

theorem opening_ne_nil (m : ViewModel) (o : Options) : opening m o ≠ [] := List.cons_ne_nil _ _

theorem inserted_stateTests (m : ViewModel) (o : Options) :
    ∃ x, AtMostTest { o with stateTests := true } "testStateChanges" x ∧
      Inserted x (rendered m { o with stateTests := false })
        (rendered m { o with stateTests := true }) := by
  have hwithout : rendered m { o with stateTests := false } =
      joinLines (opening m o ++ (navigationSection m o ++ closing m o)) := by
    rw [rendered_eq, List.append_assoc, show stateSection m { o with stateTests := false } = [] from rfl,
      List.append_nil]
    rfl
  have hwith : rendered m { o with stateTests := true } =
      joinLines (opening m o ++ stateSection m { o with stateTests := true } ++
        (navigationSection m o ++ closing m o)) := by
    rw [rendered_eq, List.append_assoc]
    rfl
  rw [hwithout, hwith]
  exact (meets_stateChangeTest m { o with stateTests := true }).inserted (opening_ne_nil m o)
    (by simp [closing])

theorem inserted_navigationTests (m : ViewModel) (o : Options) :
    ∃ x, AtMostTest { o with navigationTests := true } "testNavigation" x ∧
      Inserted x (rendered m { o with navigationTests := false })
        (rendered m { o with navigationTests := true }) := by
  have hwithout : rendered m { o with navigationTests := false } =
      joinLines (opening m o ++ stateSection m o ++ closing m o) := by
    rw [rendered_eq, show navigationSection m { o with navigationTests := false } = [] from rfl,
      List.append_nil]
    rfl
  have hwith : rendered m { o with navigationTests := true } =
      joinLines (opening m o ++ stateSection m o ++
        navigationSection m { o with navigationTests := true } ++ closing m o) := by
    rw [rendered_eq]
    rfl
  rw [hwithout, hwith]
  exact (meets_navigationTest m { o with navigationTests := true }).inserted
    (List.append_ne_nil_of_left_ne_nil (opening_ne_nil m o) _) (List.cons_ne_nil _ _)

theorem header_launch (name : String) (o : Options) : ∃ front rest, front ≠ [] ∧
    header name { o with launchArguments := false } = front ++ rest ∧
    header name { o with launchArguments := true } = front ++ [launchLine] ++ rest := by
  have hline : indented 2 "app.launchArguments = [\"--uitesting\"]" = launchLine := by decide
  -- They are the ninth line, if they are in the header at all.
  refine ⟨(header name { o with launchArguments := false }).take 8,
    (header name { o with launchArguments := false }).drop 8, List.cons_ne_nil _ _,
    (List.take_append_drop 8 _).symm, ?_⟩
  rw [← hline]
  rfl

theorem inserted_launchArguments (m : ViewModel) (o : Options) :
    Inserted (launchLine ++ "\n") (rendered m { o with launchArguments := false })
      (rendered m { o with launchArguments := true }) := by
  obtain ⟨front, rest, hfront, hwithout, hwith⟩ := header_launch m.name o
  have hline : joinLines [launchLine] = launchLine ++ "\n" := by
    rw [joinLines, String.intercalate_singleton]
  have hrendered (b : Bool) : rendered m { o with launchArguments := b } =
      joinLines (header m.name { o with launchArguments := b } ++
        ((sections m o).flatten ++ closing m o)) := by
    rw [rendered, interfaceTestLines]
    simp only [closing, List.append_assoc, List.singleton_append]
    rfl
  have hrest : rest ++ ((sections m o).flatten ++ closing m o) ≠ [] := by simp [closing]
  have hinserted := inserted_joinLines hfront (List.cons_ne_nil launchLine []) hrest
  rw [hrendered, hrendered, hwithout, hwith, ← hline]
  simpa only [List.append_assoc] using hinserted

theorem suggestions_appended (m : ViewModel) (o : Options) :
    ∃ more, rendered m { o with suggestions := true } =
      rendered m { o with suggestions := false } ++ more := by
  have hne : opening m o ++ stateSection m o ++ navigationSection m o ++ ["\x7d"] ≠ [] := by simp
  have hwithout : rendered m { o with suggestions := false } =
      joinLines (opening m o ++ stateSection m o ++ navigationSection m o ++ ["\x7d"]) := by
    rw [rendered_eq]
    rfl
  have hwith : rendered m { o with suggestions := true } =
      joinLines (opening m o ++ stateSection m o ++ navigationSection m o ++ ["\x7d"] ++
        suggestions m) := by
    rw [rendered_eq, List.append_assoc _ ["\x7d"]]
    rfl
  rw [hwithout, hwith]
  by_cases hnone : suggestions m = []
  · exact ⟨"", by rw [hnone, List.append_nil, String.append_empty]⟩
  · exact ⟨joinLines (suggestions m), joinLines_append hne hnone⟩

theorem declared?_letLine (hv : IsName v) (x : String) : declared? (letLine v x) = some v := by
  have hline : (letLine v x).toList =
      "        let ".toList ++ (v.toList ++ ' ' :: ("= ".toList ++ x.toList)) := by
    rw [letLine, toList_indented]
    simp
  have hname : ∀ c ∈ v.toList, (c != ' ') = true := by
    intro c hc
    rw [bne_iff_ne]
    rintro rfl
    exact absurd (hv.2 _ hc) (by decide)
  have hdrop : ("        let ".toList ++ (v.toList ++ ' ' :: ("= ".toList ++ x.toList))).drop 12 =
      v.toList ++ ' ' :: ("= ".toList ++ x.toList) := rfl
  rw [declared?, hline, if_pos (by simp), hdrop, List.takeWhile_append_of_pos hname]
  simp

theorem declared?_indented (h : ¬ "let ".toList <+: x.toList) : declared? (indented 2 x) = none := by
  rw [declared?, if_neg]
  rw [toList_indented, List.isPrefixOf_iff_prefix]
  intro hstart
  refine h ((List.prefix_append_right_inj (List.replicate 8 ' ')).1 ?_)
  exact hstart

theorem declared?_call (hv : IsName v) (h : x.toList.head? = some '.') :
    declared? (indented 2 (v ++ x)) = none := by
  refine declared?_indented fun hstart => ?_
  obtain ⟨r, hr⟩ := List.head?_eq_some_iff.1 h
  rw [String.toList_append, hr] at hstart
  have hblank : ' ' ∈ v.toList := (prefix_of_prefix_append hstart (by decide)).subset (by decide)
  exact absurd (hv.2 _ hblank) (by decide)

theorem declared?_assertExists (x : String) : declared? (assertExists x) = none :=
  declared?_indented (by simp)

theorem variablesOf_append (ls rs : List String) :
    variablesOf (ls ++ rs) = variablesOf ls ++ variablesOf rs := List.filterMap_append

theorem variablesOf_flatMap {α : Type} (f : α → List String) (as : List α) :
    variablesOf (as.flatMap f) = as.flatMap fun a => variablesOf (f a) := List.filterMap_flatMap

theorem variablesOf_comment (h : ∀ x ∈ texts, IsNote x) : variablesOf (comment o 2 texts) = [] := by
  refine List.filterMap_eq_nil_iff.2 fun l hl => ?_
  unfold comment at hl
  split at hl
  · obtain ⟨x, hx, rfl⟩ := List.mem_map.1 hl
    obtain ⟨r, hr⟩ := (h x hx).1
    exact declared?_indented (by simp [← hr])
  · cases hl

theorem variablesOf_note (h : IsNote x) : variablesOf (comment o 2 [x]) = [] :=
  variablesOf_comment (List.forall_mem_singleton.2 h)

theorem declared?_shallow (h : ∀ c ∈ x.toList.head?, c ≠ ' ') : declared? (indented 1 x) = none := by
  rw [declared?, if_neg]
  rw [toList_indented, List.isPrefixOf_iff_prefix]
  intro hstart
  obtain ⟨r, hr⟩ := (List.prefix_append_right_inj (List.replicate 4 ' ')).1
    (show List.replicate 4 ' ' ++ "    let ".toList <+: _ from hstart)
  exact h ' ' (by rw [← hr]; rfl) rfl

theorem variablesOf_testFunction : variablesOf (testFunction o doc name body) = variablesOf body := by
  have hdoc : variablesOf (comment o 1 ["/// " ++ doc]) = [] := by
    unfold comment
    split
    · simp [variablesOf, declared?_shallow]
    · rfl
  have hopening : variablesOf [indented 1 ("func " ++ name ++ "() throws \x7b")] = [] := by
    simp [variablesOf, declared?_shallow]
  have hblank : variablesOf [""] = [] := rfl
  have hclosing : variablesOf [indented 1 "\x7d"] = [] := by decide
  rw [testFunction, ← List.singleton_append]
  simp only [variablesOf_append, hdoc, hopening, hblank, hclosing, List.nil_append, List.append_nil]

theorem variablesOf_testFunctionFor {α : Type} {subjects : List α} {lines : List α → List String}
    (h : subjects = [] → variablesOf (lines subjects) = []) :
    variablesOf (testFunctionFor o doc name subjects lines) = variablesOf (lines subjects) := by
  unfold testFunctionFor
  split
  · rename_i hnone
    rw [h (by simpa using hnone)]
    rfl
  · exact variablesOf_testFunction

theorem variablesOf_tapLines (f : Fact) (hv : IsName v) : variablesOf (tapLines f v) = [v] := by
  have htap : declared? (tap v) = none := declared?_call hv rfl
  simp [variablesOf, tapLines, declared?_letLine hv, declared?_assertExists, htap]

theorem variablesOf_inputLines (f : Fact) (hv : IsName v) : variablesOf (inputLines o f v) = [v] := by
  have htap : declared? (tap v) = none := declared?_call hv rfl
  have htype : declared? (indented 2 (v ++ ".typeText(\"" ++ sampleInput ++ "\")")) = none := by
    rw [String.append_assoc, String.append_assoc]
    exact declared?_call hv rfl
  have hlast : variablesOf (if f.kind = .secureField then
      comment o 2 ["// Secure fields do not expose their typed value"]
    else [indented 2 ("XCTAssertEqual(" ++ v ++ ".value as? String, \"" ++ sampleInput ++ "\")")]) =
      [] := by
    split
    · exact variablesOf_note (by decide)
    · simp [variablesOf, declared?_indented]
  rw [inputLines, variablesOf_append, variablesOf_append, hlast,
    variablesOf_note (isNote_label (by decide) f)]
  simp [variablesOf, declared?_letLine hv, declared?_assertExists, htap, htype]

theorem variablesOf_buttonLines (f : Fact) (hv : IsName v) :
    variablesOf (buttonLines o f v) = [v] := by
  rw [buttonLines, variablesOf_append, variablesOf_append, variablesOf_tapLines f hv,
    variablesOf_note ((isNote_label (by decide) f).append (by decide)), variablesOf_note (by decide)]
  rfl

theorem variablesOf_linkLines (f : Fact) (hv : IsName v) : variablesOf (linkLines o f v) = [v] := by
  have hback : variablesOf [indented 2 "app.navigationBars.buttons.element(boundBy: 0).tap()"] = [] := by
    decide
  rw [linkLines, variablesOf_append, variablesOf_append, variablesOf_append,
    variablesOf_tapLines f hv, variablesOf_note (isNote_label (by decide) f),
    variablesOf_comment isNote_verify, hback]
  rfl

theorem variablesOf_toggleLines (f : Fact) {n : ToggleNames} (hn : ∀ v ∈ toggleVars n, IsName v) :
    variablesOf (toggleLines o f n) = toggleVars n := by
  simp only [toggleVars, List.forall_mem_cons] at hn
  obtain ⟨htoggle, hinitial, hupdated, -⟩ := hn
  have htap : declared? (tap n.toggle) = none := declared?_call htoggle rfl
  have hcompare : declared? (indented 2
      ("XCTAssertNotEqual(" ++ n.initial ++ ", " ++ n.updated ++ ")")) = none :=
    declared?_indented (by simp)
  rw [toggleLines, variablesOf_append, variablesOf_note ((isNote_label (by decide) f).append (by decide))]
  simp [variablesOf, toggleVars, declared?_letLine, htoggle, hinitial, hupdated,
    declared?_assertExists, htap, hcompare]

theorem variablesOf_nameEach {α : Type} {choose : Fact → List String → α × List String}
    {vars : α → List String} {lines : Fact → α → List String} (hfresh : Fresh choose vars)
    (h : ∀ f a, (∀ v ∈ vars a, IsName v) → variablesOf (lines f a) = vars a)
    (used : List String) (fs : List Fact) :
    variablesOf ((nameEach choose used fs).flatMap fun p => lines p.1 p.2) =
      (nameEach choose used fs).flatMap fun p => vars p.2 := by
  -- The variables in use change those that are chosen, but a block declares what is chosen for it.
  induction fs generalizing used with
  | nil => rfl
  | cons f fs ih =>
    simp only [nameEach, List.flatMap_cons]
    rw [variablesOf_append, h f _ (hfresh.isName f used), ih]

theorem variablesOf_chooseOne {lines : Fact → String → List String}
    (hx : ∀ c ∈ x.toList, isNameChar c = true)
    (h : ∀ f v, IsName v → variablesOf (lines f v) = [v]) (fs : List Fact) :
    variablesOf ((nameEach (chooseOne x) [] fs).flatMap fun p => lines p.1 p.2) =
      (nameEach (chooseOne x) [] fs).map (·.2) := by
  have hvars := variablesOf_nameEach (fresh_chooseOne hx)
    (fun f v hv => h f v (hv v (List.mem_singleton_self v))) [] fs
  rwa [← List.map_eq_flatMap] at hvars

def localsOf (m : ViewModel) (name : String) : List String :=
  if name = "testTextInput" then
    (nameEach (chooseOne "Field") [] (m.elementsOf [.textField, .secureField])).map (·.2)
  else if name = "testButtonTaps" then
    (nameEach (chooseOne "") [] ((m.elementsOf [.button]).filter (·.hasAction))).map (·.2)
  else if name = "testToggles" then
    (nameEach chooseToggle [] (m.elementsOf [.toggle])).flatMap fun p => toggleVars p.2
  else if name = "testNavigation" then
    (nameEach (chooseOne "") [] (m.elementsOf [.navigationLink])).map (·.2)
  else []

theorem variablesOf_existenceTest (m : ViewModel) (o : Options) :
    variablesOf (existenceTest m o) = [] := by
  have hmarker : variablesOf (if m.isEmpty then [indented 2 noElementsMarker] else []) = [] := by
    split <;> decide
  have helement (f : Fact) : variablesOf (existenceLines o f) = [] := by
    rw [existenceLines, if_neg (by simpa using effectiveIdentifier_ne_empty f), variablesOf_append,
      variablesOf_note ((isNote_label (by decide) f).append (by decide))]
    simp [variablesOf, declared?_assertExists]
  rw [existenceTest, variablesOf_testFunction, variablesOf_append, hmarker, variablesOf_flatMap]
  simp [helement]

theorem variablesOf_stateChangeTest (m : ViewModel) (o : Options) :
    variablesOf (stateChangeTest m o) = [] := by
  have hstate (p : String × Fact) : variablesOf (stateLines p.1 p.2) = [] := by
    simp [variablesOf, stateLines, declared?_indented]
  have hlines (ps : List (String × Fact)) :
      variablesOf (ps.flatMap fun p => stateLines p.1 p.2) = [] := by
    rw [variablesOf_flatMap]
    simp [hstate]
  rw [stateChangeTest, variablesOf_testFunctionFor fun _ => hlines _, hlines]

theorem variablesOf_navigationTest (m : ViewModel) (o : Options) :
    variablesOf (navigationTest m o) =
      (nameEach (chooseOne "") [] (m.elementsOf [.navigationLink])).map (·.2) := by
  have hmarker : variablesOf (if (m.elementsOf [.navigationLink]).isEmpty then
      [indented 2 "// No navigation links found in this view",
        indented 2 "// Add custom navigation test code here"] else []) = [] := by
    split <;> decide
  rw [navigationTest, variablesOf_testFunction, variablesOf_append, hmarker, List.nil_append]
  exact variablesOf_chooseOne (by decide) (fun f v hv => variablesOf_linkLines f hv) _

theorem variablesOf_textInputTest (m : ViewModel) (o : Options) :
    variablesOf (textInputTest m o) = localsOf m "testTextInput" := by
  rw [textInputTest, variablesOf_testFunctionFor fun h => by rw [h]; rfl]
  exact variablesOf_chooseOne (by decide) (fun f v hv => variablesOf_inputLines f hv) _

theorem variablesOf_buttonTest (m : ViewModel) (o : Options) :
    variablesOf (buttonTest m o) = localsOf m "testButtonTaps" := by
  rw [buttonTest, variablesOf_testFunctionFor fun h => by rw [h]; rfl]
  exact variablesOf_chooseOne (by decide) (fun f v hv => variablesOf_buttonLines f hv) _

theorem variablesOf_toggleTest (m : ViewModel) (o : Options) :
    variablesOf (toggleTest m o) = localsOf m "testToggles" := by
  rw [toggleTest, variablesOf_testFunctionFor fun h => by rw [h]; rfl]
  exact variablesOf_nameEach fresh_chooseToggle (fun f n hn => variablesOf_toggleLines f hn) [] _

def named (m : ViewModel) (p : TestPlan) : TestPlan :=
  { p with holds := fun lines => variablesOf lines = localsOf m p.name }

theorem Meets.named {p : TestPlan} (h : Meets o p ls)
    (hvars : p.wanted = true → variablesOf ls = localsOf m p.name) : Meets o (named m p) ls := by
  refine h.replan fun body hwanted hls => ?_
  rw [← hvars hwanted, hls, variablesOf_testFunction]

theorem meets_named (m : ViewModel) (o : Options) :
    List.Forall₂ (Meets o) ((plans m o).map (named m)) (sections m o) := by
  have hstate : o.stateTests = true → variablesOf (if o.stateTests then stateChangeTest m o else []) =
      localsOf m "testStateChanges" := fun ho => by
    rw [if_pos ho]
    exact variablesOf_stateChangeTest m o
  have hnavigation : (o.navigationTests && m.isNavigationContainer) = true →
      variablesOf (if o.navigationTests && m.isNavigationContainer then navigationTest m o else []) =
        localsOf m "testNavigation" := fun hw => by
    rw [if_pos hw]
    exact variablesOf_navigationTest m o
  exact
    .cons ((meets_existenceTest m o).named fun _ => variablesOf_existenceTest m o) <|
    .cons ((meets_textInputTest m o).named fun _ => variablesOf_textInputTest m o) <|
    .cons ((meets_buttonTest m o).named fun _ => variablesOf_buttonTest m o) <|
    .cons ((meets_toggleTest m o).named fun _ => variablesOf_toggleTest m o) <|
    .cons ((meets_stateChangeTest m o).named fun hw => hstate (Bool.and_eq_true_iff.1 hw).1) <|
    .cons ((meets_navigationTest m o).named hnavigation) .nil

theorem variablesOf_function_append {f : String × List String}
    (hrest : ∀ l ∈ rest, functionName? l = none)
    (h : f ∈ functionsOf (interfaceTestLines m o ++ rest)) : variablesOf f.2 = localsOf m f.1 := by
  obtain ⟨p, hp, -, hname, hholds⟩ :=
    exists_plan (meets_named m o) (parenthesis_not_mem_map fun _ => rfl) hrest h
  obtain ⟨q, -, rfl⟩ := List.mem_map.1 hp
  rw [← hname]
  exact hholds

theorem variablesOf_function {f : String × List String} (h : f ∈ functionsOf (interfaceTestLines m o)) :
    variablesOf f.2 = localsOf m f.1 := by
  rw [← List.append_nil (interfaceTestLines m o)] at h
  exact variablesOf_function_append (by simp) h

/-- With other options a view gets the same code with other comments, or one test function, one line or
the suggestions more. The variables of each test function are the same with all options. -/
theorem options_apart (m : ViewModel) (hname : blankText m.name = false)
    (hline : '\n' ∉ m.name.toList) :
    (∀ o, interfaceTests m o = .ok (rendered m o)) ∧ OptionsApart (rendered m) ∧
      ∃ names : String → List String, ∀ o, ∀ f ∈ functionsOf (interfaceTestLines m o),
        variablesOf f.2 = names f.1 := by
  have hcomments (o : Options) : code (textLines (rendered m { o with comments := true })) =
      code (textLines (rendered m { o with comments := false })) := by
    have hne (o : Options) : interfaceTestLines m o ≠ [] := List.cons_ne_nil _ _
    have hcode : codeOf (interfaceTestLines m { o with comments := true }) =
        codeOf (interfaceTestLines m { o with comments := false }) := sameCode_comments hline o
    rw [rendered, rendered, code_textLines_joinLines (hne _), code_textLines_joinLines (hne _), hcode]
  refine ⟨fun o => if_neg (by simp [hname]), ?_, localsOf m, fun o f hf => variablesOf_function hf⟩
  exact {
    comments := hcomments
    suggestions := suggestions_appended m
    stateTests := inserted_stateTests m
    navigationTests := inserted_navigationTests m
    launchArguments := inserted_launchArguments m }

def settings : ViewModel where
  name := "Settings"
  stateVariables := [("dark", "Bool")]
  elements := [{ kind := .toggle, name := "dark mode", identifier := some "dark" },
    { kind := .navigationLink, name := "About", identifier := some "about" }]
  isNavigationContainer := true

theorem options_apart_settings :
    OptionsApart (rendered settings) ∧
    variablesOf (toggleTest settings {}) = ["dark", "darkInitial", "darkUpdated"] ∧
    ∃ names : String → List String, ∀ o, ∀ f ∈ functionsOf (interfaceTestLines settings o),
      variablesOf f.2 = names f.1 := by
  obtain ⟨-, hapart, hnames⟩ := options_apart settings (by decide) (by decide)
  refine ⟨hapart, ?_, hnames⟩
  rw [variablesOf_toggleTest]
  decide

end TestScaffold.Render
