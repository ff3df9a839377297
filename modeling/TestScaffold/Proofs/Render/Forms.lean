import Mathlib.Data.List.Forall2
import TestScaffold.Proofs.Render.Sections
import TestScaffold.Proofs.Swift.LineForms
import TestScaffold.Proofs.Swift.PrintedView

/-!
The forms of the lines of a test class. They follow from the kinds of the elements and from how many
there are; no label, identifier or name changes what a line opens or closes.
-/

namespace TestScaffold.Render

open Text Swift

structure Shape where
  elements : List (FactKind × Bool)
  mentions : Nat
  navigates : Bool
  deriving DecidableEq, Repr

def elementShape (f : Fact) : FactKind × Bool := (f.kind, f.hasAction)

def shapeOf (m : ViewModel) : Shape where
  elements := m.elements.map elementShape
  mentions := (affected m).length
  navigates := m.isNavigationContainer

def notes (o : Options) (n : Nat) : List LineForm := if o.comments then List.replicate n .note else []

def headerForms (o : Options) : List LineForm :=
  [.plain, .plain, .plain, .opening, .plain] ++ (if o.launchArguments then [.literal] else []) ++
    notes o 1 ++ [.plain] ++ notes o 2 ++ [.closing]

def functionForms (o : Options) (body : List LineForm) : List LineForm :=
  .plain :: notes o 1 ++ [.opening] ++ body ++ [.closing]

def functionFormsFor {α : Type} (o : Options) (subjects : List α) (body : α → List LineForm) :
    List LineForm :=
  if subjects.isEmpty then [] else functionForms o (subjects.flatMap body)

def tapForms : List LineForm := [.literal, .plain, .plain]

def existenceForms (o : Options) : List LineForm := notes o 1 ++ [.literal]

def inputForms (o : Options) (k : FactKind) : List LineForm :=
  notes o 1 ++ [.literal, .plain, .plain, .literal] ++
    if k = .secureField then notes o 1 else [.literal]

def buttonForms (o : Options) : List LineForm := notes o 1 ++ tapForms ++ notes o 1

def toggleForms (o : Options) : List LineForm :=
  notes o 1 ++ [.literal, .plain, .plain, .plain, .plain, .plain]

def linkForms (o : Options) : List LineForm := notes o 1 ++ tapForms ++ notes o 2 ++ [.plain]

def sectionForms (s : Shape) (o : Options) : List (List LineForm) :=
  let links := s.elements.filter (·.1 == .navigationLink)
  [functionForms o <| (if s.elements.isEmpty then [.note] else []) ++
     s.elements.flatMap fun _ => existenceForms o,
   functionFormsFor o (s.elements.filter (·.1.isTextInput)) fun e => inputForms o e.1,
   functionFormsFor o (s.elements.filter fun e => e.1 == .button && e.2) fun _ => buttonForms o,
   functionFormsFor o (s.elements.filter (·.1 == .toggle)) fun _ => toggleForms o,
   if o.stateTests then
     functionFormsFor o (List.replicate s.mentions ()) fun _ => [.note, .note, .note]
   else [],
   if o.navigationTests && s.navigates then
     functionForms o <| (if links.isEmpty then [.note, .note] else []) ++
       links.flatMap fun _ => linkForms o
   else []]

def classForms (s : Shape) (o : Options) : List LineForm :=
  headerForms o ++ (sectionForms s o).flatten

variable {o : Options} {body : List LineForm}

theorem level_notes (o : Options) (n : Nat) : Level (notes o n) := by
  apply level_flat
  unfold notes
  intro f hf
  split at hf
  · obtain rfl := List.eq_of_mem_replicate hf
    decide
  · cases hf

theorem level_functionForms (h : Level body) : Level (functionForms o body) := by
  have hblank : Level [.plain] := level_flat (by decide)
  have hfront : Level (.plain :: notes o 1) := hblank.append (level_notes o 1)
  have hrest := hfront.append h.braces
  simpa only [functionForms, List.append_assoc, List.cons_append, List.nil_append] using hrest

theorem level_functionFormsFor {α : Type} {subjects : List α} {forms : α → List LineForm}
    (h : ∀ a, Level (forms a)) : Level (functionFormsFor o subjects forms) := by
  unfold functionFormsFor
  split
  · exact fun d => rfl
  · exact level_functionForms (level_flatMap h)

theorem level_headerForms (o : Options) : Level (headerForms o) := by
  have hlaunch : Level (if o.launchArguments then [.literal] else []) := by
    apply level_flat
    split <;> decide
  have hbody : Level ([.plain] ++ (if o.launchArguments then [.literal] else []) ++ notes o 1 ++
      [.plain] ++ notes o 2) :=
    ((((level_flat (by decide)).append hlaunch).append (level_notes o 1)).append
      (level_flat (by decide))).append (level_notes o 2)
  have hfront : Level [.plain, .plain, .plain] := level_flat (by decide)
  have hheader := hfront.append hbody.braces
  simpa only [headerForms, List.append_assoc, List.cons_append, List.nil_append] using hheader

theorem level_inputForms (o : Options) (k : FactKind) : Level (inputForms o k) := by
  apply ((level_notes o 1).append (level_flat (by decide))).append
  split
  · exact level_notes o 1
  · exact level_flat (by decide)

theorem level_tapForms (o : Options) : Level (notes o 1 ++ tapForms) :=
  (level_notes o 1).append (level_flat (by decide))

theorem level_classForms (s : Shape) (o : Options) : Level (classForms s o) := by
  have hexistence : Level (existenceForms o) := (level_notes o 1).append (level_flat (by decide))
  have htoggle : Level (toggleForms o) := (level_notes o 1).append (level_flat (by decide))
  have hbutton : Level (buttonForms o) := (level_tapForms o).append (level_notes o 1)
  have hlink : Level (linkForms o) :=
    ((level_tapForms o).append (level_notes o 2)).append (level_flat (by decide))
  have hmarker {b : Bool} {fs : List LineForm} (h : ∀ f ∈ fs, f ≠ .opening ∧ f ≠ .closing) :
      Level (if b then fs else []) := by
    split
    · exact level_flat h
    · exact fun d => rfl
  have hsections : ∀ fs ∈ sectionForms s o, Level fs := by
    simp only [sectionForms, List.forall_mem_cons]
    refine ⟨?_, ?_, ?_, ?_, ?_, ?_, by simp⟩
    · exact level_functionForms ((hmarker (by decide)).append (level_flatMap fun _ => hexistence))
    · exact level_functionFormsFor fun e => level_inputForms o e.1
    · exact level_functionFormsFor fun _ => hbutton
    · exact level_functionFormsFor fun _ => htoggle
    · split
      · exact level_functionFormsFor fun _ => level_flat (by decide)
      · exact fun d => rfl
    · split
      · exact level_functionForms ((hmarker (by decide)).append (level_flatMap fun _ => hlink))
      · exact fun d => rfl
  exact (level_headerForms o).append (level_flatten hsections)

variable {a b i s v x : String} {f : LineForm} {n : Nat}

theorem isCode_append (ha : IsCode a.toList) (hb : IsCode b.toList) : IsCode (a ++ b).toList := by
  rw [String.toList_append]
  exact ha.append hb

theorem isCode_of_isName (h : IsName v) : IsCode v.toList := by
  intro c hc
  refine ⟨isPlain_of_isWord (isWord_of_isNameChar (h.2 c hc)), ?_⟩
  rintro rfl
  exact absurd (h.2 _ hc) (by decide)

theorem isCode_query (k : FactKind) : IsCode (query k).toList := by
  cases k <;> decide

theorem isLiteral_swiftString (s : String) : IsLiteral (swiftString s).toList := by
  rw [swiftString, String.toList_ofList]
  generalize s.toList = cs
  induction cs with
  | nil => exact .nil
  | cons c cs ih =>
    rw [List.flatMap_cons]
    rcases escapedChar_cases c with ⟨hc, hplain⟩ | ⟨x, hx, hc, -⟩
    · simp only [List.mem_cons, List.not_mem_nil, or_false, not_or] at hplain
      rw [hc]
      exact .plain hplain.2.1 hplain.1 hplain.2.2 ih
    · have hline : x ≠ '\n' := by
        rintro rfl
        exact absurd hx (by decide)
      rw [hc]
      exact .escape hline ih

theorem swiftString_ne_nil (h : s ≠ "") : (swiftString s).toList ≠ [] := by
  obtain ⟨c, cs, hcs⟩ := List.exists_cons_of_ne_nil (l := s.toList) (by simpa using h)
  rcases escapedChar_cases c with ⟨hc, -⟩ | ⟨x, -, hc, -⟩
  · simp [swiftString, hcs, hc]
  · simp [swiftString, hcs, hc]

theorem mem_openCommentEnds {c : Char} {cs : List Char} (h : c ∈ openCommentEnds cs) :
    c = ' ' ∨ c ∈ cs := by
  induction cs using openCommentEnds.induct with
  | case1 => exact .inr h
  | case2 cs ih =>
    simp only [openCommentEnds, List.mem_cons] at h ⊢
    rcases h with rfl | rfl | rfl | h
    · simp
    · simp
    · simp
    · exact (ih h).imp_right fun h => .inr (.inr h)
  | case3 d cs hend ih =>
    rw [openCommentEnds] at h
    · rcases List.mem_cons.1 h with rfl | h
      · simp
      · exact (ih h).imp_right (List.mem_cons_of_mem d)
    · exact hend

theorem commentText_inline (s : String) : '\n' ∉ (commentText s).toList := by
  rw [commentText, String.toList_ofList]
  intro h
  rcases mem_openCommentEnds h with h | h
  · exact absurd h (by decide)
  · rcases mem_intercalate h with h | ⟨w, hw, hc⟩
    · exact absurd h (by decide)
    · exact absurd (isBlank_of_mem_words hw hc) (by decide)

def IsNote (x : String) : Prop := ['/', '/'] <+: x.toList ∧ '\n' ∉ x.toList

instance (x : String) : Decidable (IsNote x) := inferInstanceAs (Decidable (_ ∧ _))

theorem IsNote.append (h : IsNote a) (hb : '\n' ∉ b.toList) : IsNote (a ++ b) := by
  rw [IsNote, String.toList_append]
  exact ⟨h.1.trans (List.prefix_append _ _), fun hmem => (List.mem_append.1 hmem).elim h.2 hb⟩

theorem hasForm_front (ha : IsCode a.toList) (h : HasForm f b.toList) : HasForm f (a ++ b).toList := by
  rw [String.toList_append]
  exact h.code ha

theorem hasForm_back (h : HasForm .literal a.toList) (hb : IsCode b.toList) :
    HasForm .literal (a ++ b).toList := by
  rw [String.toList_append]
  exact h.codeBehind hb

theorem hasForm_indented (h : HasForm f x.toList) : HasForm f (indented n x).toList := by
  rw [toList_indented]
  apply h.code
  intro c hc
  rw [List.eq_of_mem_replicate hc]
  decide

theorem hasForm_note (h : IsNote x) : HasForm .note x.toList := by
  obtain ⟨⟨v, hv⟩, hline⟩ := h
  rw [← hv] at hline ⊢
  exact .note (u := []) (by decide) fun hmem => hline (List.mem_append_right _ hmem)

theorem hasForm_lookup (ha : IsCode a.toList) (e : Fact) :
    HasForm .literal (lookup a (effectiveIdentifier e)).toList := by
  have hline : (lookup a (effectiveIdentifier e)).toList = ("app.".toList ++ a.toList ++ ['[']) ++
      '"' :: ((swiftString (effectiveIdentifier e)).toList ++ '"' :: [']']) := by
    simp [lookup]
  have hfront : IsCode ("app.".toList ++ a.toList ++ ['[']) :=
    (IsCode.append (by decide) ha).append (by decide)
  rw [hline]
  exact .literal hfront (isLiteral_swiftString _)
    (swiftString_ne_nil (effectiveIdentifier_ne_empty e)) (by decide)

theorem hasForm_lookupOf (e : Fact) : HasForm .literal (lookupOf e).toList :=
  hasForm_lookup (isCode_query e.kind) e

def Forms (fs : List LineForm) (ls : List String) : Prop :=
  List.Forall₂ (fun f l => HasForm f l.toList) fs ls

variable {fs gs : List LineForm} {ls rs texts : List String}

theorem Forms.nil : Forms [] [] := List.Forall₂.nil

theorem Forms.cons (h : HasForm f x.toList) (hrest : Forms fs ls) : Forms (f :: fs) (x :: ls) :=
  List.Forall₂.cons h hrest

theorem Forms.append (h : Forms fs ls) (h' : Forms gs rs) : Forms (fs ++ gs) (ls ++ rs) :=
  List.rel_append h h'

theorem forms_flatMap {α κ : Type} {as : List α} {key : α → κ} {forms : κ → List LineForm}
    {lines : α → List String} (h : ∀ a ∈ as, Forms (forms (key a)) (lines a)) :
    Forms ((as.map key).flatMap forms) (as.flatMap lines) := by
  induction as with
  | nil => exact .nil
  | cons a as ih =>
    rw [List.forall_mem_cons] at h
    exact h.1.append (ih h.2)

theorem forms_nameEach {α κ : Type} {choose : Fact → List String → α × List String}
    {vars : α → List String} {k : Fact → κ} {g : κ → List LineForm}
    {lines : Fact → α → List String} (hfresh : Fresh choose vars)
    (h : ∀ f a, (∀ v ∈ vars a, IsName v) → Forms (g (k f)) (lines f a))
    (used : List String) (es : List Fact) :
    Forms ((es.map k).flatMap g) ((nameEach choose used es).flatMap fun p => lines p.1 p.2) := by
  -- Which names are in use changes the names that are chosen, but not the forms.
  induction es generalizing used with
  | nil => exact .nil
  | cons e es ih => exact (h e _ (hfresh.isName e used)).append (ih _)

theorem forms_chooseOne {κ : Type} {k : Fact → κ} {g : κ → List LineForm}
    {lines : Fact → String → List String} (hx : ∀ c ∈ x.toList, isNameChar c = true)
    (h : ∀ f v, IsName v → Forms (g (k f)) (lines f v)) (es : List Fact) :
    Forms ((es.map k).flatMap g) ((nameEach (chooseOne x) [] es).flatMap fun p => lines p.1 p.2) :=
  forms_nameEach (fresh_chooseOne hx) (fun f v hv => h f v (hv v (List.mem_singleton_self v))) [] es

theorem forms_comment {level : Nat} (h : ∀ x ∈ texts, IsNote x) :
    Forms (notes o texts.length) (comment o level texts) := by
  unfold notes comment
  split
  · induction texts with
    | nil => exact .nil
    | cons x texts ih =>
      rw [List.forall_mem_cons] at h
      exact .cons (hasForm_indented (hasForm_note h.1)) (ih h.2)
  · exact .nil

theorem forms_note {level : Nat} (h : IsNote x) : Forms (notes o 1) (comment o level [x]) :=
  forms_comment (List.forall_mem_singleton.2 h)

theorem forms_testFunction {doc name : String} (hdoc : '\n' ∉ doc.toList) (hname : IsCode name.toList)
    (hbody : Forms body ls) : Forms (functionForms o body) (testFunction o doc name ls) := by
  have hopening : HasForm .opening ("func " ++ name ++ "() throws \x7b").toList := by
    have hcall : HasForm .opening "() throws \x7b".toList :=
      .opening (u := "() throws ".toList) (by decide)
    exact hasForm_front (isCode_append (by decide) hname) hcall
  have hclosing : HasForm .closing "\x7d".toList := .closing (u := []) (by decide)
  have hnote : IsNote ("/// " ++ doc) := IsNote.append (by decide) hdoc
  have hblank : HasForm .plain "".toList := .plain (by decide)
  exact (((Forms.cons hblank (forms_note hnote)).append
    (.cons (hasForm_indented hopening) .nil)).append hbody).append
      (.cons (hasForm_indented hclosing) .nil)

theorem forms_testFunctionFor {α κ : Type} {doc name : String} {as : List α} {key : α → κ}
    {keys : List κ} {forms : κ → List LineForm} {lines : List α → List String}
    (hkeys : keys = as.map key) (hdoc : '\n' ∉ doc.toList) (hname : IsCode name.toList)
    (hbody : Forms ((as.map key).flatMap forms) (lines as)) :
    Forms (functionFormsFor o keys forms) (testFunctionFor o doc name as lines) := by
  subst hkeys
  unfold functionFormsFor testFunctionFor
  rw [List.isEmpty_map]
  split
  · exact .nil
  · exact forms_testFunction hdoc hname hbody

theorem hasForm_letLine (hv : IsName v) (h : HasForm f x.toList) : HasForm f (letLine v x).toList := by
  have hfront : IsCode ("let " ++ v ++ " = ").toList :=
    isCode_append (isCode_append (by decide) (isCode_of_isName hv)) (by decide)
  exact hasForm_indented (hasForm_front hfront h)

theorem hasForm_assertExists (hv : IsName v) : HasForm .plain (assertExists v).toList :=
  hasForm_indented <| .plain <|
    isCode_append (isCode_append (by decide) (isCode_of_isName hv)) (by decide)

theorem hasForm_tap (hv : IsName v) : HasForm .plain (tap v).toList :=
  hasForm_indented <| .plain <| isCode_append (isCode_of_isName hv) (by decide)

theorem isNote_label (ha : IsNote a) (e : Fact) : IsNote (a ++ commentText e.label) :=
  ha.append (commentText_inline e.label)

theorem isNote_navigate (h : '\n' ∉ s.toList) : ∀ x ∈ ["// Navigate to " ++ s ++ " if needed",
    "// This depends on your app's structure"], IsNote x := by
  rw [List.forall_mem_cons, List.forall_mem_singleton]
  exact ⟨(IsNote.append (by decide) h).append (by decide), by decide⟩

theorem isNote_verify : ∀ x ∈
    ["// Verify navigation occurred (replace with the actual destination check)",
      "// Example: XCTAssertTrue(app.navigationBars[\"Destination\"].exists)"], IsNote x := by
  decide

theorem forms_existenceLines (e : Fact) : Forms (existenceForms o) (existenceLines o e) := by
  have hcheck : HasForm .literal ("XCTAssertTrue(" ++ lookupOf e ++ ".exists)").toList :=
    hasForm_back (hasForm_front (by decide) (hasForm_lookupOf e)) (by decide)
  rw [existenceLines, if_neg (by simpa using effectiveIdentifier_ne_empty e)]
  exact (forms_note ((isNote_label (by decide) e).append (by decide))).append
    (.cons (hasForm_indented hcheck) .nil)

theorem forms_tapLines (e : Fact) (hv : IsName v) : Forms tapForms (tapLines e v) :=
  .cons (hasForm_letLine hv (hasForm_lookup (by decide) e)) <| .cons (hasForm_assertExists hv) <|
    .cons (hasForm_tap hv) .nil

theorem forms_buttonLines (e : Fact) (hv : IsName v) : Forms (buttonForms o) (buttonLines o e v) :=
  ((forms_note ((isNote_label (by decide) e).append (by decide))).append (forms_tapLines e hv)).append
    (forms_note (by decide))

theorem hasForm_sample {u : List Char} (hx : IsCode x.toList) (hu : IsCode u)
    (ha : a.toList = u ++ ['"']) : HasForm .literal (x ++ a ++ sampleInput ++ "\")").toList := by
  have hline : (x ++ a ++ sampleInput ++ "\")").toList =
      (x.toList ++ u) ++ '"' :: (sampleInput.toList ++ '"' :: [')']) := by
    simp [ha]
  rw [hline]
  exact .literal (hx.append hu) (isLiteral_of_plain (by decide)) (by decide) (by decide)

theorem forms_inputLines (e : Fact) (hv : IsName v) :
    Forms (inputForms o e.kind) (inputLines o e v) := by
  have htype : HasForm .literal (v ++ ".typeText(\"" ++ sampleInput ++ "\")").toList :=
    hasForm_sample (u := ".typeText(".toList) (isCode_of_isName hv) (by decide) (by decide)
  have hvalue : HasForm .literal
      ("XCTAssertEqual(" ++ v ++ ".value as? String, \"" ++ sampleInput ++ "\")").toList :=
    hasForm_sample (u := ".value as? String, ".toList)
      (isCode_append (by decide) (isCode_of_isName hv)) (by decide) (by decide)
  apply Forms.append
  · exact (forms_note (isNote_label (by decide) e)).append <|
      .cons (hasForm_letLine hv (hasForm_lookupOf e)) <| .cons (hasForm_assertExists hv) <|
        .cons (hasForm_tap hv) <| .cons (hasForm_indented htype) .nil
  · split
    · exact forms_note (by decide)
    · exact .cons (hasForm_indented hvalue) .nil

theorem forms_toggleLines (e : Fact) {n : ToggleNames} (hn : ∀ v ∈ toggleVars n, IsName v) :
    Forms (toggleForms o) (toggleLines o e n) := by
  simp only [toggleVars, List.forall_mem_cons] at hn
  obtain ⟨htoggle, hinitial, hupdated, -⟩ := hn
  have hvalue : HasForm .plain (n.toggle ++ ".value as? String").toList :=
    .plain (isCode_append (isCode_of_isName htoggle) (by decide))
  have hdiffer : IsCode ("XCTAssertNotEqual(" ++ n.initial ++ ", " ++ n.updated ++ ")").toList := by
    apply isCode_append _ (by decide)
    apply isCode_append _ (isCode_of_isName hupdated)
    apply isCode_append _ (by decide)
    exact isCode_append (by decide) (isCode_of_isName hinitial)
  have hlookup := hasForm_lookup (a := "switches") (by decide) e
  exact (forms_note ((isNote_label (by decide) e).append (by decide))).append <|
    .cons (hasForm_letLine htoggle hlookup) <| .cons (hasForm_assertExists htoggle) <|
      .cons (hasForm_letLine hinitial hvalue) <| .cons (hasForm_tap htoggle) <|
        .cons (hasForm_letLine hupdated hvalue) <| .cons (hasForm_indented (.plain hdiffer)) .nil

theorem forms_stateLines (e : Fact) (hs : IsName s) :
    Forms [.note, .note, .note] (stateLines s e) := by
  have hstate : IsNote ("// Find elements that may be affected by " ++ s ++ " state") :=
    (IsNote.append (by decide) (isCode_of_isName hs).inline).append (by decide)
  have hcheck : IsNote ("// XCTAssertTrue(" ++ lookupOf e ++ ".exists)") :=
    (IsNote.append (by decide) (hasForm_lookupOf e).inline).append (by decide)
  exact .cons (hasForm_indented (hasForm_note hstate)) <|
    .cons (hasForm_indented (hasForm_note (by decide))) <|
      .cons (hasForm_indented (hasForm_note hcheck)) .nil

theorem forms_linkLines (e : Fact) (hv : IsName v) : Forms (linkForms o) (linkLines o e v) :=
  (((forms_note (isNote_label (by decide) e)).append (forms_tapLines e hv)).append
    (forms_comment isNote_verify)).append (.cons (hasForm_indented (.plain (by decide))) .nil)

variable {m : ViewModel}

theorem filter_elementShape (es : List Fact) (q : FactKind × Bool → Bool) :
    (es.map elementShape).filter q = (es.filter fun e => q (elementShape e)).map elementShape :=
  List.filter_map

theorem filter_kind (m : ViewModel) (k : FactKind) :
    (shapeOf m).elements.filter (·.1 == k) = (m.elementsOf [k]).map elementShape := by
  rw [shapeOf, filter_elementShape, elementsOf_singleton]
  rfl

theorem forms_marker {b : Bool} (h : Forms fs ls) :
    Forms (if b then fs else []) (if b then ls else []) := by
  cases b with
  | true => exact h
  | false => exact .nil

theorem forms_existenceTest (m : ViewModel) (o : Options) :
    Forms (functionForms o <| (if (shapeOf m).elements.isEmpty then [LineForm.note] else []) ++
      (shapeOf m).elements.flatMap fun _ => existenceForms o) (existenceTest m o) := by
  have hempty : (shapeOf m).elements.isEmpty = m.isEmpty := List.isEmpty_map
  have hmarker : Forms [.note] [indented 2 noElementsMarker] :=
    .cons (hasForm_indented (hasForm_note (by decide))) .nil
  apply forms_testFunction (by decide) (by decide)
  rw [hempty]
  exact (forms_marker hmarker).append (forms_flatMap fun e _ => forms_existenceLines e)

theorem forms_textInputTest (m : ViewModel) (o : Options) :
    Forms (functionFormsFor o ((shapeOf m).elements.filter (·.1.isTextInput)) fun e =>
      inputForms o e.1) (textInputTest m o) := by
  have hkinds : (shapeOf m).elements.filter (·.1.isTextInput) =
      (m.elementsOf [.textField, .secureField]).map elementShape := by
    rw [shapeOf, filter_elementShape]
    congr 1
    refine List.filter_congr fun e _ => ?_
    simp only [elementShape]
    cases e.kind <;> rfl
  apply forms_testFunctionFor hkinds (by decide) (by decide)
  exact forms_chooseOne (k := elementShape) (g := fun e => inputForms o e.1) (by decide)
    (fun e v hv => forms_inputLines e hv) _

theorem forms_buttonTest (m : ViewModel) (o : Options) :
    Forms (functionFormsFor o ((shapeOf m).elements.filter fun e => e.1 == .button && e.2) fun _ =>
      buttonForms o) (buttonTest m o) := by
  have hkinds : ((shapeOf m).elements.filter fun e => e.1 == .button && e.2) =
      ((m.elementsOf [.button]).filter (·.hasAction)).map elementShape := by
    rw [shapeOf, filter_elementShape, elementsOf_singleton, List.filter_filter]
    congr 1
    exact List.filter_congr fun e _ => Bool.and_comm ..
  apply forms_testFunctionFor hkinds (by decide) (by decide)
  exact forms_chooseOne (k := elementShape) (g := fun _ => buttonForms o) (by decide)
    (fun e v hv => forms_buttonLines e hv) _

theorem forms_toggleTest (m : ViewModel) (o : Options) :
    Forms (functionFormsFor o ((shapeOf m).elements.filter (·.1 == .toggle)) fun _ => toggleForms o)
      (toggleTest m o) := by
  apply forms_testFunctionFor (filter_kind m .toggle) (by decide) (by decide)
  exact forms_nameEach (k := elementShape) (g := fun _ => toggleForms o) fresh_chooseToggle
    (fun e n hn => forms_toggleLines e hn) [] _

theorem forms_stateChangeTest (o : Options) (hm : ∀ s ∈ m.booleanState, IsName s) :
    Forms (functionFormsFor o (List.replicate (shapeOf m).mentions ()) fun _ => [.note, .note, .note])
      (stateChangeTest m o) := by
  have hstates : ∀ p ∈ affected m, IsName p.1 := by
    intro p hp
    obtain ⟨s, hs, hp⟩ := List.mem_flatMap.1 hp
    obtain ⟨e, -, rfl⟩ := List.mem_map.1 hp
    exact hm s hs
  have hcount : List.replicate (shapeOf m).mentions () = (affected m).map fun _ => () := by
    simp [shapeOf]
  apply forms_testFunctionFor hcount (by decide) (by decide)
  exact forms_flatMap fun p hp => forms_stateLines p.2 (hstates p hp)

theorem forms_navigationTest (m : ViewModel) (o : Options) :
    Forms (functionForms o <|
      (if ((shapeOf m).elements.filter (·.1 == .navigationLink)).isEmpty then [LineForm.note, .note] else []) ++
        ((shapeOf m).elements.filter (·.1 == .navigationLink)).flatMap fun _ => linkForms o)
      (navigationTest m o) := by
  have hmarker : Forms [.note, .note] [indented 2 "// No navigation links found in this view",
      indented 2 "// Add custom navigation test code here"] :=
    .cons (hasForm_indented (hasForm_note (by decide))) <|
      .cons (hasForm_indented (hasForm_note (by decide))) .nil
  apply forms_testFunction (by decide) (by decide)
  rw [filter_kind, List.isEmpty_map]
  apply (forms_marker hmarker).append
  exact forms_chooseOne (k := elementShape) (g := fun _ => linkForms o) (by decide)
    (fun e v hv => forms_linkLines e hv) _

theorem forms_sections (o : Options) (hm : ∀ s ∈ m.booleanState, IsName s) :
    List.Forall₂ Forms (sectionForms (shapeOf m) o) (sections m o) :=
  .cons (forms_existenceTest m o) <| .cons (forms_textInputTest m o) <|
    .cons (forms_buttonTest m o) <| .cons (forms_toggleTest m o) <|
      .cons (forms_marker (forms_stateChangeTest o hm)) <|
        .cons (forms_marker (forms_navigationTest m o)) .nil

def classLine (name : String) : String := "class " ++ name ++ "Tests: XCTestCase \x7b"

theorem hasForm_classLine (h : IsName s) : HasForm .opening (classLine s).toList := by
  have hopening : HasForm .opening "Tests: XCTestCase \x7b".toList :=
    .opening (u := "Tests: XCTestCase ".toList) (by decide)
  exact hasForm_front (isCode_append (by decide) (isCode_of_isName h)) hopening

theorem forms_header (o : Options) (h : IsName s) :
    ∃ ls, header s o = ["import XCTest", "", classLine s] ++ ls ∧ Forms (headerForms o) ls := by
  have hplain (n : Nat) (x : String) (hx : IsCode x.toList) :
      HasForm .plain (indented n x).toList := hasForm_indented (.plain hx)
  have hopening : HasForm .opening "override func setUpWithError() throws \x7b".toList :=
    .opening (u := "override func setUpWithError() throws ".toList) (by decide)
  have harguments : HasForm .literal "app.launchArguments = [\"--uitesting\"]".toList :=
    .literal (u := "app.launchArguments = [".toList) (l := "--uitesting".toList) (v := [']'])
      (by decide) (isLiteral_of_plain (by decide)) (by decide) (by decide)
  have hlaunch : IsNote "// Launch the app and wait for it to be ready" := by decide
  have hfront : Forms [.plain, .plain, .plain, .opening, .plain] ["",
      indented 1 "let app = XCUIApplication()", "",
      indented 1 "override func setUpWithError() throws \x7b",
      indented 2 "continueAfterFailure = false"] :=
    .cons (.plain (by decide)) <| .cons (hplain _ _ (by decide)) <| .cons (.plain (by decide)) <|
      .cons (hasForm_indented hopening) <| .cons (hplain _ _ (by decide)) .nil
  have hclosing : HasForm .closing "\x7d".toList := .closing (u := []) (by decide)
  refine ⟨_, rfl, ?_⟩
  exact ((((hfront.append (forms_marker (.cons (hasForm_indented harguments) .nil))).append
    (forms_note hlaunch)).append (.cons (hplain _ _ (by decide)) .nil)).append
      (forms_comment (isNote_navigate (isCode_of_isName h).inline))).append (.cons (hasForm_indented hclosing) .nil)

end TestScaffold.Render
