import TestScaffold.Proofs.Render.FreshNames

/-!
What the rendered tests do with input fields. A variable that is bound to a secure field is typed into,
and its value is read nowhere. The value of any other field is compared once. Which field a line is about
is only told by its variable, so this rests on the variables being distinct.
-/

namespace TestScaffold.Render

open Text Swift

def bound? (line : String) : Option (String × String) :=
  (declared? line).map fun v => (v, String.ofList (line.toList.drop (v.toList.length + 15)))

def boundIn (lines : List String) : List (String × String) := lines.filterMap bound?

def LooksUp (collection x : String) : Prop := ("app." ++ collection ++ "[").toList <+: x.toList

def outsideLiterals : Bool → List Char → List Char
  | _, [] => []
  | false, c :: cs => c :: outsideLiterals (c == '"') cs
  | true, '\\' :: _ :: cs => outsideLiterals true cs
  | true, c :: cs => if c == '"' then c :: outsideLiterals false cs else outsideLiterals true cs

/-- The names whose value is read. The start of a name may be in hand. -/
def valuesRead (word : List Char) : List Char → List String
  | [] => []
  | c :: cs =>
    if isNameChar c then valuesRead (word ++ [c]) cs
    else (if ".value".toList.isPrefixOf (c :: cs) then [String.ofList word] else []) ++ valuesRead [] cs

def valuesReadIn (lines : List String) : List String :=
  (code lines).flatMap fun l => valuesRead [] (outsideLiterals false l.toList)

def typing (v x : String) : List String :=
  [letLine v x, assertExists v, tap v, indented 2 (v ++ ".typeText(\"" ++ sampleInput ++ "\")")]

def comparison (v : String) : String :=
  indented 2 ("XCTAssertEqual(" ++ v ++ ".value as? String, \"" ++ sampleInput ++ "\")")

structure FieldsSafe (body : List String) : Prop where
  typed : ∀ p ∈ boundIn body, LooksUp "secureTextFields" p.2 ∨ LooksUp "textFields" p.2 →
    typing p.1 p.2 <:+: body
  unread : ∀ p ∈ boundIn body, LooksUp "secureTextFields" p.2 → p.1 ∉ valuesReadIn body
  compared : ∀ p ∈ boundIn body, LooksUp "textFields" p.2 →
    (valuesReadIn body).count p.1 = 1 ∧ comparison p.1 ∈ body

variable {m : ViewModel} {o : Options} {v x doc name : String} {l r u word : List Char} {c : Char}
  {body body' ls rs : List String}

theorem outsideLiterals_append (h : '"' ∉ u) :
    outsideLiterals false (u ++ r) = u ++ outsideLiterals false r := by
  induction u with
  | nil => rfl
  | cons d u ih =>
    rw [List.mem_cons, not_or] at h
    have hd : (d == '"') = false := by simpa using Ne.symm h.1
    rw [List.cons_append, outsideLiterals, hd, ih h.2, List.cons_append]

theorem outsideLiterals_eq_self (h : '"' ∉ u) : outsideLiterals false u = u := by
  have hall := outsideLiterals_append (r := []) h
  rwa [outsideLiterals, List.append_nil] at hall

theorem outsideLiterals_literal (hu : '"' ∉ u) (hl : IsLiteral l) (hr : '"' ∉ r) :
    outsideLiterals false (u ++ '"' :: (l ++ '"' :: r)) = u ++ '"' :: '"' :: r := by
  have hinside : outsideLiterals true (l ++ '"' :: r) = '"' :: r := by
    induction hl with
    | nil => exact congrArg ('"' :: ·) (outsideLiterals_eq_self hr)
    | plain quote slash _ _ ih =>
      rw [List.cons_append, outsideLiterals, if_neg (by simpa using quote), ih]
      exact fun _ _ hc => absurd hc slash
    | escape _ _ ih => exact ih
  rw [outsideLiterals_append hu, outsideLiterals, show ('"' == '"') = true from rfl, hinside]

theorem valuesRead_cons (hc : c ≠ '.') :
    valuesRead word (c :: r) = valuesRead (if isNameChar c then word ++ [c] else []) r := by
  have hvalue : ".value".toList.isPrefixOf (c :: r) = false := by
    rw [Bool.eq_false_iff, ne_eq, List.isPrefixOf_iff_prefix]
    exact fun h => hc (List.cons_prefix_cons.1 h).1.symm
  rw [valuesRead, hvalue]
  split <;> rfl

theorem valuesRead_skip (hu : '.' ∉ u) (hname : isNameChar c = false) (hdot : c ≠ '.') :
    valuesRead word (u ++ c :: r) = valuesRead [] r := by
  induction u generalizing word with
  | nil => rw [List.nil_append, valuesRead_cons hdot, hname, if_neg Bool.false_ne_true]
  | cons d u ih =>
    rw [List.mem_cons, not_or] at hu
    rw [List.cons_append, valuesRead_cons (Ne.symm hu.1), ih hu.2]

theorem valuesRead_plain (hu : '.' ∉ u) : valuesRead word u = [] := by
  induction u generalizing word with
  | nil => rfl
  | cons d u ih =>
    rw [List.mem_cons, not_or] at hu
    rw [valuesRead_cons (Ne.symm hu.1), ih hu.2]

theorem IsName.not_mem (hv : IsName v) (hc : isNameChar c = false) : c ∉ v.toList := fun hmem => by
  simp [hv.2 c hmem] at hc

theorem valuesRead_member (hu : '.' ∉ u) (hname : isNameChar c = false) (hdot : c ≠ '.')
    (hv : IsName v) (hr : '.' ∉ r) :
    valuesRead [] (u ++ c :: (v.toList ++ '.' :: r)) = if "value".toList <+: r then [v] else [] := by
  have hword (w s : List Char) (hs : ∀ d ∈ s, isNameChar d = true) :
      valuesRead w (s ++ '.' :: r) = valuesRead (w ++ s) ('.' :: r) := by
    induction s generalizing w with
    | nil => simp
    | cons d s ih =>
      rw [List.forall_mem_cons] at hs
      rw [List.cons_append, valuesRead, if_pos hs.1, ih _ hs.2, List.append_assoc, List.singleton_append]
  have hpoint : isNameChar '.' = false := by decide
  rw [valuesRead_skip hu hname hdot, hword [] v.toList hv.2, valuesRead, hpoint,
    if_neg Bool.false_ne_true, valuesRead_plain hr]
  simp [List.isPrefixOf_iff_prefix]

theorem valuesRead_letLine (hv : IsName v) {e : Fact} (he : e.kind.isTextInput = true) :
    valuesRead [] (outsideLiterals false (letLine v (lookupOf e)).toList) = [] := by
  have hline : (letLine v (lookupOf e)).toList =
      ("        let ".toList ++ v.toList ++ " = app.".toList ++ (query e.kind).toList ++ ['[']) ++
        '"' :: ((swiftString (effectiveIdentifier e)).toList ++ '"' :: [']']) := by
    rw [letLine, toList_indented]
    simp [lookupOf, lookup]
  have hquery : '"' ∉ (query e.kind).toList ∧ '.' ∉ (query e.kind).toList ∧
      ¬ "value".toList <+: (query e.kind).toList ++ "[\"\"]".toList := by
    revert he
    cases e.kind <;> decide
  have hquote : '"' ∉ v.toList := hv.not_mem (by decide)
  have hpoint : '.' ∉ v.toList := hv.not_mem (by decide)
  have hcode : ("        let ".toList ++ v.toList ++ " = app.".toList ++ (query e.kind).toList ++
      ['[']) ++ '"' :: '"' :: [']'] = ("        let ".toList ++ v.toList ++ " =".toList) ++ ' ' ::
        ("app".toList ++ '.' :: ((query e.kind).toList ++ "[\"\"]".toList)) := by simp
  rw [hline, outsideLiterals_literal (by simp [hquote, hquery.1]) (isLiteral_swiftString _) (by decide),
    hcode, valuesRead_member (by simp [hpoint]) (by decide) (by decide) (by unfold IsName; decide)
      (by simp [hquery.2.1]), if_neg hquery.2.2]

theorem valuesRead_statement (hv : IsName v) (hu : '"' ∉ u ∧ '.' ∉ u)
    (hc : isNameChar c = false ∧ c ≠ '"' ∧ c ≠ '.') (hr : '.' ∉ outsideLiterals false r) :
    valuesRead [] (outsideLiterals false (u ++ c :: (v.toList ++ '.' :: r))) =
      if "value".toList <+: outsideLiterals false r then [v] else [] := by
  have hquote : '"' ∉ v.toList := hv.not_mem (by decide)
  have hline : u ++ c :: (v.toList ++ '.' :: r) = (u ++ c :: (v.toList ++ ['.'])) ++ r := by simp
  have hcode : (u ++ c :: (v.toList ++ ['.'])) ++ outsideLiterals false r =
      u ++ c :: (v.toList ++ '.' :: outsideLiterals false r) := by simp
  rw [hline, outsideLiterals_append (by simp [hu.1, hquote, Ne.symm hc.2.1]), hcode,
    valuesRead_member hu.2 hc.1 hc.2.2 hv hr]

theorem valuesRead_comparison (hv : IsName v) :
    valuesRead [] (outsideLiterals false (comparison v).toList) = [v] := by
  have hline : (comparison v).toList = "        XCTAssertEqual".toList ++
      '(' :: (v.toList ++ '.' :: "value as? String, \"test input\")".toList) := by
    rw [comparison, toList_indented]
    simp [sampleInput]
  rw [hline, valuesRead_statement hv (by decide) (by decide) (by decide), if_pos (by decide)]

theorem valuesRead_typing (hv : IsName v) {e : Fact} (he : e.kind.isTextInput = true) :
    ∀ l ∈ typing v (lookupOf e), valuesRead [] (outsideLiterals false l.toList) = [] := by
  have hexists : (assertExists v).toList =
      "        XCTAssertTrue".toList ++ '(' :: (v.toList ++ '.' :: "exists)".toList) := by
    rw [assertExists, toList_indented]
    simp
  have htap : (tap v).toList = "       ".toList ++ ' ' :: (v.toList ++ '.' :: "tap()".toList) := by
    rw [tap, toList_indented]
    simp
  have htype : (indented 2 (v ++ ".typeText(\"" ++ sampleInput ++ "\")")).toList =
      "       ".toList ++ ' ' :: (v.toList ++ '.' :: "typeText(\"test input\")".toList) := by
    rw [toList_indented]
    simp [sampleInput]
  simp only [typing, List.forall_mem_cons]
  refine ⟨valuesRead_letLine hv he, ?_, ?_, ?_, by simp⟩
  · rw [hexists, valuesRead_statement hv (by decide) (by decide) (by decide), if_neg (by decide)]
  · rw [htap, valuesRead_statement hv (by decide) (by decide) (by decide), if_neg (by decide)]
  · rw [htype, valuesRead_statement hv (by decide) (by decide) (by decide), if_neg (by decide)]

theorem valuesReadIn_inputLines (hv : IsName v) {e : Fact} (he : e.kind.isTextInput = true) :
    valuesReadIn (inputLines o e v) = if e.kind = .secureField then [] else [v] := by
  have hblock : inputBlock e v =
      typing v (lookupOf e) ++ if e.kind = .secureField then [] else [comparison v] := rfl
  rw [valuesReadIn, code_inputLines o e hv, hblock, List.flatMap_append,
    List.flatMap_eq_nil_iff.2 (valuesRead_typing hv he), List.nil_append]
  split
  · rfl
  · rw [List.flatMap_singleton, valuesRead_comparison hv]

theorem valuesReadIn_append (ls rs : List String) :
    valuesReadIn (ls ++ rs) = valuesReadIn ls ++ valuesReadIn rs := by
  simp only [valuesReadIn, code_append, List.flatMap_append]

theorem bound?_letLine (hv : IsName v) (x : String) : bound? (letLine v x) = some (v, x) := by
  have hline : (letLine v x).toList =
      ("        let ".toList ++ v.toList ++ " = ".toList) ++ x.toList := by
    rw [letLine, toList_indented]
    simp
  have hlength : v.toList.length + 15 =
      ("        let ".toList ++ v.toList ++ " = ".toList).length := by
    simp
  rw [bound?, declared?_letLine hv, Option.map_some, hline, hlength, List.drop_left]
  simp

theorem bound?_eq_none (h : declared? x = none) : bound? x = none := by
  rw [bound?, h, Option.map_none]

theorem boundIn_append (ls rs : List String) : boundIn (ls ++ rs) = boundIn ls ++ boundIn rs :=
  List.filterMap_append

theorem boundIn_eq_nil (h : variablesOf ls = []) : boundIn ls = [] :=
  List.filterMap_eq_nil_iff.2 fun l hl => bound?_eq_none (List.filterMap_eq_nil_iff.1 h l hl)

theorem boundIn_flatMap {α : Type} (f : α → List String) (as : List α) :
    boundIn (as.flatMap f) = as.flatMap fun a => boundIn (f a) := List.filterMap_flatMap

theorem boundIn_tapped (hv : IsName v) (x : String) :
    boundIn [letLine v x, assertExists v, tap v] = [(v, x)] := by
  have hexists : bound? (assertExists v) = none := bound?_eq_none (declared?_assertExists v)
  have htap : bound? (tap v) = none := bound?_eq_none (declared?_call hv rfl)
  simp [boundIn, bound?_letLine hv, hexists, htap]

theorem boundIn_inputLines (hv : IsName v) (e : Fact) :
    boundIn (inputLines o e v) = [(v, lookupOf e)] := by
  have hlines : inputLines o e v = comment o 2 ["// Test input for " ++ commentText e.label] ++
      ([letLine v (lookupOf e), assertExists v, tap v] ++
        [indented 2 (v ++ ".typeText(\"" ++ sampleInput ++ "\")")]) ++
      if e.kind = .secureField then
        comment o 2 ["// Secure fields do not expose their typed value"] else [comparison v] := rfl
  have htype : boundIn [indented 2 (v ++ ".typeText(\"" ++ sampleInput ++ "\")")] = [] := by
    have hcall : declared? (indented 2 (v ++ (".typeText(\"" ++ (sampleInput ++ "\")")))) = none :=
      declared?_call hv rfl
    simp [boundIn, bound?_eq_none hcall, String.append_assoc]
  have hlast : boundIn (if e.kind = .secureField then
      comment o 2 ["// Secure fields do not expose their typed value"] else [comparison v]) = [] := by
    split
    · exact boundIn_eq_nil (variablesOf_note (by decide))
    · exact boundIn_eq_nil (by simp [variablesOf, comparison, declared?_indented])
  rw [hlines, boundIn_append, boundIn_append, boundIn_append, hlast, htype, boundIn_tapped hv,
    boundIn_eq_nil (variablesOf_note (isNote_label (by decide) e))]
  rfl

theorem looksUp_lookup {a b i : String} (ha : '[' ∉ a.toList) (hb : '[' ∉ b.toList) :
    LooksUp a (lookup b i) ↔ a = b := by
  have hlookup : (lookup b i).toList =
      "app.".toList ++ (b.toList ++ '[' :: ('"' :: (swiftString i).toList ++ "\"]".toList)) := by
    simp [lookup]
  have hstart : ("app." ++ a ++ "[").toList = "app.".toList ++ (a.toList ++ ['[']) := by simp
  rw [LooksUp, hlookup, hstart, List.prefix_append_right_inj]
  constructor
  · rintro ⟨t, ht⟩
    rw [List.append_assoc, List.singleton_append] at ht
    have hab : a.toList <+: b.toList := prefix_of_prefix_append (ht ▸ List.prefix_append _ _) ha
    have hba : b.toList <+: a.toList :=
      prefix_of_prefix_append (ht.symm ▸ List.prefix_append _ _) hb
    exact String.toList_inj.1 (hab.eq_of_length_le hba.length_le)
  · rintro rfl
    exact ⟨_, by rw [List.append_assoc]; rfl⟩

theorem LooksUp.mem_bracket (h : LooksUp v x) : '[' ∈ x.toList :=
  h.subset (by simp)

variable {ps : List (Fact × String)}

theorem typing_infix {p : Fact × String} (hp : p ∈ ps) :
    typing p.2 (lookupOf p.1) <:+: ps.flatMap fun p => inputLines o p.1 p.2 := by
  obtain ⟨front, back, rfl⟩ := List.append_of_mem hp
  have hlines : typing p.2 (lookupOf p.1) <:+: inputLines o p.1 p.2 :=
    ⟨comment o 2 ["// Test input for " ++ commentText p.1.label], _, rfl⟩
  rw [List.flatMap_append, List.flatMap_cons]
  exact hlines.trans ⟨_, _, List.append_assoc ..⟩

theorem boundIn_inputs (hnames : ∀ p ∈ ps, IsName p.2) :
    boundIn (ps.flatMap fun p => inputLines o p.1 p.2) = ps.map fun p => (p.2, lookupOf p.1) := by
  rw [boundIn_flatMap, List.map_eq_flatMap]
  exact List.flatMap_congr fun p hp => boundIn_inputLines (hnames p hp) p.1

theorem valuesReadIn_inputs (hnames : ∀ p ∈ ps, IsName p.2)
    (hkinds : ∀ p ∈ ps, p.1.kind.isTextInput = true) :
    valuesReadIn (ps.flatMap fun p => inputLines o p.1 p.2) =
      (ps.filter (·.1.kind != .secureField)).map (·.2) := by
  induction ps with
  | nil => rfl
  | cons p ps ih =>
    rw [List.forall_mem_cons] at hnames hkinds
    rw [List.flatMap_cons, valuesReadIn_append, valuesReadIn_inputLines hnames.1 hkinds.1,
      ih hnames.2 hkinds.2]
    by_cases hp : p.1.kind = .secureField
    · simp [hp]
    · simp [hp]

theorem looksUp_lookupOf {e : Fact} (he : e.kind.isTextInput = true) :
    (LooksUp "secureTextFields" (lookupOf e) → e.kind = .secureField) ∧
      (LooksUp "textFields" (lookupOf e) → e.kind = .textField) := by
  have hquery : '[' ∉ (query e.kind).toList := by
    cases e.kind <;> decide
  rw [lookupOf, looksUp_lookup (by decide) hquery, looksUp_lookup (by decide) hquery]
  revert he
  cases e.kind <;> decide

theorem fieldsSafe_inputs (hnames : ∀ p ∈ ps, IsName p.2)
    (hkinds : ∀ p ∈ ps, p.1.kind.isTextInput = true) (hnodup : (ps.map (·.2)).Nodup) :
    FieldsSafe (ps.flatMap fun p => inputLines o p.1 p.2) := by
  have hbound {q : String × String} (hq : q ∈ boundIn (ps.flatMap fun p => inputLines o p.1 p.2)) :
      ∃ p ∈ ps, (p.2, lookupOf p.1) = q := by
    rwa [boundIn_inputs hnames, List.mem_map] at hq
  refine ⟨fun q hq _ => ?_, fun q hq hsecure hread => ?_, fun q hq htext => ?_⟩
  · obtain ⟨p, hp, rfl⟩ := hbound hq
    exact typing_infix hp
  · obtain ⟨p, hp, rfl⟩ := hbound hq
    rw [valuesReadIn_inputs hnames hkinds] at hread
    obtain ⟨p', hp', hname⟩ := List.mem_map.1 hread
    obtain ⟨hmem, hother⟩ := List.mem_filter.1 hp'
    obtain rfl := List.inj_on_of_nodup_map hnodup hmem hp hname
    simp [(looksUp_lookupOf (hkinds _ hp)).1 hsecure] at hother
  · obtain ⟨p, hp, rfl⟩ := hbound hq
    have hkind := (looksUp_lookupOf (hkinds p hp)).2 htext
    have hmem : p.2 ∈ (ps.filter (·.1.kind != .secureField)).map (·.2) :=
      List.mem_map_of_mem (List.mem_filter.2 ⟨hp, by simp [hkind]⟩)
    constructor
    · rw [valuesReadIn_inputs hnames hkinds]
      exact List.count_eq_one_of_mem (hnodup.sublist (List.filter_sublist.map _)) hmem
    · refine List.mem_flatMap.2 ⟨p, hp, ?_⟩
      simp [inputLines, comparison, hkind]

def NoField (ls : List String) : Prop :=
  ∀ p ∈ boundIn ls, ¬ LooksUp "secureTextFields" p.2 ∧ ¬ LooksUp "textFields" p.2

theorem NoField.fieldsSafe (h : NoField body) : FieldsSafe body where
  typed p hp hfield := (hfield.elim (h p hp).1 (h p hp).2).elim
  unread p hp hsecure := ((h p hp).1 hsecure).elim
  compared p hp htext := ((h p hp).2 htext).elim

theorem noField_of_variablesOf (h : variablesOf ls = []) : NoField ls := by
  rw [NoField, boundIn_eq_nil h]
  simp

theorem NoField.append (h : NoField ls) (h' : NoField rs) : NoField (ls ++ rs) := by
  rw [NoField, boundIn_append, List.forall_mem_append]
  exact ⟨h, h'⟩

theorem noField_flatMap {α : Type} {f : α → List String} {as : List α} (h : ∀ a ∈ as, NoField (f a)) :
    NoField (as.flatMap f) := by
  rw [NoField, boundIn_flatMap]
  intro p hp
  obtain ⟨a, ha, hp⟩ := List.mem_flatMap.1 hp
  exact h a ha p hp

theorem noField_note (h : IsNote x) : NoField (comment o 2 [x]) :=
  noField_of_variablesOf (variablesOf_note h)

theorem not_looksUp_lookup {c i : String} (h : '[' ∉ c.toList)
    (hc : c ≠ "secureTextFields" ∧ c ≠ "textFields") :
    ¬ LooksUp "secureTextFields" (lookup c i) ∧ ¬ LooksUp "textFields" (lookup c i) := by
  rw [looksUp_lookup (by decide) h, looksUp_lookup (by decide) h]
  exact ⟨Ne.symm hc.1, Ne.symm hc.2⟩

theorem noField_tapLines (hv : IsName v) (e : Fact) : NoField (tapLines e v) := by
  have hbound : boundIn (tapLines e v) = [(v, lookup "buttons" (effectiveIdentifier e))] :=
    boundIn_tapped hv _
  rw [NoField, hbound, List.forall_mem_singleton]
  exact not_looksUp_lookup (by decide) (by decide)

theorem noField_toggleLines (e : Fact) {n : ToggleNames} (hn : ∀ v ∈ toggleVars n, IsName v) :
    NoField (toggleLines o e n) := by
  simp only [toggleVars, List.forall_mem_cons] at hn
  obtain ⟨htoggle, hinitial, hupdated, -⟩ := hn
  have hvalue (c : String) : ¬ LooksUp c (n.toggle ++ ".value as? String") := by
    have hname : '[' ∉ n.toggle.toList := htoggle.not_mem (by decide)
    exact fun h => absurd h.mem_bracket (by simp [hname])
  have hexists : bound? (assertExists n.toggle) = none := bound?_eq_none (declared?_assertExists _)
  have htap : bound? (tap n.toggle) = none := bound?_eq_none (declared?_call htoggle rfl)
  have hcompare : bound? (indented 2
      ("XCTAssertNotEqual(" ++ n.initial ++ ", " ++ n.updated ++ ")")) = none :=
    bound?_eq_none (declared?_indented (by simp))
  have hbound : boundIn (toggleBlock e n) =
      [(n.toggle, lookup "switches" (effectiveIdentifier e)),
        (n.initial, n.toggle ++ ".value as? String"), (n.updated, n.toggle ++ ".value as? String")] := by
    simp [boundIn, toggleBlock, bound?_letLine, htoggle, hinitial, hupdated, hexists, htap, hcompare]
  have hblock : NoField (toggleBlock e n) := by
    rw [NoField, hbound]
    simp only [List.forall_mem_cons]
    exact ⟨not_looksUp_lookup (by decide) (by decide), ⟨hvalue _, hvalue _⟩, ⟨hvalue _, hvalue _⟩,
      by simp⟩
  exact (noField_note ((isNote_label (by decide) e).append (by decide))).append hblock

theorem noField_buttonLines (hv : IsName v) (e : Fact) : NoField (buttonLines o e v) :=
  ((noField_note ((isNote_label (by decide) e).append (by decide))).append
    (noField_tapLines hv e)).append (noField_note (by decide))

theorem noField_linkLines (hv : IsName v) (e : Fact) : NoField (linkLines o e v) := by
  have hback : NoField [indented 2 "app.navigationBars.buttons.element(boundBy: 0).tap()"] :=
    noField_of_variablesOf (by decide)
  exact (((noField_note (isNote_label (by decide) e)).append (noField_tapLines hv e)).append
    (noField_of_variablesOf (variablesOf_comment isNote_verify))).append hback

theorem noField_nameEach {α : Type} {choose : Fact → List String → α × List String}
    {vars : α → List String} {lines : Fact → α → List String} (hfresh : Fresh choose vars)
    (h : ∀ e a, (∀ v ∈ vars a, IsName v) → NoField (lines e a)) (es : List Fact) :
    NoField ((nameEach choose [] es).flatMap fun p => lines p.1 p.2) :=
  noField_flatMap fun p hp => h p.1 p.2 (mem_nameEach hfresh hp).2

theorem noField_chooseOne {lines : Fact → String → List String}
    (h : ∀ e v, IsName v → NoField (lines e v)) (es : List Fact) :
    NoField ((nameEach (chooseOne "") [] es).flatMap fun p => lines p.1 p.2) :=
  noField_nameEach (fresh_chooseOne (by decide))
    (fun e v hv => h e v (hv v (List.mem_singleton_self v))) es

theorem testFunction_injective
    (h : testFunction o doc name body = testFunction o doc name body') : body = body' :=
  List.append_cancel_left (List.append_cancel_right h)

theorem eq_of_testFunctionFor {α : Type} {subjects : List α} {lines : List α → List String}
    (h : testFunctionFor o doc name subjects lines = testFunction o doc name body) :
    body = lines subjects := by
  unfold testFunctionFor at h
  split at h
  · cases h
  · exact (testFunction_injective h).symm

def inputsOf (m : ViewModel) : List String :=
  (m.elements.filter (·.kind.isTextInput)).map fun e =>
    lookup (query e.kind) (effectiveIdentifier e)

def fieldPlan (m : ViewModel) (p : TestPlan) : TestPlan :=
  { p with holds := fun body => FieldsSafe body ∧
      (p.name = "testTextInput" → (boundIn body).map (·.2) = inputsOf m) }

theorem Meets.noField {p : TestPlan} (h : Meets o p ls) (hname : p.name ≠ "testTextInput")
    (hbody : ∀ body, p.wanted = true → ls = testFunction o p.doc p.name body → NoField body) :
    Meets o (fieldPlan m p) ls :=
  h.replan fun body hwanted hls =>
    ⟨(hbody body hwanted hls).fieldsSafe, fun h => absurd h hname⟩

theorem meets_fieldPlan_textInputTest (m : ViewModel) (o : Options) :
    Meets o (fieldPlan m (inputPlan m)) (textInputTest m o) := by
  refine (meets_textInputTest m o).replan fun body _ hls => ?_
  have hfresh : Fresh (chooseOne "Field") fun v => [v] := fresh_chooseOne (by decide)
  have hbody := eq_of_testFunctionFor hls
  rw [elementsOf_inputs] at hbody
  have hnames : ∀ p ∈ nameEach (chooseOne "Field") [] (m.elements.filter (·.kind.isTextInput)),
      IsName p.2 := fun p hp => (mem_nameEach hfresh hp).2 p.2 (List.mem_singleton_self _)
  have hinputs : ∀ p ∈ nameEach (chooseOne "Field") [] (m.elements.filter (·.kind.isTextInput)),
      p.1.kind.isTextInput = true := fun p hp => (List.mem_filter.1 (mem_nameEach hfresh hp).1).2
  have hnodup : ((nameEach (chooseOne "Field") []
      (m.elements.filter (·.kind.isTextInput))).map (·.2)).Nodup := by
    rw [← elementsOf_inputs]
    exact nodup_localsOf m "testTextInput"
  subst hbody
  refine ⟨fieldsSafe_inputs hnames hinputs hnodup, fun _ => ?_⟩
  rw [boundIn_inputs hnames, List.map_map, inputsOf]
  conv_rhs => rw [← map_fst_nameEach (chooseOne "Field") [] (m.elements.filter _), List.map_map]
  rfl

theorem noField_existenceTest
    (h : existenceTest m o = testFunction o (existencePlan m).doc (existencePlan m).name body) :
    NoField body := by
  have hnone := variablesOf_existenceTest m o
  rw [h, variablesOf_testFunction] at hnone
  exact noField_of_variablesOf hnone

theorem noField_buttonTest
    (h : buttonTest m o = testFunction o (buttonPlan m).doc (buttonPlan m).name body) :
    NoField body := by
  rw [eq_of_testFunctionFor h]
  exact noField_chooseOne (fun e v hv => noField_buttonLines hv e) _

theorem noField_toggleTest
    (h : toggleTest m o = testFunction o (togglePlan m).doc (togglePlan m).name body) :
    NoField body := by
  rw [eq_of_testFunctionFor h]
  exact noField_nameEach fresh_chooseToggle (fun e n hn => noField_toggleLines e hn) _

theorem noField_stateChangeTest
    (h : stateChangeTest m o = testFunction o (statePlan m o).doc (statePlan m o).name body) :
    NoField body := by
  have hnone := variablesOf_stateChangeTest m o
  rw [h, variablesOf_testFunction] at hnone
  exact noField_of_variablesOf hnone

theorem noField_navigationTest
    (h : navigationTest m o =
      testFunction o (navigationPlan m o).doc (navigationPlan m o).name body) : NoField body := by
  rw [← testFunction_injective h]
  refine NoField.append (noField_of_variablesOf ?_)
    (noField_chooseOne (fun e v hv => noField_linkLines hv e) _)
  split <;> decide

theorem meets_fieldPlan (m : ViewModel) (o : Options) :
    List.Forall₂ (Meets o) ((plans m o).map (fieldPlan m)) (sections m o) := by
  have hstate : ∀ body, (statePlan m o).wanted = true →
      (if o.stateTests then stateChangeTest m o else []) =
        testFunction o (statePlan m o).doc (statePlan m o).name body → NoField body := by
    intro body hwanted hls
    rw [if_pos (Bool.and_eq_true_iff.1 hwanted).1] at hls
    exact noField_stateChangeTest hls
  have hnavigation : ∀ body, (o.navigationTests && m.isNavigationContainer) = true →
      (if o.navigationTests && m.isNavigationContainer then navigationTest m o else []) =
        testFunction o (navigationPlan m o).doc (navigationPlan m o).name body → NoField body := by
    intro body hwanted hls
    rw [if_pos hwanted] at hls
    exact noField_navigationTest hls
  exact
    .cons ((meets_existenceTest m o).noField (by simp [existencePlan])
      fun _ _ => noField_existenceTest) <|
    .cons (meets_fieldPlan_textInputTest m o) <|
    .cons ((meets_buttonTest m o).noField (by simp [buttonPlan]) fun _ _ => noField_buttonTest) <|
    .cons ((meets_toggleTest m o).noField (by simp [togglePlan]) fun _ _ => noField_toggleTest) <|
    .cons ((meets_stateChangeTest m o).noField (by simp [statePlan]) hstate) <|
    .cons ((meets_navigationTest m o).noField (by simp [navigationPlan]) hnavigation) .nil

def login : ViewModel where
  name := "Login"
  elements := [{ kind := .textField, name := "User", identifier := some "user name" },
    { kind := .secureField, name := "Password", identifier := some "user_name" },
    { kind := .secureField, name := "PIN", identifier := some "user name" }]

theorem onOneLine_login : OnOneLine login where
  name := by decide
  states := by decide
  kinds := by decide

end TestScaffold.Render
