import TestScaffold.Proofs.Render.Sections
import TestScaffold.Proofs.Text.Marks

namespace TestScaffold.Render

open Text

def commentStart : List Char := ['/', '*']

def commentEnd : List Char := ['*', '/']

/-- The text behind a comment that was started, with `depth` comments started inside it. -/
def behindComment : Nat → List Char → Option (List Char)
  | _, [] => none
  | depth, '/' :: '*' :: cs => behindComment (depth + 1) cs
  | 0, '*' :: '/' :: cs => some cs
  | depth + 1, '*' :: '/' :: cs => behindComment depth cs
  | depth, _ :: cs => behindComment depth cs

def classText (m : ViewModel) (o : Options) : String :=
  joinLines (header m.name o ++ (sections m o).flatten ++ ["\x7d"])

def suggestionsIntroduction : List String :=
  [" The following UI elements are missing accessibility identifiers.",
   " Consider adding them to improve testability:"]

def insideSuggestions (m : ViewModel) : String :=
  "\n" ++ joinLines (suggestionsIntroduction ++
    (m.elements.filter lacksIdentifier).flatMap suggestionLines)

def suggestionsText (m : ViewModel) (o : Options) : String :=
  if o.suggestions && m.elements.any lacksIdentifier then
    "\n/* ACCESSIBILITY SUGGESTIONS" ++ insideSuggestions m ++ " */\n"
  else ""

def Holds (s : String) (mark : List Char) : Prop := mark <:+: s.toList

instance (s : String) (mark : List Char) : Decidable (Holds s mark) :=
  inferInstanceAs (Decidable (mark <:+: s.toList))

def IsMark (w : List Char) : Prop := w = commentStart ∨ w = commentEnd

variable {m : ViewModel} {o : Options} {f : Fact} {s : String} {ls : List String} {a b c : Char}
  {d : Nat} {cs r u w : List Char}

theorem IsMark.pair (hw : IsMark w) :
    ∃ a b, w = [a, b] ∧ (a = '*' ∨ a = '/') ∧ (b = '*' ∨ b = '/') := by
  rcases hw with rfl | rfl
  · exact ⟨'/', '*', rfl, .inr rfl, .inl rfl⟩
  · exact ⟨'*', '/', rfl, .inl rfl, .inr rfl⟩

theorem IsMark.ne_nil (hw : IsMark w) : w ≠ [] := by
  rcases hw with rfl | rfl <;> decide

theorem IsMark.not_mem (hw : IsMark w) (hc : c ≠ '*' ∧ c ≠ '/') : c ∉ w := by
  obtain ⟨a, b, rfl, rfl | rfl, rfl | rfl⟩ := hw.pair <;> simp [hc]

theorem IsMark.between (hw : IsMark w) (hc : c ≠ '*' ∧ c ≠ '/') :
    w <:+: u ++ c :: r ↔ w <:+: u ∨ w <:+: r :=
  infix_append_cons_iff hw.ne_nil (hw.not_mem hc)

theorem behindComment_other (hstart : ¬ commentStart <+: c :: cs) (hend : ¬ commentEnd <+: c :: cs) :
    behindComment d (c :: cs) = behindComment d cs := by
  rw [behindComment.eq_def]
  split
  · simp_all
  · simp_all [commentStart]
  · simp_all [commentEnd]
  · simp_all [commentEnd]
  · simp_all

theorem IsMark.not_prefix (hw : IsMark w) (hc : c ≠ '*' ∧ c ≠ '/') (hu : ¬ w <:+: u) :
    ¬ w <+: u ++ c :: r :=
  fun h => hu (prefix_of_prefix_append h (hw.not_mem hc)).isInfix

theorem behindComment_unmarked (hc : c ≠ '*' ∧ c ≠ '/') (hstart : ¬ commentStart <:+: u)
    (hend : ¬ commentEnd <:+: u) : behindComment d (u ++ c :: r) = behindComment d r := by
  -- Behind the text stands a character that no mark has, so none starts at its end either.
  induction u with
  | nil =>
    exact behindComment_other (IsMark.not_prefix (.inl rfl) hc hstart)
      (IsMark.not_prefix (.inr rfl) hc hend)
  | cons x u ih =>
    have hrest {w : List Char} (h : ¬ w <:+: x :: u) : ¬ w <:+: u :=
      fun hu => h (hu.trans (List.suffix_cons x u).isInfix)
    have hstep : behindComment d (x :: (u ++ c :: r)) = behindComment d (u ++ c :: r) :=
      behindComment_other (IsMark.not_prefix (.inl rfl) hc hstart)
        (IsMark.not_prefix (.inr rfl) hc hend)
    exact hstep.trans (ih (hrest hstart) (hrest hend))

theorem not_mark_of_escape {x : Char} (h : escapedChar c = ['\\', x]) :
    (x ≠ '*' ∧ x ≠ '/') ∧ c ≠ '*' ∧ c ≠ '/' := by
  have hbehind : ∀ y ∈ ['\\', '"', 'n'], y ≠ '*' ∧ y ≠ '/' := by decide
  have hescaped : ∀ y ∈ ['\\', '"', '\n'], y ≠ '*' ∧ y ≠ '/' := by decide
  rcases escapedChar_cases c with ⟨hc, -⟩ | ⟨y, hy, hc, hmem⟩
  · simp [hc] at h
  · obtain rfl : y = x := by simpa [hc] using h
    exact ⟨hbehind y hy, hescaped c hmem⟩

theorem head?_escaped (hb : b = '*' ∨ b = '/') :
    (cs.flatMap escapedChar).head? = some b ↔ cs.head? = some b := by
  cases cs with
  | nil => rfl
  | cons c cs =>
    rw [List.flatMap_cons]
    rcases escapedChar_cases c with ⟨hc, -⟩ | ⟨x, -, hc, -⟩
    · simp [hc]
    · obtain ⟨-, hother⟩ := not_mark_of_escape hc
      have hslash : b ≠ '\\' := by rcases hb with rfl | rfl <;> decide
      have hne : c ≠ b := by rcases hb with rfl | rfl <;> simp [hother]
      simp [hc, hne, hslash.symm]

theorem holds_swiftString (hw : IsMark w) : Holds (swiftString s) w ↔ Holds s w := by
  unfold Holds swiftString
  rw [String.toList_ofList]
  generalize s.toList = cs
  induction cs with
  | nil => rfl
  | cons c cs ih =>
    rw [List.flatMap_cons]
    rcases escapedChar_cases c with ⟨hc, -⟩ | ⟨x, -, hc, -⟩
    · obtain ⟨a, b, rfl, -, hb⟩ := hw.pair
      rw [hc, List.singleton_append, pair_infix_cons, pair_infix_cons, ih, head?_escaped hb]
    · obtain ⟨hx, hother⟩ := not_mark_of_escape hc
      rw [hc, List.cons_append, List.cons_append, List.nil_append,
        infix_cons_of_not_mem hw.ne_nil (hw.not_mem (by decide)),
        infix_cons_of_not_mem hw.ne_nil (hw.not_mem hx),
        infix_cons_of_not_mem hw.ne_nil (hw.not_mem hother), ih]

theorem head?_openCommentEnds (cs : List Char) : (openCommentEnds cs).head? = cs.head? := by
  cases cs using openCommentEnds.fun_cases <;> simp [openCommentEnds]

theorem not_end_openCommentEnds (cs : List Char) : ¬ commentEnd <:+: openCommentEnds cs := by
  induction cs using openCommentEnds.induct with
  | case1 => decide
  | case2 cs ih =>
    simp only [openCommentEnds, commentEnd, pair_infix_cons] at ih ⊢
    simp [ih]
  | case3 c cs hend ih =>
    rw [openCommentEnds]
    · simp only [commentEnd, pair_infix_cons, head?_openCommentEnds] at ih ⊢
      -- What stands behind a star that is kept stood there before, and it is no slash.
      rintro (⟨rfl, hhead⟩ | h)
      · obtain ⟨cs, rfl⟩ := List.head?_eq_some_iff.1 hhead
        exact hend cs rfl rfl
      · exact ih h
    · exact hend

theorem start_openCommentEnds (cs : List Char) :
    commentStart <:+: openCommentEnds cs ↔ commentStart <:+: cs := by
  induction cs using openCommentEnds.induct with
  | case1 => rfl
  | case2 cs ih =>
    simp only [openCommentEnds, commentStart, pair_infix_cons, head?_openCommentEnds] at ih ⊢
    simp [ih]
  | case3 c cs hend ih =>
    rw [openCommentEnds]
    · simp only [commentStart, pair_infix_cons, head?_openCommentEnds] at ih ⊢
      rw [ih]
    · exact hend

theorem not_end_commentText (s : String) : ¬ Holds (commentText s) commentEnd := by
  rw [Holds, commentText, String.toList_ofList]
  exact not_end_openCommentEnds _

theorem start_commentText (s : String) :
    Holds (commentText s) commentStart ↔ Holds s commentStart := by
  rw [Holds, commentText, String.toList_ofList, start_openCommentEnds,
    infix_intercalate (by decide) (by decide), Holds, infix_words (by decide) (by decide)]

theorem holds_joinLines (hw : IsMark w) (hne : ls ≠ []) :
    Holds (joinLines ls) w ↔ ∃ l ∈ ls, Holds l w := by
  rw [Holds, toList_joinLines hne]
  clear hne
  induction ls with
  | nil => simp [hw.ne_nil]
  | cons l ls ih =>
    rw [List.map_cons, List.flatMap_cons, List.append_assoc, List.singleton_append,
      hw.between (by decide), ih]
    simp [Holds]

theorem holds_suggestionLines (hw : IsMark w) :
    (∃ l ∈ suggestionLines f, Holds l w) ↔
      Holds (commentText f.label) w ∨ Holds f.kindName w ∨ Holds (effectiveIdentifier f) w := by
  have hlabel : Holds (" - " ++ commentText f.label ++ " (" ++ f.kindName ++ "):") w ↔
      Holds (commentText f.label) w ∨ Holds f.kindName w := by
    have hline : (" - " ++ commentText f.label ++ " (" ++ f.kindName ++ "):").toList =
        [' ', '-'] ++ ' ' :: ((commentText f.label).toList ++
          ' ' :: ([] ++ '(' :: (f.kindName.toList ++ ')' :: [':']))) := by
      simp
    have hfixed : ¬ w <:+: [' ', '-'] ∧ ¬ w <:+: [] ∧ ¬ w <:+: [':'] := by
      rcases hw with rfl | rfl <;> decide
    rw [Holds, hline, hw.between (by decide), hw.between (by decide), hw.between (by decide),
      hw.between (by decide)]
    simp [Holds, hfixed]
  have hidentifier : Holds ("   .accessibility(identifier: \"" ++
      swiftString (effectiveIdentifier f) ++ "\")") w ↔ Holds (effectiveIdentifier f) w := by
    have hline : ("   .accessibility(identifier: \"" ++ swiftString (effectiveIdentifier f) ++
        "\")").toList = "   .accessibility(identifier: ".toList ++
          '"' :: ((swiftString (effectiveIdentifier f)).toList ++ '"' :: [')']) := by
      simp
    have hfixed : ¬ w <:+: "   .accessibility(identifier: ".toList ∧ ¬ w <:+: [')'] := by
      rcases hw with rfl | rfl <;> decide
    rw [Holds, hline, hw.between (by decide), hw.between (by decide)]
    simp only [hfixed, false_or, or_false]
    exact holds_swiftString hw
  simp only [suggestionLines, List.mem_cons, List.not_mem_nil, or_false, exists_eq_or_imp,
    exists_eq_left]
  rw [hlabel, hidentifier, or_assoc]

theorem holds_insideSuggestions (hw : IsMark w) :
    Holds (insideSuggestions m) w ↔ ∃ f ∈ m.elements, lacksIdentifier f = true ∧
      (Holds (commentText f.label) w ∨ Holds f.kindName w ∨ Holds (effectiveIdentifier f) w) := by
  have hbreak : (insideSuggestions m).toList = '\n' :: (joinLines (suggestionsIntroduction ++
      (m.elements.filter lacksIdentifier).flatMap suggestionLines)).toList := by
    rw [insideSuggestions, String.toList_append]
    rfl
  have hfixed : ¬ ∃ l ∈ suggestionsIntroduction, Holds l w := by
    rcases hw with rfl | rfl <;> decide +kernel
  have hlines : (∃ l ∈ (m.elements.filter lacksIdentifier).flatMap suggestionLines, Holds l w) ↔
      ∃ f ∈ m.elements.filter lacksIdentifier, ∃ l ∈ suggestionLines f, Holds l w := by
    simp only [List.mem_flatMap]
    exact ⟨fun ⟨l, ⟨f, hf, hl⟩, h⟩ => ⟨f, hf, l, hl, h⟩, fun ⟨f, hf, l, hl, h⟩ => ⟨l, ⟨f, hf, hl⟩, h⟩⟩
  rw [Holds, hbreak, infix_cons_of_not_mem hw.ne_nil (hw.not_mem (by decide)), ← Holds,
    holds_joinLines hw (by simp [suggestionsIntroduction])]
  simp only [List.mem_append, or_and_right, exists_or, hfixed, false_or, hlines,
    holds_suggestionLines hw, List.mem_filter, and_assoc]

theorem joinLines_suggestionBlock (fs : List Fact) :
    joinLines (suggestionBlock fs) = "\n/* ACCESSIBILITY SUGGESTIONS" ++
      ("\n" ++ joinLines (suggestionsIntroduction ++ fs.flatMap suggestionLines)) ++ " */\n" := by
  have hblock : suggestionBlock fs = ["", "/* ACCESSIBILITY SUGGESTIONS"] ++
      (suggestionsIntroduction ++ fs.flatMap suggestionLines) ++ [" */"] := rfl
  have hopening : joinLines ["", "/* ACCESSIBILITY SUGGESTIONS"] =
      "\n/* ACCESSIBILITY SUGGESTIONS" ++ "\n" := by decide
  have hclosing : joinLines [" */"] = " */\n" := by decide
  rw [hblock, joinLines_append (by simp) (by simp),
    joinLines_append (by simp) (by simp [suggestionsIntroduction]), hopening, hclosing]
  simp only [String.append_assoc]

theorem interfaceTests_eq_suggestions (o : Options) (hname : blankText m.name = false) :
    interfaceTests m o = .ok (classText m o ++ suggestionsText m o) := by
  have hrendered : interfaceTests m o = .ok (joinLines (interfaceTestLines m o)) :=
    if_neg (by simp [hname])
  have hlines : interfaceTestLines m o =
      (header m.name o ++ (sections m o).flatten ++ ["\x7d"]) ++ suggestionsOf m o := by
    rw [interfaceTestLines_eq]
    simp only [List.append_assoc, List.singleton_append]
  rw [hrendered, hlines, suggestionsOf, suggestionsText]
  split
  · rw [joinLines_append (by simp) (by simp [suggestionBlock]),
      joinLines_suggestionBlock, classText, insideSuggestions]
  · rw [List.append_nil, String.append_empty, classText]

/-- Only an identifier or the type of a custom element can put the end of a comment among the suggestions,
and only these and a label the start of one. If none does, the comment ends where it is meant to. -/
theorem suggestions_end_iff (m : ViewModel) (o : Options) (hname : blankText m.name = false) :
    interfaceTests m o = .ok (classText m o ++ suggestionsText m o) ∧
    (Holds (insideSuggestions m) commentEnd ↔ ∃ f ∈ m.elements, lacksIdentifier f = true ∧
      (Holds f.kindName commentEnd ∨ Holds (effectiveIdentifier f) commentEnd)) ∧
    (Holds (insideSuggestions m) commentStart ↔ ∃ f ∈ m.elements, lacksIdentifier f = true ∧
      (Holds f.label commentStart ∨ Holds f.kindName commentStart ∨
        Holds (effectiveIdentifier f) commentStart)) ∧
    (¬ Holds (insideSuggestions m) commentStart → ¬ Holds (insideSuggestions m) commentEnd →
      behindComment 0 (insideSuggestions m ++ " */\n").toList = some ['\n']) := by
  refine ⟨interfaceTests_eq_suggestions o hname, ?_, ?_, ?_⟩
  · rw [holds_insideSuggestions (.inr rfl)]
    simp only [not_end_commentText, false_or]
  · rw [holds_insideSuggestions (.inl rfl)]
    simp only [start_commentText]
  · intro hstart hend
    have hmark : " */\n".toList = [' ', '*', '/', '\n'] := by decide
    rw [String.toList_append, hmark, behindComment_unmarked (by decide) hstart hend]
    rfl

def closingLabelView : ViewModel where
  name := "Login"
  elements := [{ kind := .button, name := "*/ Sign In" }]

theorem suggestions_end_iff_closingLabel :
    blankText closingLabelView.name = false ∧
    interfaceTests closingLabelView {} =
      .ok (classText closingLabelView {} ++ suggestionsText closingLabelView {}) ∧
    behindComment 0 (insideSuggestions closingLabelView ++ " */\n").toList = some ['\n'] := by
  obtain ⟨htext, hend, hstart, hbehind⟩ := suggestions_end_iff closingLabelView {} (by decide)
  refine ⟨by decide, htext, hbehind ?_ ?_⟩
  · rw [hstart]
    decide +kernel
  · rw [hend]
    decide +kernel

def spacedLabelView : ViewModel where
  name := "V"
  elements := [{ kind := .button, name := "* /" }]

theorem spacedLabel_ends_early :
    interfaceTests spacedLabelView {} = .ok (classText spacedLabelView {} ++
      ("\n/* ACCESSIBILITY SUGGESTIONS" ++ insideSuggestions spacedLabelView ++ " */\n")) ∧
    Holds (insideSuggestions spacedLabelView) commentEnd ∧
    behindComment 0 (insideSuggestions spacedLabelView ++ " */\n").toList =
      some "_button\")\n */\n".toList := by
  refine ⟨interfaceTests_eq_suggestions {} (by decide), ?_, by decide +kernel⟩
  rw [holds_insideSuggestions (.inr rfl)]
  decide +kernel

end TestScaffold.Render
