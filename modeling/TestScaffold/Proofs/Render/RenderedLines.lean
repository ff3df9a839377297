import TestScaffold.Proofs.Render.Options

namespace TestScaffold.Render

open Text Swift

/-- No line feed is in the names that go into a line unchanged. -/
structure OnOneLine (m : ViewModel) : Prop where
  name : '\n' ∉ m.name.toList
  states : ∀ s ∈ m.stateVariables, '\n' ∉ s.1.toList
  kinds : ∀ f ∈ m.elements, ∀ k ∈ f.customKind, '\n' ∉ k.toList

variable {m : ViewModel} {o : Options} {l s x : String} {ls rest texts : List String} {level : Nat}

theorem inline_indented : '\n' ∉ (indented level x).toList ↔ '\n' ∉ x.toList := by
  rw [toList_indented, List.mem_append, not_or, and_iff_right]
  intro h
  exact absurd (List.eq_of_mem_replicate h) (by decide)

theorem inline_comment (h : ∀ x ∈ texts, '\n' ∉ x.toList) :
    ∀ l ∈ comment o level texts, '\n' ∉ l.toList := by
  intro l hl
  unfold comment at hl
  split at hl
  · obtain ⟨x, hx, rfl⟩ := List.mem_map.1 hl
    exact inline_indented.2 (h x hx)
  · cases hl

theorem Forms.inline {fs : List LineForm} (h : Forms fs ls) : ∀ l ∈ ls, '\n' ∉ l.toList := by
  induction h with
  | nil => simp
  | cons hl _ ih => exact List.forall_mem_cons.2 ⟨hl.inline, ih⟩

theorem inline_header (h : '\n' ∉ s.toList) : ∀ l ∈ header s o, '\n' ∉ l.toList := by
  have hlaunch : ∀ l ∈ (if o.launchArguments then
      [indented 2 "app.launchArguments = [\"--uitesting\"]"] else []), '\n' ∉ l.toList := by
    split <;> decide
  have hclass : '\n' ∉ (classLine s).toList := by simp [classLine, h]
  have hfront : ∀ l ∈ ["import XCTest", "", classLine s, "", indented 1 "let app = XCUIApplication()",
      "", indented 1 "override func setUpWithError() throws \x7b",
      indented 2 "continueAfterFailure = false"], '\n' ∉ l.toList := by
    simp only [List.forall_mem_cons]
    exact ⟨by decide, by decide, hclass, by decide⟩
  unfold header
  simp only [List.forall_mem_append]
  exact ⟨⟨⟨⟨⟨hfront, hlaunch⟩, inline_comment (by decide)⟩, by decide⟩,
    inline_comment fun x hx => (isNote_navigate h x hx).2⟩, by decide⟩

theorem inline_stateChangeTest (h : ∀ s ∈ m.stateVariables, '\n' ∉ s.1.toList) :
    ∀ l ∈ stateChangeTest m o, '\n' ∉ l.toList := by
  have hstates : ∀ p ∈ affected m, '\n' ∉ p.1.toList := by
    intro p hp
    obtain ⟨s, hs, hp⟩ := List.mem_flatMap.1 hp
    obtain ⟨e, -, rfl⟩ := List.mem_map.1 hp
    obtain ⟨v, hv, rfl⟩ := List.mem_map.1 hs
    exact h v (List.mem_of_mem_filter hv)
  have hlines : ∀ l ∈ (affected m).flatMap fun p => stateLines p.1 p.2, '\n' ∉ l.toList := by
    intro l hl
    obtain ⟨p, hp, hl⟩ := List.mem_flatMap.1 hl
    have hlookup := (hasForm_lookupOf p.2).inline
    simp only [stateLines, List.mem_cons, List.not_mem_nil, or_false] at hl
    rcases hl with rfl | rfl | rfl
    · simp [inline_indented, hstates p hp]
    · decide
    · simp [inline_indented, hlookup]
  unfold stateChangeTest testFunctionFor
  split
  · simp
  · simp only [testFunction, List.forall_mem_append, List.forall_mem_cons]
    exact ⟨⟨⟨⟨by decide, inline_comment (by decide)⟩, by decide⟩, hlines⟩, by decide⟩

theorem inline_kindName {f : Fact} (h : ∀ k ∈ f.customKind, '\n' ∉ k.toList) :
    '\n' ∉ f.kindName.toList := by
  have hname (k : FactKind) : '\n' ∉ k.name.toList := by cases k <;> decide
  unfold Fact.kindName
  split
  · rename_i t _ ht
    split
    · exact hname _
    · exact h t ht
  · exact hname _

theorem inline_suggestionBlock {fs : List Fact} (h : ∀ f ∈ fs, '\n' ∉ f.kindName.toList) :
    ∀ l ∈ suggestionBlock fs, '\n' ∉ l.toList := by
  simp only [suggestionBlock, List.forall_mem_append]
  refine ⟨⟨by decide, fun l hl => ?_⟩, by decide⟩
  obtain ⟨f, hf, hl⟩ := List.mem_flatMap.1 hl
  have hidentifier : '\n' ∉ (swiftString (effectiveIdentifier f)).toList :=
    fun hmem => (isLiteral_swiftString _).inline _ hmem rfl
  simp only [List.mem_cons, List.not_mem_nil, or_false] at hl
  rcases hl with rfl | rfl
  · simp [commentText_inline, h f hf]
  · simp [hidentifier]

theorem inline_interfaceTestLines (h : OnOneLine m) (o : Options) :
    ∀ l ∈ interfaceTestLines m o, '\n' ∉ l.toList := by
  have hmarker {b : Bool} {ls : List String} (h : ∀ l ∈ ls, '\n' ∉ l.toList) :
      ∀ l ∈ (if b then ls else []), '\n' ∉ l.toList := by
    cases b with
    | true => exact h
    | false => simp
  have hsections : ∀ l ∈ (sections m o).flatten, '\n' ∉ l.toList := by
    simp only [sections, List.flatten_cons, List.flatten_nil, List.append_nil, List.forall_mem_append]
    exact ⟨(forms_existenceTest m o).inline, (forms_textInputTest m o).inline,
      (forms_buttonTest m o).inline, (forms_toggleTest m o).inline,
      hmarker (inline_stateChangeTest h.states), hmarker (forms_navigationTest m o).inline⟩
  have hsuggestions : ∀ l ∈ suggestionsOf m o, '\n' ∉ l.toList := by
    unfold suggestionsOf
    refine hmarker (inline_suggestionBlock fun f hf => inline_kindName ?_)
    exact h.kinds f (List.mem_of_mem_filter hf)
  rw [interfaceTestLines_eq]
  simp only [List.forall_mem_append, List.forall_mem_cons]
  exact ⟨⟨inline_header h.name, hsections⟩, by decide, hsuggestions⟩

theorem textLines_eq_self (h : '\n' ∉ l.toList) : textLines l = [l] := by
  have hplain : ∀ c ∈ l.toList, (c == '\n') = false := fun c hc => by
    simpa using ne_of_mem_of_not_mem hc h
  rw [textLines, pieces_eq_self hplain]
  simp

theorem textLines_rendered (h : OnOneLine m) (o : Options) :
    textLines (rendered m o) = interfaceTestLines m o ++ [""] := by
  have hlines : (interfaceTestLines m o).flatMap textLines =
      (interfaceTestLines m o).flatMap fun l => [l] :=
    List.flatMap_congr fun l hl => textLines_eq_self (inline_interfaceTestLines h o l hl)
  have hne : interfaceTestLines m o ≠ [] := List.cons_ne_nil _ _
  rw [rendered, textLines_joinLines hne, hlines]
  simp

theorem interfaceTests_eq_rendered (h : blankText m.name = false) :
    interfaceTests m o = .ok (rendered m o) := if_neg (by simp [h])

end TestScaffold.Render
