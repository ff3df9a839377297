import TestScaffold.Proofs.Render.Suggestions
import TestScaffold.Text.Lines

namespace TestScaffold.Render

open Text

def SingleSpaced (cs : List Char) : Prop :=
  ∃ ws : List (List Char), (∀ w ∈ ws, IsUnbroken w) ∧ cs = [' '].intercalate ws

def inked (s : String) : List Char := s.toList.filter (!isBlank ·)

variable {s : String} {c : Char} {cs w : List Char}

theorem openCommentEnds_eq_self (h : ¬ commentEnd <:+: cs) : openCommentEnds cs = cs := by
  induction cs using openCommentEnds.induct with
  | case1 => rfl
  | case2 cs => exact absurd ⟨[], cs, rfl⟩ h
  | case3 c cs hend ih =>
    rw [openCommentEnds, ih fun hcs => h (hcs.trans (List.suffix_cons c cs).isInfix)]
    exact hend

theorem openCommentEnds_space (v w : List Char) :
    openCommentEnds (v ++ ' ' :: w) = openCommentEnds v ++ ' ' :: openCommentEnds w := by
  induction v using openCommentEnds.induct with
  | case1 => simp [openCommentEnds]
  | case2 v ih => simp [openCommentEnds, ih]
  | case3 c v hend ih =>
    -- A space behind the text makes no end of its last character.
    have hend' : ∀ cs, c = '*' → v ++ ' ' :: w = '/' :: cs → False := by
      intro cs hc hcs
      cases v with
      | nil => simp at hcs
      | cons d v =>
        obtain ⟨rfl, -⟩ := List.cons.inj hcs
        exact hend v hc rfl
    rw [List.cons_append, openCommentEnds, openCommentEnds, ih, List.cons_append]
    · exact hend
    · exact hend'

theorem filter_openCommentEnds (cs : List Char) :
    (openCommentEnds cs).filter (!isBlank ·) = cs.filter (!isBlank ·) := by
  have hspace : isBlank ' ' = true := by decide
  induction cs using openCommentEnds.induct with
  | case1 => rfl
  | case2 cs ih => simp [openCommentEnds, List.filter_cons, hspace, ih]
  | case3 c cs hend ih =>
    rw [openCommentEnds, List.filter_cons, List.filter_cons, ih]
    exact hend

theorem exists_openCommentEnds (hw : ∀ c ∈ w, isBlank c = false) :
    ∃ v vs, (v = [] → w = []) ∧ (∀ c ∈ v, isBlank c = false) ∧ (∀ u ∈ vs, IsUnbroken u) ∧
      openCommentEnds w = [' '].intercalate (v :: vs) := by
  induction w using openCommentEnds.induct with
  | case1 => exact ⟨[], [], fun _ => rfl, hw, List.forall_mem_nil _, rfl⟩
  | case2 w ih =>
    simp only [List.forall_mem_cons] at hw
    obtain ⟨v, vs, -, hv, hvs, heq⟩ := ih hw.2.2
    have hslash : IsUnbroken ('/' :: v) := ⟨List.cons_ne_nil _ _, List.forall_mem_cons.2 ⟨hw.2.1, hv⟩⟩
    refine ⟨['*'], ('/' :: v) :: vs, fun h => absurd h (List.cons_ne_nil _ _), by simpa using hw.1,
      List.forall_mem_cons.2 ⟨hslash, hvs⟩, ?_⟩
    rw [openCommentEnds, heq, cons_intercalate, List.intercalate_cons_cons]
    rfl
  | case3 c w hend ih =>
    rw [List.forall_mem_cons] at hw
    obtain ⟨v, vs, -, hv, hvs, heq⟩ := ih hw.2
    refine ⟨c :: v, vs, fun h => absurd h (List.cons_ne_nil _ _), List.forall_mem_cons.2 ⟨hw.1, hv⟩, hvs, ?_⟩
    rw [openCommentEnds, heq, cons_intercalate]
    exact hend

theorem singleSpaced_openCommentEnds (h : SingleSpaced cs) : SingleSpaced (openCommentEnds cs) := by
  obtain ⟨ws, hws, rfl⟩ := h
  suffices hopened : ∃ us : List (List Char), (us = [] → ws = []) ∧ (∀ u ∈ us, IsUnbroken u) ∧
      openCommentEnds ([' '].intercalate ws) = [' '].intercalate us from
    let ⟨us, _, hus, heq⟩ := hopened
    ⟨us, hus, heq⟩
  induction ws with
  | nil => exact ⟨[], fun _ => rfl, nofun, rfl⟩
  | cons w ws ih =>
    rw [List.forall_mem_cons] at hws
    obtain ⟨v, vs, hne, hv, hvs, heq⟩ := exists_openCommentEnds hws.1.2
    have hunbroken : ∀ u ∈ v :: vs, IsUnbroken u :=
      List.forall_mem_cons.2 ⟨⟨fun hnil => hws.1.1 (hne hnil), hv⟩, hvs⟩
    obtain ⟨us, hempty, hus, hrest⟩ := ih hws.2
    cases ws with
    | nil => exact ⟨v :: vs, nofun, hunbroken, by rw [List.intercalate_singleton, heq]⟩
    | cons w' ws =>
      have hsome : us ≠ [] := fun hnil => List.cons_ne_nil w' ws (hempty hnil)
      refine ⟨(v :: vs) ++ us, nofun, List.forall_mem_append.2 ⟨hunbroken, hus⟩, ?_⟩
      rw [List.intercalate_cons_cons, List.append_assoc, List.singleton_append,
        openCommentEnds_space, heq, hrest, intercalate_append (List.cons_ne_nil _ _) hsome,
        List.singleton_append]

theorem isBlank_of_isLineBreak (h : isLineBreak c = true) : isBlank c = true := by
  have hwithin : lineBreaks.all (fun r => blankRanges.any fun b => b.1 ≤ r.1 && r.2 ≤ b.2) = true := by
    decide
  obtain ⟨r, hr, hc⟩ := Ranges.has_iff.1 h
  obtain ⟨b, hb, hle⟩ := List.any_eq_true.1 (List.all_eq_true.1 hwithin r hr)
  simp only [Bool.and_eq_true, decide_eq_true_eq] at hle
  exact Ranges.has_iff.2 ⟨b, hb, hle.1.trans hc.1, hc.2.trans hle.2⟩

theorem SingleSpaced.isLineBreak (h : SingleSpaced cs) : ∀ c ∈ cs, isLineBreak c = false := by
  obtain ⟨ws, hws, rfl⟩ := h
  intro c hc
  rcases mem_intercalate hc with hc | ⟨w, hw, hc⟩
  · rw [List.mem_singleton.1 hc]
    decide
  · rw [Bool.eq_false_iff]
    intro hbreak
    exact Bool.false_ne_true (((hws w hw).2 c hc).symm.trans (isBlank_of_isLineBreak hbreak))

theorem singleSpaced_commentText (s : String) : SingleSpaced (commentText s).toList := by
  rw [commentText, String.toList_ofList]
  exact singleSpaced_openCommentEnds ⟨words s.toList, fun _ => isUnbroken_of_mem_words, rfl⟩

theorem commentText_eq_self (hline : SingleSpaced s.toList) (hend : ¬ Holds s commentEnd) :
    commentText s = s := by
  obtain ⟨ws, hws, heq⟩ := hline
  rw [commentText, heq, words_intercalate hws, ← heq, openCommentEnds_eq_self hend,
    String.ofList_toList]

theorem inked_commentText (s : String) : inked (commentText s) = inked s := by
  rw [inked, commentText, String.toList_ofList, filter_openCommentEnds,
    filter_intercalate fun _ => isUnbroken_of_mem_words, flatten_words, inked]

theorem commentText_oneLine (s : String) :
    SingleSpaced (commentText s).toList ∧ (∀ c ∈ (commentText s).toList, isLineBreak c = false) ∧
    ¬ Holds (commentText s) commentEnd ∧ commentText (commentText s) = commentText s ∧
    inked (commentText s) = inked s :=
  ⟨singleSpaced_commentText s, (singleSpaced_commentText s).isLineBreak,
    not_end_commentText s, commentText_eq_self (singleSpaced_commentText s) (not_end_commentText s),
    inked_commentText s⟩

end TestScaffold.Render
