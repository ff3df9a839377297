import TestScaffold.Proofs.Extraction.Positions
import TestScaffold.Proofs.Swift.PrintedView

namespace TestScaffold

open Swift Text Pattern

variable {source view : String} {window : Int} {body : List Char} {m : ViewModel}

structure BodyWithoutElements (window : Int) (source : String) (body : List Char) : Prop where
  isolated : body? source.toList = some body
  text : body ≠ []
  elementless : elementFacts window body = []

def bodyOrSource (source : String) : String :=
  match body? source.toList with
  | some (c :: cs) => String.ofList (c :: cs)
  | _ => source

theorem blankText_of_requireView (h : requireView source = .ok view) : blankText source = false := by
  unfold requireView requireText at h
  cases hblank : blankText source with
  | false => rfl
  | true =>
    rw [hblank] at h
    cases h

theorem extract_viewElements (window : Int) (h : blankText source = false) :
    extract window .viewElements source = .ok (scanElements window source).elements := by
  simp only [extract, requireText, h, Bool.false_eq_true, if_false]
  rfl

theorem isDeclaration_of_mem_scanElements {f : Fact} (hf : f ∈ (scanElements window source).elements) :
    f.kind.isDeclaration = false := by
  have hkinds : ∀ k ∈ passKinds.flatten, k.isDeclaration = false := by decide
  rw [(listing_scanElements window source).elements] at hf
  exact hkinds f.kind (shown_of_mem_elementFacts hf).1

theorem buildViewWith_scanned (window : Int) (h : requireView source = .ok view) :
    buildViewWith (scanElements window source).elements source =
      .ok (assembleView view source (scanElements window source).elements (bodyOrSource source)) := by
  have hfilter : (scanElements window source).elements.filter (!·.kind.isDeclaration) =
      (scanElements window source).elements :=
    List.filter_eq_self.2 fun f hf => by simp [isDeclaration_of_mem_scanElements hf]
  rw [buildViewWith, h, hfilter]
  rfl

theorem ofList_body_ne (h : body? source.toList = some body) (hbody : body ≠ []) :
    String.ofList body ≠ source := by
  rintro rfl
  rw [String.toList_ofList] at h
  obtain ⟨m, hm, hprefix⟩ := exists_opening_of_body? h
  have hlength := hprefix.length_le
  have hstop := start_lt_stop_bodyOpening hm
  have hpos := List.length_pos_of_ne_nil hbody
  rw [List.length_drop] at hlength
  omega

theorem span_eq_bodyOrSource (h : ∀ body, ¬ BodyWithoutElements window source body) :
    (scanElements window source).span = bodyOrSource source := by
  have hnone : elementFacts window [] = [] := elementFacts_quoteless window (by simp)
  cases hbody : body? source.toList with
  | none => simp only [scanElements, bodyOrSource, hbody]
  | some body =>
    cases body with
    | nil => simp only [scanElements, bodyOrSource, hbody, hnone]
    | cons c cs =>
      cases hfacts : elementFacts window (c :: cs) with
      | nil => exact absurd ⟨hbody, List.cons_ne_nil c cs, hfacts⟩ (h (c :: cs))
      | cons f fs => simp only [scanElements, bodyOrSource, hbody, hfacts]

theorem BodyWithoutElements.span_eq (h : BodyWithoutElements window source body) :
    (scanElements window source).span = source := by
  simp only [scanElements, h.isolated, h.elementless]

theorem BodyWithoutElements.bodyOrSource_eq (h : BodyWithoutElements window source body) :
    bodyOrSource source = String.ofList body := by
  obtain ⟨c, cs, rfl⟩ := List.exists_cons_of_ne_nil h.text
  simp only [bodyOrSource, h.isolated]

theorem buildViewWith_extracted (h : buildView window source = .ok m) :
    ∃ facts m', extract window .viewElements source = .ok facts ∧
      buildViewWith facts source = .ok m' ∧ { m' with rawBody := m.rawBody } = m ∧
      (m' = m ↔ ∀ body, ¬ BodyWithoutElements window source body) ∧
      ∀ body, BodyWithoutElements window source body →
        m.rawBody = source ∧ m'.rawBody = String.ofList body := by
  obtain ⟨view, hview⟩ : ∃ view, requireView source = .ok view := by
    unfold buildView inspectView at h
    cases hview : requireView source with
    | ok view => exact ⟨view, rfl⟩
    | error p =>
      rw [hview] at h
      cases h
  have hm := (buildView_eq window hview).symm.trans h
  cases hm
  refine ⟨_, _, extract_viewElements window (blankText_of_requireView hview),
    buildViewWith_scanned window hview, rfl, ⟨fun hsame body hbody => ?_, fun hnone => ?_⟩,
    fun body hbody => ⟨hbody.span_eq, hbody.bodyOrSource_eq⟩⟩
  · have hraw : bodyOrSource source = (scanElements window source).span :=
      congrArg ViewModel.rawBody hsame
    rw [hbody.bodyOrSource_eq, hbody.span_eq] at hraw
    exact ofList_body_ne hbody.isolated hbody.text hraw
  · rw [span_eq_bodyOrSource hnone]

def greetingView : String :=
  "import SwiftUI\nstruct Greeting: View \x7b var body: some View \x7b Text(\"Hi\") \x7d \x7d"

theorem buildViewWith_extracted_greeting :
    (buildView 100 greetingView).toOption.map (·.rawBody) = some " Text(\"Hi\") " ∧
    (extract 100 .viewElements greetingView).toOption.map (·.map fun f => (f.kind, f.name)) =
      some [(.text, "Hi")] ∧
    ∃ m facts, buildView 100 greetingView = .ok m ∧
      extract 100 .viewElements greetingView = .ok facts ∧ buildViewWith facts greetingView = .ok m := by
  have hraw : (buildView 100 greetingView).toOption.map (·.rawBody) = some " Text(\"Hi\") " := by
    decide +kernel
  have hbody : (body? greetingView.toList).all (elementFacts 100 · != []) = true := by
    decide +kernel
  refine ⟨hraw, by decide +kernel, ?_⟩
  cases hm : buildView 100 greetingView with
  | error p =>
    rw [hm] at hraw
    cases hraw
  | ok m =>
    obtain ⟨facts, m', hextract, hwith, -, hsame, -⟩ := buildViewWith_extracted hm
    have heq : m' = m := hsame.2 fun body h => by
      simp [h.isolated, h.elementless] at hbody
    exact ⟨m, facts, rfl, hextract, heq ▸ hwith⟩

def blankView : String :=
  "import SwiftUI\nstruct Blank: View \x7b var body: some View \x7b EmptyView() \x7d \x7d"

theorem rawBody_blankView :
    (extract 100 .viewElements blankView).toOption = some [] ∧
    (buildViewWith [] blankView).toOption.map (·.rawBody) = some " EmptyView() " ∧
    (buildView 100 blankView).toOption.map (·.rawBody) = some blankView ∧
    (buildViewWith [] blankView).toOption ≠ (buildView 100 blankView).toOption := by
  decide +kernel

end TestScaffold
