import Mathlib.Data.List.Forall2
import TestScaffold.Proofs.Extraction.Identifiers
import TestScaffold.Proofs.Swift.CutAttachments

namespace TestScaffold

open Swift Text

variable {source : String} {window w₁ w₂ : Int} {span : List Char}

/-- The facts differ in what is attached only: `g` keeps the identifier of `f`, if there is one, and goes
on from its modifiers. -/
structure Wider (f g : Fact) : Prop where
  same : g = { f with identifier := g.identifier, modifiers := g.modifiers }
  identifier : ∀ id, f.identifier = some id → g.identifier = some id
  modifiers : f.modifiers <+: g.modifiers

theorem slice_prefix (h₁ : 0 ≤ w₁) (h₂ : w₁ ≤ w₂) (start : Nat) (cs : List Char) :
    slice start (start + w₁) cs <+: slice start (start + w₂) cs := by
  obtain ⟨m₁, hslice₁, hm₁⟩ := slice_window start w₁ cs
  obtain ⟨m₂, hslice₂, hm₂⟩ := slice_window start w₂ cs
  have hle : m₁ ≤ m₂ := by
    rw [hm₁ h₁, hm₂ (Int.le_trans h₁ h₂)]
    exact Int.toNat_le_toNat h₂
  rw [hslice₁, hslice₂]
  exact List.take_prefix_take_left hle

theorem slice_zero (start : Nat) (cs : List Char) : slice start (start + (0 : Int)) cs = [] := by
  obtain ⟨m, hslice, hm⟩ := slice_window start 0 cs
  rw [hslice, hm (Int.le_refl 0)]
  rfl

theorem wider_factOfCall (h₁ : 0 ≤ w₁) (h₂ : w₁ ≤ w₂) (span : List Char) (call : ElementCall) :
    Wider (factOfCall w₁ span call) (factOfCall w₂ span call) := by
  obtain ⟨more, hmore⟩ := slice_prefix h₁ h₂ call.stop span
  refine ⟨rfl, fun id hid => ?_, ?_⟩
  · simp only [factOfCall, ← hmore] at hid ⊢
    exact identifier?_append hid more
  · simp only [factOfCall, ← hmore]
    exact modifiers_prefix _ more

def labelledCalls (span : List Char) : List ElementCall :=
  elementPasses.flatMap fun pass => (pass span).filter (!blankText ·.label)

theorem elementFacts_eq_map (window : Int) (span : List Char) :
    elementFacts window span = (labelledCalls span).map (factOfCall window span) := by
  rw [elementFacts, labelledCalls, List.map_flatMap]

theorem wider_elementFacts (h₁ : 0 ≤ w₁) (h₂ : w₁ ≤ w₂) (span : List Char) :
    List.Forall₂ Wider (elementFacts w₁ span) (elementFacts w₂ span) := by
  rw [elementFacts_eq_map, elementFacts_eq_map, List.forall₂_map_left_iff,
    List.forall₂_map_right_iff, List.forall₂_same]
  exact fun call _ => wider_factOfCall h₁ h₂ span call

theorem elementFacts_zero {f : Fact} (h : f ∈ elementFacts 0 span) :
    f.identifier = none ∧ f.modifiers = [] := by
  rw [elementFacts_eq_map] at h
  obtain ⟨call, -, rfl⟩ := List.mem_map.1 h
  simp only [factOfCall, slice_zero]
  exact ⟨identifier?_nil, modifiers_nil⟩

theorem scanElements_eq (source : String) : ∃ span isolated, ∀ window,
    scanElements window source =
      ⟨elementFacts window span, String.ofList span, isolated⟩ := by
  have hwhole : String.ofList source.toList = source := String.ofList_toList
  cases hbody : body? source.toList with
  | none => exact ⟨source.toList, false, fun window => by simp only [scanElements, hbody, hwhole]⟩
  | some body =>
    cases hcalls : labelledCalls body with
    | nil =>
      refine ⟨source.toList, false, fun window => ?_⟩
      have hnone : elementFacts window body = [] := by rw [elementFacts_eq_map, hcalls, List.map_nil]
      simp only [scanElements, hbody, hnone, hwhole]
    | cons call calls =>
      refine ⟨body, true, fun window => ?_⟩
      have hsome : elementFacts window body =
          factOfCall window body call :: calls.map (factOfCall window body) := by
        rw [elementFacts_eq_map, hcalls, List.map_cons]
      simp only [scanElements, hbody, hsome]

/-- A wider window adds to what elements carry and changes nothing else. With none, they carry nothing. -/
theorem scanView_wider (hsource : blankText source = false) (h₁ : 0 ≤ w₁) (h₂ : w₁ ≤ w₂) :
    ∃ s₁ s₂, scanView w₁ source = .ok s₁ ∧ scanView w₂ source = .ok s₂ ∧ s₁.span = s₂.span ∧
      s₁.bodyIsolated = s₂.bodyIsolated ∧ List.Forall₂ Wider s₁.elements s₂.elements ∧
      (w₁ = 0 → ∀ f ∈ s₁.elements, f.identifier = none ∧ f.modifiers = []) := by
  have hscan (window : Int) : scanView window source = .ok (scanElements window source) := by
    simp only [scanView, requireText, hsource, Bool.false_eq_true, if_false]
    rfl
  obtain ⟨span, isolated, helements⟩ := scanElements_eq source
  refine ⟨_, _, hscan w₁, hscan w₂, ?_⟩
  rw [helements, helements]
  refine ⟨rfl, rfl, wider_elementFacts h₁ h₂ span, ?_⟩
  rintro rfl f hf
  exact elementFacts_zero hf

def paddedTitle : String :=
  "VStack \x7b\nText(\"Title\").padding(8).accessibilityIdentifier(\"title\")\n\x7d"

def carried (window : Int) (source : String) : Option (List (Option String × List String)) :=
  (scanView window source).toOption.map (·.elements.map fun f => (f.identifier, f.modifiers))

theorem scanView_wider_paddedTitle :
    carried 20 paddedTitle = some [(none, ["padding"])] ∧
    carried 60 paddedTitle = some [(some "title", ["padding", "accessibilityIdentifier"])] ∧
    ∃ s₁ s₂, scanView 20 paddedTitle = .ok s₁ ∧ scanView 60 paddedTitle = .ok s₂ ∧
      s₁.span = s₂.span ∧ s₁.bodyIsolated = s₂.bodyIsolated ∧
      List.Forall₂ Wider s₁.elements s₂.elements := by
  have hsource : blankText paddedTitle = false := by decide +kernel
  have hnarrow : (0 : Int) ≤ 20 := by decide
  have hwide : (20 : Int) ≤ 60 := by decide
  obtain ⟨s₁, s₂, hscan₁, hscan₂, hspan, hisolated, helements, -⟩ :=
    scanView_wider hsource hnarrow hwide
  refine ⟨?_, ?_, s₁, s₂, hscan₁, hscan₂, hspan, hisolated, helements⟩ <;> decide +kernel

end TestScaffold
