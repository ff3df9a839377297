import TestScaffold.Proofs.Extraction.Listing
import TestScaffold.Proofs.Swift.BodyGrammar

namespace TestScaffold

open Swift Text Pattern

variable {source : String} {text span body : List Char} {window : Int} {scan : ViewScan}

def BeginsAt (kind : FactKind) (text : List Char) (offset : Nat) : Prop :=
  (callName kind).toList <+: text.drop offset

instance (kind : FactKind) (text : List Char) (offset : Nat) :
    Decidable (BeginsAt kind text offset) :=
  inferInstanceAs (Decidable ((callName kind).toList <+: text.drop offset))

/-- The span starts at `start` in the source, behind the brace that opens the body if it was isolated, and
the positions of the elements count from there. -/
structure Placed (source : String) (scan : ViewScan) (start : Nat) : Prop where
  span : scan.span.toList <+: source.toList.drop start
  begins : ∀ f ∈ scan.elements, f.kind ∈ passKinds.flatten ∧
    ∃ p : Nat, f.position = p ∧ BeginsAt f.kind source.toList (start + p)
  whole : scan.bodyIsolated = false → start = 0
  body : scan.bodyIsolated = true →
    ∃ m, Grammar.bodyOpening.Leftmost source.toList m ∧ m.start < m.stop ∧ start = m.stop

theorem BeginsAt.within {kind : FactKind} {start p : Nat} (h : BeginsAt kind span p)
    (hspan : span <+: text.drop start) : BeginsAt kind text (start + p) := by
  obtain ⟨r, hr⟩ := hspan
  rw [BeginsAt, ← List.drop_drop, ← hr, List.drop_append]
  exact h.trans (List.prefix_append _ _)

theorem start_lt_stop_bodyOpening {m : Found Slot} (h : Grammar.bodyOpening.Leftmost text m) :
    m.start < m.stop := by
  obtain ⟨u, r, -, hhere, -⟩ := h
  rw [here?_eq] at hhere
  obtain ⟨t, ht, rfl⟩ := Option.map_eq_some_iff.1 hhere
  obtain ⟨s', hedge, hword⟩ := mem_all_cons.1 (List.mem_of_head? ht)
  obtain ⟨s, hvar, hrest⟩ := mem_all_cons.1 hword
  obtain ⟨-, rfl⟩ := Grammar.mem_wordEdge hedge
  obtain ⟨w, hw⟩ := reads_of_mem hrest
  have hread := ((reads_lit hvar).trans hw).offset
  have hlength : ("var".toList ++ w).length = 3 + w.length := by simp; omega
  dsimp only at hread ⊢
  omega

theorem exists_opening_of_body? (h : body? text = some body) :
    ∃ m, Grammar.bodyOpening.Leftmost text m ∧ body <+: text.drop m.stop := by
  obtain ⟨m, r, hm, hdrop, -⟩ := body?_eq_some_iff.1 h
  exact ⟨m, hm, hdrop ▸ List.prefix_append body _⟩

theorem exists_placed (h : Listing window source scan) : ∃ start, Placed source scan start := by
  have hbegins {start : Nat} (hspan : scan.span.toList <+: source.toList.drop start) :
      ∀ f ∈ scan.elements, f.kind ∈ passKinds.flatten ∧
        ∃ p : Nat, f.position = p ∧ BeginsAt f.kind source.toList (start + p) := by
    intro f hf
    obtain ⟨hkind, p, stop, hshown⟩ := shown_of_mem_elementFacts (h.elements ▸ hf)
    exact ⟨hkind, p, hshown.position, BeginsAt.within hshown.named hspan⟩
  cases hisolated : scan.bodyIsolated with
  | false =>
    have hspan : scan.span.toList <+: source.toList.drop 0 := by
      rw [h.whole hisolated, List.drop_zero]
    exact ⟨0, hspan, hbegins hspan, fun _ => rfl, by simp [hisolated]⟩
  | true =>
    obtain ⟨m, hm, hspan⟩ := exists_opening_of_body? (h.body hisolated)
    exact ⟨m.stop, hspan, hbegins hspan, by simp [hisolated],
      fun _ => ⟨m, hm, start_lt_stop_bodyOpening hm, rfl⟩⟩

theorem extract_placed (window : Int) (hsource : blankText source = false) :
    ∃ scan start, scanView window source = .ok scan ∧
      extract window .viewElements source = .ok scan.elements ∧ Placed source scan start := by
  obtain ⟨start, hplaced⟩ := exists_placed (listing_scanElements window source)
  refine ⟨scanElements window source, start, ?_, ?_, hplaced⟩ <;>
    simp only [scanView, extract, requireText, hsource, Bool.false_eq_true, if_false] <;> rfl

def greeting : String := "var body: some View \x7b\nText(\"Hi\")\n\x7d"

theorem extract_placed_greeting : blankText greeting = false ∧
    ∃ scan start, scanView 100 greeting = .ok scan ∧ scan.bodyIsolated = true ∧
      extract 100 .viewElements greeting = .ok scan.elements ∧
      scan.elements.map (fun f => (f.kind, f.position)) = [(.text, 1)] ∧
      Placed greeting scan start := by
  have hsource : blankText greeting = false := by decide +kernel
  have hvalues : (scanView 100 greeting).toOption.map (fun scan =>
      (scan.bodyIsolated, scan.elements.map fun f => (f.kind, f.position))) =
      some (true, [(.text, 1)]) := by
    decide +kernel
  obtain ⟨scan, start, hscan, hextract, hplaced⟩ := @extract_placed greeting 100 hsource
  rw [hscan] at hvalues
  obtain ⟨hbody, hfacts⟩ := Prod.mk.inj (Option.some.inj hvalues)
  exact ⟨hsource, scan, start, hscan, hbody, hextract, hfacts, hplaced⟩

theorem position_in_body : blankText greeting = false ∧
    (extract 100 .viewElements greeting).toOption.map (·.map fun f => (f.kind, f.position)) =
      some [(.text, 1)] ∧
    ¬ BeginsAt .text greeting.toList 1 ∧ BeginsAt .text greeting.toList 22 := by
  decide +kernel

end TestScaffold
