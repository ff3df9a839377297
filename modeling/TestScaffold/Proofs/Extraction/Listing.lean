import TestScaffold.Proofs.Extraction.Windows
import TestScaffold.Proofs.Swift.FoundCalls

namespace TestScaffold

open Swift Text

variable {source : String} {window : Int} {span : List Char} {kinds : List FactKind}

structure Shown (span : List Char) (f : Fact) (start stop : Nat) : Prop where
  position : f.position = start
  within : stop ≤ span.length
  named : (callName f.kind).toList <+: span.drop start
  quoted : ∃ u v, slice start stop span = u ++ '"' :: (f.name.toList ++ '"' :: v)
  visible : blankText f.name = false
  line : '\n' ∉ f.name.toList
  action : f.hasAction = true ↔ f.kind = .button ∨ f.kind = .navigationLink

structure IsRun (span : List Char) (pass : List Char → List ElementCall) (kinds : List FactKind)
    (fs : List Fact) : Prop where
  kinds : ∀ f ∈ fs, f.kind ∈ kinds
  increasing : fs.Pairwise fun f g => f.position < g.position
  shown : List.Forall₂ (fun f call => Shown span f call.start call.stop) fs
    ((pass span).filter (!blankText ·.label))
  apart : (pass span).Pairwise fun c c' => c.stop ≤ c'.start

/-- What a scan of a source tells: a run for each pass, over the body if there is one with elements in it
and over the whole source otherwise. -/
structure Listing (window : Int) (source : String) (scan : ViewScan) : Prop where
  elements : scan.elements = elementFacts window scan.span.toList
  runs : ∃ runs, scan.elements = runs.flatten ∧
    List.Forall₂ (fun p fs => IsRun scan.span.toList p.1 p.2 fs) (elementPasses.zip passKinds) runs
  isolated : scan.bodyIsolated = true ↔
    ∃ body, body? source.toList = some body ∧ elementFacts window body ≠ []
  body : scan.bodyIsolated = true → body? source.toList = some scan.span.toList
  whole : scan.bodyIsolated = false → scan.span = source

theorem hasAction_iff (kind : FactKind) :
    kind.hasAction = true ↔ kind = .button ∨ kind = .navigationLink := by
  cases kind <;> simp [FactKind.hasAction]

theorem shown_of_mem_pass {pass : List Char → List ElementCall} {call : ElementCall}
    (h : FindsCalls pass kinds) (hcall : call ∈ (pass span).filter (!blankText ·.label))
    (window : Int) : call.kind ∈ kinds ∧ call.start < call.stop ∧
      Shown span (factOfCall window span call) call.start call.stop := by
  obtain ⟨hmem, hlabel⟩ := List.mem_filter.1 hcall
  obtain ⟨hkind, hin⟩ := h.calls span call hmem
  have hvisible : blankText call.label = false := by simpa using hlabel
  refine ⟨hkind, hin.start_lt_stop, ?_⟩
  exact {
    position := rfl
    within := hin.within
    named := hin.named
    quoted := hin.quoted
    visible := hvisible
    line := hin.line
    action := hasAction_iff call.kind }

def passFacts (window : Int) (span : List Char) (pass : List Char → List ElementCall) : List Fact :=
  ((pass span).filter (!blankText ·.label)).map (factOfCall window span)

theorem isRun_passFacts {pass : List Char → List ElementCall} (h : FindsCalls pass kinds)
    (window : Int) (span : List Char) :
    IsRun span pass kinds (passFacts window span pass) := by
  refine ⟨?_, ?_, ?_, h.apart span⟩
  · intro f hf
    obtain ⟨call, hcall, rfl⟩ := List.mem_map.1 hf
    exact (shown_of_mem_pass h hcall window).1
  · have hapart := (h.apart span).filter (!blankText ·.label)
    refine List.pairwise_map.2 (hapart.imp_of_mem fun {c c'} hc _ hle => ?_)
    -- A call starts before it ends, and the next one no earlier than there.
    obtain ⟨-, hlt, -⟩ := shown_of_mem_pass h hc window
    simp only [factOfCall]
    omega
  · rw [passFacts, List.forall₂_map_left_iff, List.forall₂_same]
    exact fun call hcall => (shown_of_mem_pass h hcall window).2.2

theorem findsCalls_passes : ∀ p ∈ elementPasses.zip passKinds, FindsCalls p.1 p.2 := by
  simp only [elementPasses, passKinds, List.zip_cons_cons, List.zip_nil_left, List.forall_mem_cons]
  exact ⟨findsCalls_buttons, findsCalls_textInputs, findsCalls_staticTexts, findsCalls_toggles,
    findsCalls_navigationLinks, by simp⟩

theorem exists_runs (window : Int) (span : List Char) : ∃ runs,
    elementFacts window span = runs.flatten ∧
      List.Forall₂ (fun p fs => IsRun span p.1 p.2 fs) (elementPasses.zip passKinds) runs := by
  refine ⟨(elementPasses.zip passKinds).map fun p => passFacts window span p.1, rfl, ?_⟩
  rw [List.forall₂_map_right_iff, List.forall₂_same]
  exact fun p hp => isRun_passFacts (findsCalls_passes p hp) window span

theorem shown_of_mem_elementFacts {f : Fact} (hf : f ∈ elementFacts window span) :
    f.kind ∈ passKinds.flatten ∧ ∃ start stop, Shown span f start stop := by
  obtain ⟨pass, hpass, hf⟩ := List.mem_flatMap.1 hf
  obtain ⟨call, hcall, rfl⟩ := List.mem_map.1 hf
  have hfst : elementPasses = (elementPasses.zip passKinds).map Prod.fst := rfl
  rw [hfst] at hpass
  obtain ⟨p, hp, rfl⟩ := List.mem_map.1 hpass
  obtain ⟨hkind, -, hshown⟩ := shown_of_mem_pass (findsCalls_passes p hp) hcall window
  exact ⟨List.mem_flatten_of_mem (List.of_mem_zip hp).2 hkind, call.start, call.stop, hshown⟩

theorem listing_scanElements (window : Int) (source : String) :
    Listing window source (scanElements window source) := by
  cases hbody : body? source.toList with
  | none =>
    have hscan : scanElements window source =
        ⟨elementFacts window source.toList, source, false⟩ := by
      simp only [scanElements, hbody]
    rw [hscan]
    exact ⟨rfl, exists_runs window _, by simp [hbody], by simp, fun _ => rfl⟩
  | some body =>
    cases hfacts : elementFacts window body with
    | nil =>
      have hscan : scanElements window source =
          ⟨elementFacts window source.toList, source, false⟩ := by
        simp only [scanElements, hbody, hfacts]
      rw [hscan]
      exact ⟨rfl, exists_runs window _, by simp [hbody, hfacts], by simp, fun _ => rfl⟩
    | cons f fs =>
      have hscan : scanElements window source =
          ⟨elementFacts window body, String.ofList body, true⟩ := by
        simp only [scanElements, hbody, hfacts]
      rw [hscan]
      refine ⟨?_, ?_, by simp [hbody, hfacts], fun _ => ?_, by simp⟩ <;>
        simp only [String.toList_ofList]
      · exact exists_runs window body
      · exact hbody

theorem scanView_listing (window : Int) (hsource : blankText source = false) :
    ∃ scan, scanView window source = .ok scan ∧ Listing window source scan := by
  refine ⟨scanElements window source, ?_, listing_scanElements window source⟩
  simp only [scanView, requireText, hsource, Bool.false_eq_true, if_false]
  rfl

def nestedControls : String :=
  "var body: some View \x7b\nText(\"Hi\")\nButton \x7b go() \x7d label: \x7b Text(\"Go\") \x7d\n\x7d"

theorem scanView_listing_nestedControls : blankText nestedControls = false ∧
    ∃ scan, scanView 40 nestedControls = .ok scan ∧ Listing 40 nestedControls scan ∧
      scan.bodyIsolated = true ∧
      scan.elements.map (fun f => (f.kind, f.name, f.position)) =
        [(.button, "Go", 12), (.text, "Hi", 1), (.text, "Go", 37)] := by
  have hsource : blankText nestedControls = false := by decide +kernel
  have hvalues : (scanView 40 nestedControls).toOption.map (fun scan =>
      (scan.bodyIsolated, scan.elements.map fun f => (f.kind, f.name, f.position))) =
      some (true, [(.button, "Go", 12), (.text, "Hi", 1), (.text, "Go", 37)]) := by
    decide +kernel
  obtain ⟨scan, hscan, hlisting⟩ := @scanView_listing nestedControls 40 hsource
  rw [hscan] at hvalues
  obtain ⟨hbody, hfacts⟩ := Prod.mk.inj (Option.some.inj hvalues)
  exact ⟨hsource, scan, hscan, hlisting, hbody, hfacts⟩

end TestScaffold
