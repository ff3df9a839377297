import TestScaffold.Extraction
import TestScaffold.Proofs.Pattern.Captures
import TestScaffold.Proofs.Render.Naming
import TestScaffold.Proofs.Swift.Lexemes

namespace TestScaffold.Swift

open Text Pattern Render

def IsNameText (u : List Char) : Prop := u ≠ [] ∧ ∀ c ∈ u, isNameChar c = true

theorem IsNameText.isName {u : List Char} (h : IsNameText u) : IsName (String.ofList u) := by
  refine ⟨fun hnil => h.1 ?_, fun c hc => ?_⟩
  · simpa using congrArg String.toList hnil
  · rw [String.toList_ofList] at hc
    exact h.2 c hc

namespace Grammar

theorem captures_name : (Pattern.capture Slot.name name).Captures .name IsNameText := by
  refine ⟨⟨trivial, trivial⟩, fun _ s t ht => ?_⟩
  obtain ⟨i, hi⟩ := mem_name ht
  exact ⟨i.text, hi, i.isWordText.1, i.isNameChar_of_mem⟩

theorem always_name : (Pattern.capture Slot.name name).Always Slot.name := .inl rfl

variable {P : List Char → Prop}

theorem captures_viewDeclaration : viewDeclaration.Captures .name IsNameText := by
  apply captures_all
  simp only [List.forall_mem_cons, List.not_mem_nil, false_implies, implies_true, and_true]
  refine ⟨trivial, captures_lit _, ⟨trivial, trivial⟩, captures_name, trivial, trivial, trivial, ?_,
    captures_lit _, trivial⟩
  exact ⟨⟨trivial, trivial⟩, trivial, trivial, trivial⟩

theorem captures_other {i : Slot} {p : Grammar} (hi : i ≠ .name) (hp : p.Captures .name P) :
    (Pattern.capture i p).Captures .name P :=
  ⟨hp, fun h => absurd h hi⟩

theorem captures_optional {p : Grammar} (hp : p.Captures .name P) :
    (Pattern.optional p).Captures .name P :=
  ⟨hp, trivial⟩

theorem captures_stateVariable : stateVariable.Captures .name IsNameText := by
  have hblanks : blanks.Captures .name IsNameText := trivial
  have hwrapper := captures_other (i := .wrapper) (by decide) <|
    captures_any_lit (i := Slot.name) (P := IsNameText)
      ["State", "Binding", "ObservedObject", "StateObject", "Published"]
  have haccess : (all [any (access.map lit), setterMark, someBlanks]).Captures .name IsNameText :=
    ⟨captures_any_lit access, captures_optional (captures_lit _), trivial, trivial⟩
  have htype : (all [Pattern.char ':', blanks,
      .capture .type (plus (except ['=', '\n', '/', '\x7b']))]).Captures .name IsNameText :=
    ⟨trivial, trivial, captures_other (by decide) ⟨trivial, trivial⟩⟩
  have hinitial : (all [Pattern.char '=', blanks,
      .capture .initial (plus (except ['\n']))]).Captures .name IsNameText :=
    ⟨trivial, trivial, captures_other (by decide) ⟨trivial, trivial⟩⟩
  exact ⟨trivial, hwrapper, ⟨trivial, trivial⟩, captures_optional haccess, captures_lit _,
    ⟨trivial, trivial⟩, captures_name, hblanks, captures_optional htype, captures_optional hinitial⟩

end Grammar

variable {source : List Char} {n : String}

theorem isName_viewName (h : viewName? source = some n) : IsName n := by
  obtain ⟨m, hm, rfl⟩ := Option.map_eq_some_iff.1 h
  have halways : Grammar.viewDeclaration.Always Slot.name :=
    always_all (p := .capture .name Grammar.name) (by simp) Grammar.always_name
  exact (text_of_search? Grammar.captures_viewDeclaration halways hm).isName

theorem isName_of_mem_stateVariables (h : n ∈ (stateVariables source).keys) : IsName n := by
  have hkey := Entries.keys_ofList_subset _ h
  simp only [List.mem_map, exists_exists_and_eq_and] at hkey
  obtain ⟨m, hm, rfl⟩ := hkey
  have halways : Grammar.stateVariable.Always Slot.name :=
    always_all (p := .capture .name Grammar.name) (by simp) Grammar.always_name
  exact (text_of_scan Grammar.captures_stateVariable halways hm).isName

end TestScaffold.Swift

namespace TestScaffold

open Swift Render

variable {window : Int} {source view : String} {m : ViewModel}

theorem viewName?_of_requireView (h : requireView source = .ok view) :
    viewName? source.toList = some view := by
  unfold requireView at h
  cases htext : requireText source with
  | error p =>
    rw [htext] at h
    cases h
  | ok u =>
    simp only [htext, bind, Except.bind] at h
    split at h
    · cases h
    · cases hname : viewName? source.toList with
      | none =>
        rw [hname] at h
        cases h
      | some name =>
        simp only [hname] at h
        split at h
        · cases h
        · cases h
          rfl

theorem isName_of_buildView (h : buildView window source = .ok m) :
    IsName m.name ∧ ∀ n ∈ m.booleanState, IsName n := by
  unfold buildView inspectView at h
  cases hview : requireView source with
  | error p =>
    rw [hview] at h
    cases h
  | ok name =>
    rw [hview] at h
    cases h
    refine ⟨isName_viewName (viewName?_of_requireView hview), fun n hn => ?_⟩
    obtain ⟨e, he, rfl⟩ := List.mem_map.1 hn
    have hkey : e.1 ∈ (stateVariables source.toList).keys :=
      List.mem_map_of_mem (List.mem_of_mem_filter he)
    exact isName_of_mem_stateVariables hkey

end TestScaffold
