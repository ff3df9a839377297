import TestScaffold.Proofs.Extraction.Units
import TestScaffold.Reply.Payload

namespace TestScaffold.Reply

open Text

variable {f : Fact} {type : String} {e : ReportedElement} {i : Nat}

def elementTypes : List String :=
  ["button", "textField", "secureField", "text", "toggle", "picker", "slider", "navigationLink",
   "list"]

theorem kindOfType_eq_custom_iff : kindOfType type = .custom ↔ type ∉ elementTypes := by
  have hknown : ∀ t ∈ elementTypes, kindOfType t ≠ .custom := by decide
  refine ⟨fun h hmem => hknown type hmem h, fun h => ?_⟩
  unfold kindOfType
  cases hk : FactKind.ofName? type with
  | none => rfl
  | some k =>
    unfold FactKind.ofName? at hk
    obtain rfl : k.name = type := by simpa using List.find?_some hk
    cases k with
    | function | property | custom => rfl
    | _ => exact absurd (by decide) h

theorem name_kindOfType (h : type ∈ elementTypes) : (kindOfType type).name = type := by
  revert type
  decide

theorem isDeclaration_kindOfType (type : String) : (kindOfType type).isDeclaration = false := by
  unfold kindOfType
  cases FactKind.ofName? type with
  | none => rfl
  | some k => cases k <;> rfl

theorem name_injective {k k' : FactKind} (h : k.name = k'.name) : k = k' := by
  have hback (k : FactKind) : FactKind.ofName? k.name = some k := by
    cases k <;> decide
  exact Option.some.inj ((hback k).symm.trans (h ▸ hback k'))

structure Keeps (e : ReportedElement) (i : Nat) (f : Fact) : Prop where
  label : f.label = e.label
  modifiers : f.modifiers = e.modifiers
  hasAction : f.hasAction = e.hasAction
  position : f.position = i
  element : f.kind.isDeclaration = false
  custom : f.kind = .custom ↔ e.type ∉ elementTypes
  customKind : f.kind = .custom → f.customKind = some e.type
  known : f.kind ≠ .custom → f.kind.name = e.type ∧ f.customKind = none
  identifier : f.identifier = if e.identifier = some "" then none else e.identifier
  bare : f.isStatic = false ∧ f.declaredType = none ∧ f.parameters = none

theorem filter_identifier (o : Option String) :
    o.filter (!·.isEmpty) = if o = some "" then none else o := by
  cases o with
  | none => rfl
  | some s => by_cases hs : s = "" <;> simp [hs]

theorem keeps_toFact (e : ReportedElement) (i : Nat) : Keeps e i (e.toFact i) where
  label := rfl
  modifiers := rfl
  hasAction := rfl
  position := rfl
  element := isDeclaration_kindOfType e.type
  custom := kindOfType_eq_custom_iff
  customKind h := if_pos h
  known h := by
    have hmem : e.type ∈ elementTypes :=
      Decidable.of_not_not fun hmem => h (kindOfType_eq_custom_iff.2 hmem)
    exact ⟨name_kindOfType hmem, if_neg h⟩
  identifier := filter_identifier e.identifier
  bare := ⟨rfl, rfl, rfl⟩

theorem Keeps.eq_toFact (h : Keeps e i f) : f = e.toFact i := by
  have hkind : f.kind = kindOfType e.type := by
    by_cases hmem : e.type ∈ elementTypes
    · have hne : f.kind ≠ .custom := fun heq => h.custom.1 heq hmem
      have hname : f.kind.name = (kindOfType e.type).name := by
        rw [(h.known hne).1, name_kindOfType hmem]
      exact name_injective hname
    · rw [h.custom.2 hmem, kindOfType_eq_custom_iff.2 hmem]
  have hcustomKind : f.customKind = if kindOfType e.type = .custom then some e.type else none := by
    rw [← hkind]
    split
    · exact h.customKind ‹_›
    · exact (h.known ‹_›).2
  have hidentifier : f.identifier = e.identifier.filter (!·.isEmpty) := by
    rw [h.identifier, filter_identifier]
  obtain ⟨hlabel, hmodifiers, haction, hposition, -, -, -, -, -, hbare⟩ := h
  rw [Fact.label] at hlabel
  cases f
  simp_all only [ReportedElement.toFact]

theorem elements_toModel (r : ViewReply) (source : String) :
    (r.toModel source).elements.Pairwise (·.position < ·.position) ∧
    ∀ f, f ∈ (r.toModel source).elements ↔
      ∃ i e, r.elements[i]? = some e ∧ blankText e.label = false ∧ Keeps e i f := by
  refine ⟨?_, fun f => ?_⟩
  · refine List.pairwise_map.2 (increasing_zipIdx.imp fun {x y} hxy => ?_)
    exact Int.ofNat_lt.2 hxy
  · constructor
    · intro hf
      obtain ⟨⟨e, i⟩, hmem, rfl⟩ := List.mem_map.1 hf
      obtain ⟨hindex, hlabel⟩ := List.mem_filter.1 hmem
      exact ⟨i, e, List.mk_mem_zipIdx_iff_getElem?.1 hindex, by simpa using hlabel, keeps_toFact e i⟩
    · rintro ⟨i, e, hindex, hlabel, hkeeps⟩
      rw [hkeeps.eq_toFact]
      refine List.mem_map.2 ⟨(e, i), List.mem_filter.2 ⟨?_, by simp [hlabel]⟩, rfl⟩
      exact List.mk_mem_zipIdx_iff_getElem?.2 hindex

section

variable {d : ReportedDeclaration} {r : DeclarationsReply}

structure FirstOfName (ds : List ReportedDeclaration) (i : Nat) (d : ReportedDeclaration) : Prop where
  here : ds[i]? = some d
  named : blankText d.name = false
  first : ∀ j < i, ∀ d', ds[j]? = some d' → d'.name ≠ d.name

theorem mem_toFacts : f ∈ r.toFacts ↔
    ∃ (i : Nat) (d : ReportedDeclaration),
      r.declarations[i]? = some d ∧ blankText d.name = false ∧ f = d.toFact i := by
  constructor
  · intro hf
    obtain ⟨⟨d, i⟩, hmem, rfl⟩ := List.mem_map.1 hf
    obtain ⟨hindex, hname⟩ := List.mem_filter.1 hmem
    exact ⟨i, d, List.mk_mem_zipIdx_iff_getElem?.1 hindex, by simpa using hname, rfl⟩
  · rintro ⟨i, d, hindex, hname, rfl⟩
    refine List.mem_map.2 ⟨(d, i), List.mem_filter.2 ⟨?_, by simp [hname]⟩, rfl⟩
    exact List.mk_mem_zipIdx_iff_getElem?.2 hindex

theorem ordered_toFacts (r : DeclarationsReply) : Ordered r.toFacts where
  increasing := List.pairwise_map.2 (increasing_zipIdx.imp fun {x y} hxy => Int.ofNat_lt.2 hxy)
  known f hf := by
    obtain ⟨i, d, -, -, rfl⟩ := mem_toFacts.1 hf
    exact Int.natCast_nonneg i

theorem isDeclaration_of_mem_toFacts (hf : f ∈ r.toFacts) : f.kind.isDeclaration = true := by
  obtain ⟨i, d, -, -, rfl⟩ := mem_toFacts.1 hf
  rw [ReportedDeclaration.toFact]
  dsimp only
  split <;> rfl

theorem mem_units_toModel :
    f ∈ r.toModel.units ↔ ∃ i d, FirstOfName r.declarations i d ∧ f = d.toFact i := by
  rw [DeclarationsReply.toModel, (ordered_toFacts r).mem_firstOfEachName_iff]
  constructor
  · rintro ⟨hf, hfirst⟩
    obtain ⟨i, d, hindex, hname, rfl⟩ := mem_toFacts.1 hf
    refine ⟨i, d, ⟨hindex, hname, fun j hj d' hd' hsame => ?_⟩, rfl⟩
    have hname' : blankText d'.name = false := hsame ▸ hname
    exact hfirst (d'.toFact j) (mem_toFacts.2 ⟨j, d', hd', hname', rfl⟩) (Int.ofNat_lt.2 hj) hsame
  · rintro ⟨i, d, hd, rfl⟩
    refine ⟨mem_toFacts.2 ⟨i, d, hd.here, hd.named, rfl⟩, fun g hg hlt => ?_⟩
    obtain ⟨j, d', hindex, -, rfl⟩ := mem_toFacts.1 hg
    exact hd.first j (Int.ofNat_lt.1 hlt) d' hindex

end

theorem reported_models :
    (∀ (r : ViewReply) (source : String),
      (r.toModel source).elements.Pairwise (·.position < ·.position) ∧
      ∀ f, f ∈ (r.toModel source).elements ↔
        ∃ i e, r.elements[i]? = some e ∧ blankText e.label = false ∧ Keeps e i f) ∧
    ∀ r : DeclarationsReply,
      (r.toModel.units.map (·.name)).Nodup ∧
      r.toModel.units.Pairwise (·.position < ·.position) ∧
      (∀ f, f ∈ r.toModel.units ↔ ∃ i d, FirstOfName r.declarations i d ∧ f = d.toFact i) ∧
      ∀ source, r.toModel.units = (buildDeclarations r.toFacts source).units := by
  refine ⟨elements_toModel, fun r => ⟨nodup_names_firstOfEachName.1, ?_, fun f => mem_units_toModel,
    fun source => ?_⟩⟩
  · exact ((ordered_toFacts r).sublist firstOfEachName_sublist).increasing
  · exact ((ordered_toFacts r).units_buildDeclarations (fun f => isDeclaration_of_mem_toFacts) source).symm

def shopReply : ViewReply where
  name := "Shop"
  elements :=
    [{ type := "function", label := "Pay", identifier := some "" }, { type := "button", label := " " },
     { type := "Rating", label := "Stars", modifiers := ["padding"], identifier := some "stars" }]

def repeatedReply : DeclarationsReply where
  declarations :=
    [{ name := "load", type := "Property" }, { name := "" }, { name := "load" }, { name := "run" }]

theorem reported_models_repeated :
    (shopReply.toModel "").elements =
      [{ kind := .custom, name := "Pay", customKind := some "function", position := 0 },
       { kind := .custom, name := "Stars", customKind := some "Rating", identifier := some "stars",
         modifiers := ["padding"], position := 2 }] ∧
    (∃ e, shopReply.elements[2]? = some e ∧ blankText e.label = false ∧
      ∃ f ∈ (shopReply.toModel "").elements, Keeps e 2 f) ∧
    repeatedReply.toModel.units.map (fun f => (f.kind, f.name, f.position)) =
      [(.property, "load", 0), (.function, "run", 3)] ∧
    repeatedReply.toModel.units = (buildDeclarations repeatedReply.toFacts none).units := by
  obtain ⟨hviews, hdeclarations⟩ := reported_models
  obtain ⟨-, -, -, hsame⟩ := hdeclarations repeatedReply
  have hlabel : blankText "Stars" = false := by decide
  refine ⟨by decide, ⟨_, rfl, hlabel, ?_⟩, by decide +kernel, hsame none⟩
  have hkeeps := keeps_toFact ⟨"Rating", "Stars", some "stars", ["padding"], false⟩ 2
  exact ⟨_, ((hviews shopReply "").2 _).2 ⟨2, _, rfl, hlabel, hkeeps⟩, hkeeps⟩

end TestScaffold.Reply
