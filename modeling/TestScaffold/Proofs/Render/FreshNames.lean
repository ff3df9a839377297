import TestScaffold.Proofs.Render.RenderedLines
import TestScaffold.Proofs.Swift.Lexemes

namespace TestScaffold.Render

open Text

structure Request where
  identifier : String
  suffix : String
  deriving DecidableEq, Repr

def Request.SuffixFits (r : Request) : Prop := ∀ c ∈ r.suffix.toList, isNameChar c = true

instance (r : Request) : Decidable r.SuffixFits :=
  inferInstanceAs (Decidable (∀ c ∈ r.suffix.toList, isNameChar c = true))

inductive FirstFree (base : String) (used : List String) : String → Prop where
  | base (h : base ∉ used) : FirstFree base used base
  | numbered {k : Nat} (h : base ∈ used) (hk : 2 ≤ k)
      (hbefore : ∀ j, 2 ≤ j → j < k → base ++ toString j ∈ used)
      (hfree : base ++ toString k ∉ used) : FirstFree base used (base ++ toString k)

def IsIdentifier (v : String) : Prop := ∃ i : Swift.Identifier, i.text = v.toList

structure Answers (used : List String) (r : Request) (v : String) : Prop where
  isIdentifier : IsIdentifier v
  firstFree : ∃ base : String, IsBase r.identifier r.suffix base.toList ∧ FirstFree base used v

/-- Requests that are answered one by one, and the names in use behind the last one. -/
inductive Serves : List String → List Request → List String → List String → Prop where
  | done (used : List String) : Serves used [] [] used
  | next {used after vs : List String} {rs : List Request} {r : Request} {v : String}
      (h : Answers used r v) (hrest : Serves (v :: used) rs vs after) :
      Serves used (r :: rs) (v :: vs) after

def handOut (used : List String) : List Request → List String × List String
  | [] => ([], used)
  | r :: rs =>
    let v := freshVariable r.identifier used r.suffix
    let (vs, after) := handOut (v :: used) rs
    (v :: vs, after)

variable {used after vs : List String} {r : Request} {rs qs : List Request} {base v : String}
  {m : ViewModel} {o : Options}

theorem FirstFree.not_mem (h : FirstFree base used v) : v ∉ used := by
  cases h with
  | base h => exact h
  | numbered h hk hbefore hfree => exact hfree

theorem Answers.not_mem (h : Answers used r v) : v ∉ used := by
  obtain ⟨base, -, hfirst⟩ := h.firstFree
  exact hfirst.not_mem

theorem firstFree_freshVariable (used : List String) (r : Request) :
    FirstFree (variableBase r.identifier r.suffix) used
      (freshVariable r.identifier used r.suffix) := by
  unfold freshVariable
  simp only [List.contains_iff_mem]
  split
  · rename_i hmem
    obtain ⟨k, hk, hle, hbefore, -⟩ :=
      numbered_spec (variableBase r.identifier r.suffix) used used.length 2
    have hfree := numbered_not_mem (variableBase r.identifier r.suffix) used 2
    rw [hk] at hfree ⊢
    exact .numbered hmem hle hbefore hfree
  · rename_i hfree
    exact .base hfree

theorem isIdentifier_variableBase (h : r.SuffixFits) :
    IsIdentifier (variableBase r.identifier r.suffix) := by
  obtain ⟨c, w, hcw, hc, hw⟩ := (isBase_variableBase r.identifier h).exists_start h
  exact ⟨⟨c, w, hc, hw⟩, hcw.symm⟩

theorem FirstFree.isIdentifier (h : FirstFree base used v) (hbase : IsIdentifier base) :
    IsIdentifier v := by
  cases h with
  | base => exact hbase
  | @numbered k =>
    obtain ⟨i, hi⟩ := hbase
    have hrest : ∀ c ∈ i.rest ++ (toString k).toList, isNameChar c = true :=
      List.forall_mem_append.2 ⟨i.rest_ok, isNameChar_of_mem_toString k⟩
    refine ⟨⟨i.first, _, i.first_ok, hrest⟩, ?_⟩
    rw [String.toList_append, ← hi]
    rfl

theorem answers_freshVariable (used : List String) (h : r.SuffixFits) :
    Answers used r (freshVariable r.identifier used r.suffix) where
  isIdentifier := (firstFree_freshVariable used r).isIdentifier (isIdentifier_variableBase h)
  firstFree := ⟨_, isBase_variableBase r.identifier h, firstFree_freshVariable used r⟩

theorem serves_handOut (used : List String) (h : ∀ r ∈ rs, r.SuffixFits) :
    Serves used rs (handOut used rs).1 (handOut used rs).2 := by
  induction rs generalizing used with
  | nil => exact .done used
  | cons r rs ih =>
    rw [List.forall_mem_cons] at h
    exact .next (answers_freshVariable used h.1) (ih _ h.2)

theorem Serves.mem_after (h : Serves used rs vs after) (w : String) :
    w ∈ after ↔ w ∈ vs ∨ w ∈ used := by
  induction h with
  | done => simp
  | next _ _ ih => rw [ih, List.mem_cons, List.mem_cons, or_left_comm, or_assoc]

theorem Serves.not_mem (h : Serves used rs vs after) : ∀ v ∈ vs, v ∉ used := by
  induction h with
  | done => simp
  | next hv _ ih =>
    rw [List.forall_mem_cons]
    exact ⟨hv.not_mem, fun w hw hmem => ih w hw (List.mem_cons_of_mem _ hmem)⟩

theorem Serves.nodup (h : Serves used rs vs after) : vs.Nodup := by
  induction h with
  | done => exact List.nodup_nil
  | next _ hrest ih =>
    exact List.nodup_cons.2 ⟨fun hmem => hrest.not_mem _ hmem List.mem_cons_self, ih⟩

theorem handOut_append (used : List String) (rs qs : List Request) :
    handOut used (rs ++ qs) =
      ((handOut used rs).1 ++ (handOut (handOut used rs).2 qs).1,
        (handOut (handOut used rs).2 qs).2) := by
  induction rs generalizing used with
  | nil => rfl
  | cons r rs ih => simp only [List.cons_append, handOut, ih]

def HandsOut {α : Type} (choose : Fact → List String → α × List String)
    (vars : α → List String) : Prop :=
  ∀ f used, ∃ rs, (∀ r ∈ rs, r.SuffixFits) ∧
    handOut used rs = (vars (choose f used).1, (choose f used).2 ++ used)

theorem handsOut_chooseOne {suffix : String} (h : ∀ c ∈ suffix.toList, isNameChar c = true) :
    HandsOut (chooseOne suffix) fun v => [v] :=
  fun f _ => ⟨[⟨effectiveIdentifier f, suffix⟩], List.forall_mem_singleton.2 h, rfl⟩

theorem handsOut_chooseToggle : HandsOut chooseToggle toggleVars := by
  intro f used
  let v := freshVariable (effectiveIdentifier f) used ""
  have hfits {i s : String} (h : ∀ c ∈ s.toList, isNameChar c = true) :
      (Request.mk i s).SuffixFits := h
  refine ⟨[⟨effectiveIdentifier f, ""⟩, ⟨v, "Initial"⟩, ⟨v, "Updated"⟩], ?_, rfl⟩
  simp only [List.forall_mem_cons]
  exact ⟨hfits (by decide), hfits (by decide), hfits (by decide), by simp⟩

theorem HandsOut.nameEach {α : Type} {choose : Fact → List String → α × List String}
    {vars : α → List String} (h : HandsOut choose vars) (used : List String) (fs : List Fact) :
    ∃ rs, (∀ r ∈ rs, r.SuffixFits) ∧
      (handOut used rs).1 = (nameEach choose used fs).flatMap fun p => vars p.2 := by
  induction fs generalizing used with
  | nil => exact ⟨[], by simp, rfl⟩
  | cons f fs ih =>
    obtain ⟨rs, hrs, hfirst⟩ := h f used
    obtain ⟨qs, hqs, hrest⟩ := ih ((choose f used).2 ++ used)
    refine ⟨rs ++ qs, List.forall_mem_append.2 ⟨hrs, hqs⟩, ?_⟩
    rw [handOut_append, hfirst, hrest]
    rfl

theorem exists_requests (m : ViewModel) (name : String) :
    ∃ rs, (∀ r ∈ rs, r.SuffixFits) ∧ (handOut [] rs).1 = localsOf m name := by
  unfold localsOf
  simp only [List.map_eq_flatMap]
  split
  · exact (handsOut_chooseOne (by decide)).nameEach [] _
  split
  · exact (handsOut_chooseOne (by decide)).nameEach [] _
  split
  · exact handsOut_chooseToggle.nameEach [] _
  split
  · exact (handsOut_chooseOne (by decide)).nameEach [] _
  · exact ⟨[], by simp, rfl⟩

theorem nodup_localsOf (m : ViewModel) (name : String) : (localsOf m name).Nodup := by
  obtain ⟨rs, hrs, hlocals⟩ := exists_requests m name
  rw [← hlocals]
  exact (serves_handOut [] hrs).nodup

theorem handOut_fresh :
    (∀ (used : List String) (rs : List Request), (∀ r ∈ rs, r.SuffixFits) →
      Serves used rs (handOut used rs).1 (handOut used rs).2 ∧
      (handOut used rs).1.Nodup ∧ (∀ v ∈ (handOut used rs).1, v ∉ used) ∧
      ∀ w, w ∈ (handOut used rs).2 ↔ w ∈ (handOut used rs).1 ∨ w ∈ used) ∧
    ∀ (m : ViewModel) (o : Options), blankText m.name = false → OnOneLine m →
      interfaceTests m o = .ok (rendered m o) ∧
      ∀ f ∈ functionsOf (textLines (rendered m o)), (variablesOf f.2).Nodup := by
  refine ⟨fun used rs h => ?_, fun m o hname hm => ⟨interfaceTests_eq_rendered hname, ?_⟩⟩
  · have hserves := serves_handOut used h
    exact ⟨hserves, hserves.nodup, hserves.not_mem, hserves.mem_after⟩
  · intro f hf
    rw [textLines_rendered hm] at hf
    rw [variablesOf_function_append (by decide) hf]
    exact nodup_localsOf m f.1

def switches : ViewModel where
  name := "Switches"
  elements := ["x", "x2", "xInitial", "x"].map fun i =>
    { kind := .toggle, name := i, identifier := some i }

theorem onOneLine_switches : OnOneLine switches where
  name := by decide
  states := by decide
  kinds := by decide

theorem handOut_fresh_switches :
    handOut ["x", "x3"] [⟨"x", ""⟩, ⟨"x2", ""⟩, ⟨"x", ""⟩, ⟨"9\u00e9", "Field"⟩] =
      (["x2", "x22", "x4", "_9_Field"], ["_9_Field", "x4", "x22", "x2", "x", "x3"]) ∧
    Serves ["x", "x3"] [⟨"x", ""⟩, ⟨"x2", ""⟩, ⟨"x", ""⟩, ⟨"9\u00e9", "Field"⟩]
      ["x2", "x22", "x4", "_9_Field"] ["_9_Field", "x4", "x22", "x2", "x", "x3"] ∧
    variablesOf (toggleTest switches {}) =
      ["x", "xInitial", "xUpdated", "x2", "x2Initial", "x2Updated", "xInitial2",
        "xInitial2Initial", "xInitial2Updated", "x3", "x3Initial", "x3Updated"] ∧
    interfaceTests switches {} = .ok (rendered switches {}) ∧
    ∀ f ∈ functionsOf (textLines (rendered switches {})), (variablesOf f.2).Nodup := by
  obtain ⟨hruns, hclasses⟩ := handOut_fresh
  refine ⟨rfl, (hruns ["x", "x3"] _ (by decide)).1, ?_,
    hclasses switches {} (by decide) onOneLine_switches⟩
  rw [variablesOf_toggleTest]
  rfl

end TestScaffold.Render
