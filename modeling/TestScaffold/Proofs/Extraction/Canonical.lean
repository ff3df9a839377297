import Mathlib.Data.Prod.Lex
import TestScaffold.Proofs.Extraction.Units

/-!
The model of the declarations among some facts is a normal form: of each name it has the declaration of
least rank, in the order of their ranks. The order of facts at distinct known places does not matter,
facts of elements do not matter, and the model of the units is the model itself.
-/

namespace TestScaffold

/-- Declarations at known places come first, by their places, and what is left as it was given. -/
def rank (x : Fact × Nat) : Bool ×ₗ Int ×ₗ Nat :=
  toLex (decide (x.1.position < 0), toLex (x.1.position, x.2))

def givenDeclarations (facts : List Fact) : List (Fact × Nat) :=
  facts.zipIdx.filter (·.1.kind.isDeclaration)

section

variable {x y : Fact × Nat} {l : List (Fact × Nat)} {facts fs : List Fact} {seen : List String}

theorem zipIdxLE_iff : List.zipIdxLE placedBefore x y = true ↔ rank x ≤ rank y := by
  obtain ⟨f, i⟩ := x
  obtain ⟨g, j⟩ := y
  have hbool : ¬ true < false := by decide
  by_cases hf : f.position < 0 <;> by_cases hg : g.position < 0 <;>
    simp [List.zipIdxLE, placedBefore, rank, Prod.Lex.toLex_le_toLex, hf, hg, hbool] <;> omega

theorem map_fst_givenDeclarations :
    (givenDeclarations facts).map (·.1) = facts.filter (·.kind.isDeclaration) := by
  have hfacts : facts.zipIdx.map Prod.fst = facts := List.zipIdx_map_fst 0 facts
  conv_rhs => rw [← hfacts, List.filter_map]
  rfl

theorem increasing_givenDeclarations : (givenDeclarations facts).Pairwise (·.2 < ·.2) :=
  increasing_zipIdx

theorem map_fst_mergeSort (h : l.Pairwise (·.2 < ·.2)) :
    (l.mergeSort (List.zipIdxLE placedBefore)).map (·.1) = (l.map (·.1)).mergeSort placedBefore := by
  -- Each entry with its own index and the index of its place; the two are in the same order.
  let inner (z : (Fact × Nat) × Nat) : Fact × Nat := (z.1.1, z.2)
  have horder : ∀ z ∈ l.zipIdx, ∀ z' ∈ l.zipIdx, (z.2 ≤ z'.2 ↔ z.1.2 ≤ z'.1.2) := by
    rintro ⟨x, i⟩ hx ⟨y, j⟩ hy
    obtain ⟨hi, hxi⟩ := List.getElem?_eq_some_iff.1 (List.mk_mem_zipIdx_iff_getElem?.1 hx)
    obtain ⟨hj, hyj⟩ := List.getElem?_eq_some_iff.1 (List.mk_mem_zipIdx_iff_getElem?.1 hy)
    have hlt := List.pairwise_iff_getElem.1 h
    rcases Nat.lt_trichotomy i j with hij | rfl | hij
    · have := hlt i j hi hj hij
      rw [hxi, hyj] at this
      simp only
      omega
    · simp [← hxi, ← hyj]
    · have := hlt j i hj hi hij
      rw [hxi, hyj] at this
      simp only
      omega
  have hsame : ∀ z ∈ l.zipIdx, ∀ z' ∈ l.zipIdx,
      List.zipIdxLE placedBefore z.1 z'.1 = List.zipIdxLE placedBefore (inner z) (inner z') := by
    intro z hz z' hz'
    simp only [List.zipIdxLE, inner, decide_eq_decide.2 (horder z hz z' hz')]
  let both := l.zipIdx.mergeSort fun z z' => List.zipIdxLE placedBefore z.1 z'.1
  have hown : both.map Prod.fst = l.mergeSort (List.zipIdxLE placedBefore) := by
    rw [List.map_mergeSort (s := List.zipIdxLE placedBefore) fun _ _ _ _ => rfl, List.zipIdx_map_fst]
  have hinner : both.map inner = (l.map (·.1)).zipIdx.mergeSort (List.zipIdxLE placedBefore) := by
    rw [List.map_mergeSort hsame, List.zipIdx_map]
    rfl
  calc (l.mergeSort (List.zipIdxLE placedBefore)).map (·.1)
      = (both.map Prod.fst).map (·.1) := by rw [hown]
    _ = (both.map inner).map (·.1) := by simp only [List.map_map, Function.comp_def, inner]
    _ = (l.map (·.1)).mergeSort placedBefore := by rw [hinner, List.mergeSort_zipIdx]

theorem exists_kept (l : List (Fact × Nat)) (seen : List String) :
    ∃ kept : List (Fact × Nat), kept.Sublist l ∧
      kept.map (·.1) = firstOfEachName seen (l.map (·.1)) ∧
      ∀ x ∈ kept, ∃ as bs, l = as ++ x :: bs ∧ ∀ y ∈ as, y.1.name ≠ x.1.name := by
  induction l generalizing seen with
  | nil => exact ⟨[], .slnil, rfl, by simp⟩
  | cons x l ih =>
    -- A fact that is kept behind `x` has another name, as that of `x` is taken.
    have behind {taken : List String} {kept : List (Fact × Nat)} (hx : x.1.name ∈ taken)
        (hmap : kept.map (·.1) = firstOfEachName taken (l.map (·.1)))
        (hfirst : ∀ y ∈ kept, ∃ as bs, l = as ++ y :: bs ∧ ∀ z ∈ as, z.1.name ≠ y.1.name) :
        ∀ y ∈ kept, ∃ as bs, x :: l = as ++ y :: bs ∧ ∀ z ∈ as, z.1.name ≠ y.1.name := by
      intro y hy
      obtain ⟨as, bs, rfl, has⟩ := hfirst y hy
      have hfree := nodup_names_firstOfEachName.2 y.1 (hmap ▸ List.mem_map_of_mem hy)
      exact ⟨x :: as, bs, rfl, List.forall_mem_cons.2 ⟨ne_of_mem_of_not_mem hx hfree, has⟩⟩
    rw [List.map_cons, firstOfEachName]
    split
    · rename_i hx
      obtain ⟨kept, hsub, hmap, hfirst⟩ := ih seen
      exact ⟨kept, hsub.cons x, hmap, behind (by simpa using hx) hmap hfirst⟩
    · obtain ⟨kept, hsub, hmap, hfirst⟩ := ih (x.1.name :: seen)
      exact ⟨x :: kept, hsub.cons_cons x, by rw [List.map_cons, hmap], List.forall_mem_cons.2
        ⟨⟨[], l, rfl, by simp⟩, behind List.mem_cons_self hmap hfirst⟩⟩

theorem firstOfEachName_eq_self (h : (fs.map (·.name)).Nodup) (hseen : ∀ f ∈ fs, f.name ∉ seen) :
    firstOfEachName seen fs = fs := by
  induction fs generalizing seen with
  | nil => rfl
  | cons f fs ih =>
    obtain ⟨hf, hnodup⟩ := List.nodup_cons.1 h
    rw [firstOfEachName, if_neg (by simpa using hseen f List.mem_cons_self), ih hnodup fun g hg => ?_]
    rw [List.mem_cons, not_or]
    exact ⟨fun hname => hf (List.mem_map.2 ⟨g, hg, hname⟩), hseen g (List.mem_cons_of_mem f hg)⟩

theorem exists_units (facts : List Fact) (source : Option String) :
    ∃ kept : List (Fact × Nat), (buildDeclarations facts source).units = kept.map (·.1) ∧
      kept.Pairwise (rank · < rank ·) ∧ ∀ x ∈ kept, x ∈ givenDeclarations facts ∧
        ∀ y ∈ givenDeclarations facts, y.1.name = x.1.name → rank x ≤ rank y := by
  let sorted := (givenDeclarations facts).mergeSort (List.zipIdxLE placedBefore)
  obtain ⟨kept, hsub, hmap, hfirst⟩ := exists_kept sorted []
  have hperm : sorted.Perm (givenDeclarations facts) := List.mergeSort_perm _ _
  have hindex : (givenDeclarations facts).Pairwise (·.2 ≠ ·.2) :=
    increasing_givenDeclarations.imp Nat.ne_of_lt
  have hsorted : sorted.Pairwise (rank · < rank ·) := by
    have htrans (x y z : Fact × Nat) (hxy : List.zipIdxLE placedBefore x y = true)
        (hyz : List.zipIdxLE placedBefore y z = true) : List.zipIdxLE placedBefore x z = true :=
      zipIdxLE_iff.2 ((zipIdxLE_iff.1 hxy).trans (zipIdxLE_iff.1 hyz))
    have htotal (x y : Fact × Nat) :
        (List.zipIdxLE placedBefore x y || List.zipIdxLE placedBefore y x) = true := by
      rw [Bool.or_eq_true, zipIdxLE_iff, zipIdxLE_iff]
      exact le_total _ _
    have hle := List.pairwise_mergeSort htrans htotal (givenDeclarations facts)
    refine (hle.and ((hperm.pairwise_iff fun h => Ne.symm h).2 hindex)).imp fun h => ?_
    refine lt_of_le_of_ne (zipIdxLE_iff.1 h.1) fun heq => h.2 ?_
    have hpair := (Prod.ext_iff.1 (toLex.injective heq)).2
    exact (Prod.ext_iff.1 (toLex.injective hpair)).2
  refine ⟨kept, ?_, hsorted.sublist hsub, fun x hx => ⟨hperm.subset (hsub.subset hx), ?_⟩⟩
  · rw [hmap, map_fst_mergeSort increasing_givenDeclarations, map_fst_givenDeclarations]
    rfl
  · intro y hy hname
    obtain ⟨as, bs, hsplit, has⟩ := hfirst x hx
    have hmem : y ∈ as ++ x :: bs := hsplit ▸ hperm.symm.subset hy
    rw [hsplit] at hsorted
    rcases List.mem_append.1 hmem with hmem | hmem
    · exact absurd hname (has y hmem)
    · rcases List.mem_cons.1 hmem with rfl | hmem
      · exact le_rfl
      · have hbehind := (List.pairwise_append.1 hsorted).2.1
        exact ((List.pairwise_cons.1 hbehind).1 y hmem).le

theorem buildDeclarations_congr {facts' : List Fact} (source : Option String)
    (h : facts'.filter (·.kind.isDeclaration) = facts.filter (·.kind.isDeclaration)) :
    buildDeclarations facts' source = buildDeclarations facts source := by
  rw [buildDeclarations, h, buildDeclarations]

theorem buildDeclarations_perm {facts' : List Fact} (source : Option String) (hperm : facts'.Perm facts)
    (hknown : ∀ f ∈ facts, f.kind.isDeclaration = true → 0 ≤ f.position)
    (hapart : (facts.filter (·.kind.isDeclaration)).Pairwise (·.position ≠ ·.position)) :
    buildDeclarations facts' source = buildDeclarations facts source := by
  let sorted := (facts.filter (·.kind.isDeclaration)).mergeSort placedBefore
  have hsort : sorted.Perm (facts.filter (·.kind.isDeclaration)) := List.mergeSort_perm _ _
  have hplaces : ∀ f ∈ sorted, 0 ≤ f.position := fun f hf =>
    have hmem := List.mem_filter.1 (hsort.subset hf)
    hknown f hmem.1 hmem.2
  have hordered : Ordered sorted := by
    refine ⟨?_, hplaces⟩
    have hle := List.pairwise_mergeSort placedBefore_trans placedBefore_total
      (facts.filter (·.kind.isDeclaration))
    have hne := (hsort.pairwise_iff fun h => Ne.symm h).2 hapart
    refine (hle.and hne).imp_of_mem fun hf hg h => ?_
    have hplace := (placedBefore_iff (hplaces _ hf) (hplaces _ hg)).1 h.1
    exact lt_of_le_of_ne hplace h.2
  have hsame : (facts'.filter (·.kind.isDeclaration)).mergeSort placedBefore = sorted :=
    hordered.mergeSort_eq ((hperm.filter _).trans hsort.symm)
  rw [buildDeclarations, buildDeclarations, hsame]

theorem buildDeclarations_units (facts : List Fact) (source : Option String) :
    buildDeclarations (buildDeclarations facts source).units source = buildDeclarations facts source := by
  let sorted := (facts.filter (·.kind.isDeclaration)).mergeSort placedBefore
  have hsub : (buildDeclarations facts source).units.Sublist sorted := firstOfEachName_sublist
  have hsorted : sorted.Pairwise (placedBefore · · = true) :=
    List.pairwise_mergeSort placedBefore_trans placedBefore_total _
  have hkinds : ∀ f ∈ (buildDeclarations facts source).units, f.kind.isDeclaration = true := by
    intro f hf
    exact (List.mem_filter.1 ((List.mergeSort_perm _ placedBefore).subset (hsub.subset hf))).2
  rw [buildDeclarations, List.filter_eq_self.2 hkinds, List.mergeSort_of_pairwise (hsorted.sublist hsub),
    firstOfEachName_eq_self (nodup_names_buildDeclarations facts source) (by simp)]
  rfl

theorem buildDeclarations_canonical (facts : List Fact) (source : Option String) :
    let model := buildDeclarations facts source
    (model.units.map (·.name)).Nodup ∧
    (∀ name, name ∈ model.units.map (·.name) ↔
      ∃ f ∈ facts, f.kind.isDeclaration = true ∧ f.name = name) ∧
    (∃ kept : List (Fact × Nat), model.units = kept.map (·.1) ∧ kept.Pairwise (rank · < rank ·) ∧
      ∀ x ∈ kept, x ∈ givenDeclarations facts ∧
        ∀ y ∈ givenDeclarations facts, y.1.name = x.1.name → rank x ≤ rank y) ∧
    (∀ facts' : List Fact, facts'.Perm facts →
      (∀ f ∈ facts, f.kind.isDeclaration = true → 0 ≤ f.position) →
      (facts.filter (·.kind.isDeclaration)).Pairwise (·.position ≠ ·.position) →
      buildDeclarations facts' source = model) ∧
    (∀ facts' : List Fact,
      facts'.filter (·.kind.isDeclaration) = facts.filter (·.kind.isDeclaration) →
      buildDeclarations facts' source = model) ∧
    buildDeclarations model.units source = model := by
  intro model
  refine ⟨nodup_names_buildDeclarations facts source, fun name => ?_, exists_units facts source,
    fun _ hperm hknown hapart => buildDeclarations_perm source hperm hknown hapart,
    fun _ h => buildDeclarations_congr source h, buildDeclarations_units facts source⟩
  have hsort := List.mergeSort_perm (facts.filter (·.kind.isDeclaration)) placedBefore
  constructor
  · intro hname
    obtain ⟨f, hf, rfl⟩ := List.mem_map.1 hname
    obtain ⟨hmem, hkind⟩ := List.mem_filter.1 (hsort.subset (firstOfEachName_sublist.subset hf))
    exact ⟨f, hmem, hkind, rfl⟩
  · rintro ⟨f, hf, hkind, rfl⟩
    have hmem := hsort.symm.subset (List.mem_filter.2 ⟨hf, hkind⟩)
    obtain ⟨g, hg, hname, -⟩ := exists_first hmem List.not_mem_nil
    exact List.mem_map.2 ⟨g, hg, hname⟩

end

def reloading : List Fact :=
  [{ kind := .function, name := "load", position := 9 }, { kind := .button, name := "load" },
    { kind := .property, name := "title", position := 2 },
    { kind := .function, name := "load", position := 4 }]

theorem buildDeclarations_canonical_reloading :
    (buildDeclarations reloading none).units.map (fun f => (f.name, f.position)) =
      [("title", 2), ("load", 4)] ∧
    (∀ f ∈ reloading, f.kind.isDeclaration = true → 0 ≤ f.position) ∧
    (reloading.filter (·.kind.isDeclaration)).Pairwise (·.position ≠ ·.position) ∧
    buildDeclarations reloading.reverse none = buildDeclarations reloading none := by
  have hknown : ∀ f ∈ reloading, f.kind.isDeclaration = true → 0 ≤ f.position := by decide
  have hapart : (reloading.filter (·.kind.isDeclaration)).Pairwise (·.position ≠ ·.position) := by
    decide
  obtain ⟨-, -, -, hperm, -⟩ := buildDeclarations_canonical reloading none
  refine ⟨?_, hknown, hapart, hperm _ (List.reverse_perm _) hknown hapart⟩
  simp [buildDeclarations, reloading, FactKind.isDeclaration, List.mergeSort,
    List.MergeSort.Internal.splitInTwo, placedBefore, firstOfEachName]

end TestScaffold
