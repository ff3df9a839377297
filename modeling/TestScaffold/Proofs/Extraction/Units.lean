import Mathlib.Data.List.Nodup
import TestScaffold.Extraction

namespace TestScaffold

variable {seen : List String} {f g : Fact} {fs as bs base : List Fact}

theorem firstOfEachName_sublist : (firstOfEachName seen fs).Sublist fs := by
  induction fs generalizing seen with
  | nil => exact List.Sublist.slnil
  | cons f fs ih =>
    rw [firstOfEachName]
    split
    · exact ih.cons f
    · exact ih.cons_cons f

theorem increasing_zipIdx {α : Type} {xs : List α} {q : α × Nat → Bool} :
    (xs.zipIdx.filter q).Pairwise (·.2 < ·.2) := by
  have hindex : (xs.zipIdx.map Prod.snd).Pairwise (· < ·) := by
    rw [List.zipIdx_map_snd]
    exact List.pairwise_lt_range'
  exact (List.pairwise_map.1 hindex).sublist List.filter_sublist

theorem mem_firstOfEachName (h : fs = as ++ f :: bs) (hseen : f.name ∉ seen)
    (hfirst : ∀ g ∈ as, g.name ≠ f.name) : f ∈ firstOfEachName seen fs := by
  induction as generalizing seen fs with
  | nil =>
    subst h
    simp [firstOfEachName, hseen]
  | cons g as ih =>
    subst h
    have hg : g.name ≠ f.name := hfirst g List.mem_cons_self
    have hrest : ∀ x ∈ as, x.name ≠ f.name := fun x hx => hfirst x (List.mem_cons_of_mem _ hx)
    rw [List.cons_append, firstOfEachName]
    split
    · exact ih rfl hseen hrest
    · exact List.mem_cons_of_mem _ (ih rfl (by simp [hseen, hg.symm]) hrest)

theorem exists_first (hf : f ∈ fs) (hseen : f.name ∉ seen) :
    ∃ g ∈ firstOfEachName seen fs, g.name = f.name ∧ (g = f ∨ [g, f].Sublist fs) := by
  induction fs generalizing seen with
  | nil => cases hf
  | cons x fs ih =>
    rw [firstOfEachName]
    by_cases hx : x.name = f.name
    · rw [if_neg (by simpa [hx] using hseen)]
      refine ⟨x, List.mem_cons_self, hx, ?_⟩
      rcases List.mem_cons.1 hf with rfl | hf
      · exact .inl rfl
      · exact .inr (.cons_cons x (List.singleton_sublist.2 hf))
    · have hf : f ∈ fs := (List.mem_cons.1 hf).resolve_left fun h => hx (h ▸ rfl)
      split
      · obtain ⟨g, hg, hname, hplace⟩ := ih hf hseen
        exact ⟨g, hg, hname, hplace.imp_right fun h => h.cons x⟩
      · have hfree : f.name ∉ x.name :: seen := by simp [hseen, Ne.symm hx]
        obtain ⟨g, hg, hname, hplace⟩ := ih hf hfree
        exact ⟨g, List.mem_cons_of_mem x hg, hname, hplace.imp_right fun h => h.cons x⟩

theorem firstOfEachName_filter {q : Fact → Bool}
    (h : ∀ as f bs, fs = as ++ f :: bs → q f = false → f.name ∈ seen ∨ ∃ g ∈ as, g.name = f.name) :
    firstOfEachName seen (fs.filter q) = firstOfEachName seen fs := by
  induction fs generalizing seen with
  | nil => rfl
  | cons f fs ih =>
    have hrest (seen' : List String) (hsub : ∀ n ∈ f.name :: seen, n ∈ seen') :
        firstOfEachName seen' (fs.filter q) = firstOfEachName seen' fs := by
      refine ih fun as g bs heq hg => ?_
      rcases h (f :: as) g bs (by rw [heq]; rfl) hg with hmem | ⟨x, hx, hname⟩
      · exact .inl (hsub _ (List.mem_cons_of_mem _ hmem))
      · rcases List.mem_cons.1 hx with rfl | hx
        · exact .inl (hsub _ (hname ▸ List.mem_cons_self))
        · exact .inr ⟨x, hx, hname⟩
    cases hq : q f with
    | true =>
      rw [List.filter_cons_of_pos hq, firstOfEachName, firstOfEachName]
      by_cases hmem : f.name ∈ seen
      · simp only [List.contains_iff_mem, hmem, if_true]
        exact hrest seen (by simp [hmem])
      · simp only [List.contains_iff_mem, hmem, if_false]
        rw [hrest _ fun n hn => hn]
    | false =>
      have hmem : f.name ∈ seen := by
        rcases h [] f fs rfl hq with hmem | ⟨x, hx, -⟩
        · exact hmem
        · simp at hx
      rw [List.filter_cons_of_neg (by simp [hq]), firstOfEachName]
      simp only [List.contains_iff_mem, hmem, if_true]
      exact hrest seen (by simp [hmem])

theorem firstOfEachName_eq : firstOfEachName seen fs =
    (fs.filter fun f => !seen.contains f.name).eraseDupsBy (·.name == ·.name) := by
  induction fs generalizing seen with
  | nil => rfl
  | cons f fs ih =>
    rw [firstOfEachName]
    cases hf : seen.contains f.name with
    | true =>
      rw [List.filter_cons_of_neg (by simpa using hf), if_pos rfl, ih]
    | false =>
      have hseen : (fs.filter fun g => !(f.name :: seen).contains g.name) =
          (fs.filter fun g => !seen.contains g.name).filter fun g => (g.name == f.name) = false := by
        rw [List.filter_filter]
        refine List.filter_congr fun g _ => ?_
        simp only [List.contains_cons, Bool.not_or]
        cases g.name == f.name <;> simp
      rw [List.filter_cons_of_pos (by simpa using hf), if_neg (by simp), ih, List.eraseDupsBy_cons, hseen]

theorem firstOfEachName_map {g : Fact → Fact} (hg : ∀ f, (g f).name = f.name) :
    (firstOfEachName seen fs).map g = firstOfEachName seen (fs.map g) := by
  induction fs generalizing seen with
  | nil => rfl
  | cons f fs ih =>
    rw [List.map_cons, firstOfEachName, firstOfEachName, hg]
    split
    · exact ih
    · rw [List.map_cons, ih]

theorem nodup_names_firstOfEachName : ((firstOfEachName seen fs).map (·.name)).Nodup ∧
    ∀ f ∈ firstOfEachName seen fs, f.name ∉ seen := by
  induction fs generalizing seen with
  | nil => simp [firstOfEachName]
  | cons f fs ih =>
    rw [firstOfEachName]
    split
    · exact ih
    · rename_i hf
      obtain ⟨hnodup, hfree⟩ := @ih (f.name :: seen)
      have hhead : f.name ∉ (firstOfEachName (f.name :: seen) fs).map (·.name) := by
        intro hmem
        obtain ⟨g, hg, hname⟩ := List.mem_map.1 hmem
        exact hfree g hg (hname ▸ List.mem_cons_self)
      refine ⟨List.nodup_cons.2 ⟨hhead, hnodup⟩, List.forall_mem_cons.2 ⟨by simpa using hf, ?_⟩⟩
      intro g hg hmem
      exact hfree g hg (List.mem_cons_of_mem _ hmem)

theorem nodup_names_buildDeclarations (facts : List Fact) (source : Option String) :
    ((buildDeclarations facts source).units.map (·.name)).Nodup :=
  nodup_names_firstOfEachName.1

theorem placedBefore_trans (f g h : Fact) (hfg : placedBefore f g = true)
    (hgh : placedBefore g h = true) : placedBefore f h = true := by
  simp only [placedBefore] at *
  split at hfg <;> split at hgh <;> split <;> simp_all <;> omega

theorem placedBefore_total (f g : Fact) : (placedBefore f g || placedBefore g f) = true := by
  simp only [placedBefore, Bool.or_eq_true]
  split <;> split <;> simp_all <;> omega

theorem placedBefore_iff (hf : 0 ≤ f.position) (hg : 0 ≤ g.position) :
    placedBefore f g = true ↔ f.position ≤ g.position := by
  simp [placedBefore, Int.not_lt.2 hf, Int.not_lt.2 hg]

structure Ordered (fs : List Fact) : Prop where
  increasing : fs.Pairwise (·.position < ·.position)
  known : ∀ f ∈ fs, 0 ≤ f.position

namespace Ordered

theorem sublist (h : Ordered fs) (hs : as.Sublist fs) : Ordered as :=
  ⟨h.increasing.sublist hs, fun f hf => h.known f (hs.subset hf)⟩

theorem nodup (h : Ordered fs) : fs.Nodup :=
  h.increasing.imp fun hlt heq => by
    rw [heq] at hlt
    omega

theorem eq_of_position (h : Ordered fs) (hf : f ∈ fs) (hg : g ∈ fs)
    (hp : f.position = g.position) : f = g := by
  induction fs with
  | nil => simp at hf
  | cons x fs ih =>
    obtain ⟨hx, -⟩ := List.pairwise_cons.1 h.increasing
    rcases List.mem_cons.1 hf with rfl | hf' <;> rcases List.mem_cons.1 hg with rfl | hg'
    · rfl
    · have := hx g hg'
      omega
    · have := hx f hf'
      omega
    · exact ih (h.sublist (List.sublist_cons_self _ _)) hf' hg'

theorem mergeSort_eq (h : Ordered fs) (hperm : as.Perm fs) : as.mergeSort placedBefore = fs := by
  have hsort := List.mergeSort_perm as placedBefore
  have hanti : ∀ f g, f ∈ as.mergeSort placedBefore → g ∈ fs → placedBefore f g = true →
      placedBefore g f = true → f = g := by
    rintro f g hf hg hfg hgf
    have hf := (hsort.trans hperm).subset hf
    rw [placedBefore_iff (h.known f hf) (h.known g hg)] at hfg
    rw [placedBefore_iff (h.known g hg) (h.known f hf)] at hgf
    exact h.eq_of_position hf hg (by omega)
  have hplaced : fs.Pairwise fun f g => placedBefore f g = true := by
    refine h.increasing.imp_of_mem fun hf hg hlt => ?_
    rw [placedBefore_iff (h.known _ hf) (h.known _ hg)]
    omega
  exact List.Perm.eq_of_pairwise hanti
    (List.pairwise_mergeSort placedBefore_trans placedBefore_total as) hplaced (hsort.trans hperm)

theorem mem_firstOfEachName_iff (h : Ordered fs) : f ∈ firstOfEachName [] fs ↔
    f ∈ fs ∧ ∀ g ∈ fs, g.position < f.position → g.name ≠ f.name := by
  constructor
  · intro hf
    refine ⟨firstOfEachName_sublist.subset hf, fun g hg hlt hname => ?_⟩
    obtain ⟨g', hg', hname', hplace⟩ := exists_first hg List.not_mem_nil
    obtain rfl : g' = f :=
      List.inj_on_of_nodup_map nodup_names_firstOfEachName.1 hg' hf (hname'.trans hname)
    rcases hplace with rfl | hsub
    · omega
    · have hgt : g'.position < g.position :=
        (List.pairwise_cons.1 (h.increasing.sublist hsub)).1 g List.mem_cons_self
      omega
  · rintro ⟨hf, hfirst⟩
    obtain ⟨as, bs, rfl⟩ := List.append_of_mem hf
    refine mem_firstOfEachName rfl List.not_mem_nil fun g hg => ?_
    have hlt := (List.pairwise_append.1 h.increasing).2.2 g hg f List.mem_cons_self
    exact hfirst g (List.mem_append_left _ hg) hlt

theorem units_buildDeclarations (h : Ordered fs) (hkinds : ∀ f ∈ fs, f.kind.isDeclaration = true)
    (source : Option String) : (buildDeclarations fs source).units = firstOfEachName [] fs := by
  simp only [buildDeclarations, List.filter_eq_self.2 hkinds, h.mergeSort_eq (List.Perm.refl fs)]

theorem firstOfEachName_merge (h : Ordered base) (q : Fact → Bool) :
    firstOfEachName [] ((firstOfEachName [] (base.filter q) ++
      firstOfEachName [] (base.filter (!q ·))).mergeSort placedBefore) = firstOfEachName [] base := by
  let kept := firstOfEachName [] (base.filter q) ++ firstOfEachName [] (base.filter (!q ·))
  have hleft : (firstOfEachName [] (base.filter q)).Sublist (base.filter q) := firstOfEachName_sublist
  have hright : (firstOfEachName [] (base.filter (!q ·))).Sublist (base.filter (!q ·)) :=
    firstOfEachName_sublist
  have hsub : ∀ f ∈ kept, f ∈ base := by
    rintro f hf
    rcases List.mem_append.1 hf with hf | hf
    · exact (List.mem_filter.1 (hleft.subset hf)).1
    · exact (List.mem_filter.1 (hright.subset hf)).1
  have hnodup : kept.Nodup := by
    refine List.nodup_append.2 ⟨?_, ?_, ?_⟩
    · exact (h.nodup.sublist List.filter_sublist).sublist hleft
    · exact (h.nodup.sublist List.filter_sublist).sublist hright
    · rintro f hf g hg rfl
      have hq := (List.mem_filter.1 (hleft.subset hf)).2
      have hnq := (List.mem_filter.1 (hright.subset hg)).2
      simp [hq] at hnq
  have hperm : kept.Perm (base.filter (kept.contains ·)) := by
    refine (List.perm_ext_iff_of_nodup hnodup (h.nodup.sublist List.filter_sublist)).2 fun f => ?_
    simp only [List.mem_filter, List.contains_iff_mem]
    exact ⟨fun hf => ⟨hsub f hf, hf⟩, fun hf => hf.2⟩
  rw [(h.sublist List.filter_sublist).mergeSort_eq hperm]
  -- What is not kept of its class has its name taken in it, and so in the whole list.
  refine firstOfEachName_filter fun as f bs hbase hf => .inr (Classical.byContradiction fun hnone => ?_)
  have hfirst : ∀ g ∈ as, g.name ≠ f.name := fun g hg hname => hnone ⟨g, hg, hname⟩
  have hclass (p : Fact → Bool) (hp : p f = true) : f ∈ firstOfEachName [] (base.filter p) := by
    have hsplit : base.filter p = as.filter p ++ f :: bs.filter p := by simp [hbase, hp]
    exact mem_firstOfEachName hsplit (by simp) fun g hg => hfirst g (List.mem_filter.1 hg).1
  have hmem : f ∈ kept := by
    cases hq : q f with
    | true => exact List.mem_append_left _ (hclass q hq)
    | false => exact List.mem_append_right _ (hclass (!q ·) (by simp [hq]))
  simp [hmem] at hf

end Ordered

end TestScaffold
