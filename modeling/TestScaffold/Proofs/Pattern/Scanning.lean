import TestScaffold.Proofs.Pattern.Ways

namespace TestScaffold.Pattern

universe u v

variable {ι : Type u} {β : Type v} {p : Pattern ι} {f : Found ι → β} {b : Option Char} {o : Nat}
  {u v r : List Char} {xs ys : List β}

theorem scanFrom_of_le {free : Nat} (cs : List Char) (h : free ≤ o) :
    p.scanFrom free b o cs = p.scanFrom 0 b o cs := by
  induction cs generalizing b o with
  | nil => simp [scanFrom, Nat.not_lt.2 h]
  | cons c cs ih =>
    simp only [scanFrom, Nat.not_lt.2 h, Nat.not_lt_zero, if_false]
    rw [ih (by omega)]

theorem scanFrom_skip {free : Nat} (h : o + u.length = free) :
    p.scanFrom free b o (u ++ r) = p.scanFrom 0 (u.getLast?.or b) (o + u.length) r := by
  induction u generalizing b o with
  | nil =>
    subst h
    simpa using scanFrom_of_le r (Nat.le_refl o)
  | cons c u ih =>
    rw [add_length_cons] at h ⊢
    have ho : o < free := by omega
    simp only [List.cons_append, scanFrom, ho, if_true]
    rw [ih h, last_cons]

/-- The scan of `u`, with `r` behind it, finds the given items. -/
def Scans (p : Pattern ι) (f : Found ι → β) (b : Option Char) (o : Nat) (u r : List Char)
    (xs : List β) : Prop :=
  (p.scanFrom 0 b o (u ++ r)).map f =
    xs ++ (p.scanFrom 0 (u.getLast?.or b) (o + u.length) r).map f

theorem Scans.append (h : p.Scans f b o u (v ++ r) xs)
    (h' : p.Scans f (u.getLast?.or b) (o + u.length) v r ys) :
    p.Scans f b o (u ++ v) r (xs ++ ys) := by
  unfold Scans at *
  rw [List.append_assoc, h, h', List.getLast?_append, Option.or_assoc, List.length_append,
    List.append_assoc, Nat.add_assoc]

theorem Scans.map {γ : Type v} (h : p.Scans f b o u r xs) (g : β → γ) :
    p.Scans (fun m => g (f m)) b o u r (xs.map g) := by
  have hmap := congrArg (List.map g) (show _ = _ from h)
  rw [List.map_append, List.map_map, List.map_map] at hmap
  exact hmap

/-- No match starts inside `u`. -/
def Silent (p : Pattern ι) (b : Option Char) (u r : List Char) : Prop :=
  ∀ a c v, u = a ++ c :: v → ∀ o, p.ways ⟨a.getLast?.or b, o, c :: v ++ r, []⟩ = []

theorem Silent.append (h : p.Silent b u (v ++ r)) (h' : p.Silent (u.getLast?.or b) v r) :
    p.Silent b (u ++ v) r := by
  intro a c w heq o
  rcases List.append_eq_append_iff.1 heq with ⟨x, rfl, hx⟩ | ⟨x, hx, hw⟩
  · rw [List.getLast?_append, Option.or_assoc]
    exact h' x c w hx o
  · cases x with
    | nil =>
      have hlast := h' [] c w hw.symm o
      simpa [hx] using hlast
    | cons d x =>
      obtain ⟨rfl, rfl⟩ := List.cons.inj hw
      simpa using h a c x hx o

theorem Silent.scans (h : p.Silent b u r) : p.Scans f b o u r [] := by
  induction u generalizing b o with
  | nil => simp [Scans]
  | cons c u ih =>
    have hu : p.Silent (some c) u r := by
      rintro a d v rfl o
      simpa only [last_cons] using h (c :: a) d v rfl o
    have hc : p.here? ⟨b, o, c :: (u ++ r), []⟩ = none := here?_eq_none (h [] c u rfl o)
    have hrest := ih hu (o := o + 1)
    unfold Scans at *
    rw [last_cons, add_length_cons, ← hrest]
    simp only [List.cons_append, scanFrom, Nat.not_lt_zero, if_false, hc]

theorem Prefers.scans {t : Cursor ι} (hu : u ≠ []) (h : p.Prefers ⟨b, o, u ++ r, []⟩ t)
    (ht : t.offset = o + u.length) :
    p.Scans f b o u r [f ⟨o, o + u.length, t.captures⟩] := by
  obtain ⟨c, w, rfl⟩ := List.exists_cons_of_ne_nil hu
  have hc := h.here?
  have hskip := scanFrom_skip (p := p) (u := w) (r := r) (b := some c) (o := o + 1) rfl
  rw [ht] at hc
  rw [add_length_cons] at hc ⊢
  simp only [List.cons_append] at hc
  unfold Scans
  rw [last_cons, add_length_cons]
  simp only [List.cons_append, scanFrom, Nat.not_lt_zero, if_false, hc, List.map_cons, hskip,
    List.nil_append]

theorem Scans.scan (h : p.Scans f none 0 u [] xs) (hn : p.ways ⟨u.getLast?, u.length, [], []⟩ = []) :
    (p.scan u).map f = xs := by
  have hend : p.here? ⟨u.getLast?, u.length, [], []⟩ = none := here?_eq_none hn
  simpa [Scans, Pattern.scan, scanFrom, hend] using h

section

variable {L : Type} {text : L → List Char} {items : Nat → L → List β}

def placed (text : L → List Char) (items : Nat → L → List β) : Nat → List L → List β
  | _, [] => []
  | o, l :: ls => items o l ++ placed text items (o + (text l).length) ls

theorem placed_eq_flatMap (text : L → List Char) (items : L → List β) (o : Nat) (ls : List L) :
    placed text (fun _ => items) o ls = ls.flatMap items := by
  induction ls generalizing o with
  | nil => rfl
  | cons l ls ih => rw [placed, ih, List.flatMap_cons]

theorem placed_filter (q : β → Bool) (o : Nat) (ls : List L) :
    placed text (fun o l => (items o l).filter q) o ls = (placed text items o ls).filter q := by
  induction ls generalizing o with
  | nil => rfl
  | cons l ls ih => rw [placed, placed, List.filter_append, ih]

theorem map_placed {γ : Type v} (g : β → γ) (o : Nat) (ls : List L) :
    (placed text items o ls).map g = placed text (fun o l => (items o l).map g) o ls := by
  induction ls generalizing o with
  | nil => rfl
  | cons l ls ih => rw [placed, placed, List.map_append, ih]

theorem flatMap_filter (q : L → Prop) [DecidablePred q] (g : L → β) (ls : List L) :
    ls.flatMap (fun l => if q l then [g l] else []) = (ls.filter (q ·)).map g := by
  induction ls with
  | nil => rfl
  | cons l ls ih => by_cases hl : q l <;> simp [hl, ih]

theorem scans_lines (hlast : ∀ l, (text l).getLast? = some '\n')
    (h : ∀ l (ls : List L) o, p.Scans f (some '\n') o (text l) (ls.flatMap text ++ r) (items o l))
    (o : Nat) (ls : List L) :
    p.Scans f (some '\n') o (ls.flatMap text) r (placed text items o ls) := by
  induction ls generalizing o with
  | nil => simp [Scans, placed]
  | cons l ls ih =>
    refine (h l ls o).append ?_
    rw [hlast]
    exact ih _

end

theorem searchFrom_append (h : p.Silent b u r) :
    p.searchFrom b o (u ++ r) = p.searchFrom (u.getLast?.or b) (o + u.length) r := by
  induction u generalizing b o with
  | nil => simp
  | cons c u ih =>
    have hu : p.Silent (some c) u r := by
      rintro a d v rfl o
      simpa only [last_cons] using h (c :: a) d v rfl o
    have hc : p.here? ⟨b, o, c :: (u ++ r), []⟩ = none := here?_eq_none (h [] c u rfl o)
    rw [List.cons_append, searchFrom, hc, last_cons, add_length_cons, ← ih hu]
    rfl

theorem Prefers.searchFrom {t : Cursor ι} (h : p.Prefers ⟨b, o, r, []⟩ t) :
    p.searchFrom b o r = some ⟨o, t.offset, t.captures⟩ := by
  cases r with
  | nil => exact h.here?
  | cons c r =>
    rw [Pattern.searchFrom, h.here?]
    rfl

theorem search?_eq {t : Cursor ι} (hs : p.Silent none u r) (hb : u.getLast? = b)
    (h : p.Prefers ⟨b, u.length, r, []⟩ t) :
    p.search? (u ++ r) = some ⟨u.length, t.offset, t.captures⟩ := by
  subst hb
  rw [search?, searchFrom_append hs]
  simpa using h.searchFrom

def Leftmost (p : Pattern ι) (cs : List Char) (m : Found ι) : Prop :=
  ∃ u r, cs = u ++ r ∧ p.here? ⟨u.getLast?, u.length, r, []⟩ = some m ∧
    ∀ a c v, u = a ++ c :: v → p.here? ⟨a.getLast?, a.length, c :: v ++ r, []⟩ = none

theorem searchFrom_eq_some_iff {cs : List Char} {m : Found ι} :
    p.searchFrom b o cs = some m ↔ ∃ u r, cs = u ++ r ∧
      p.here? ⟨u.getLast?.or b, o + u.length, r, []⟩ = some m ∧
        ∀ a c v, u = a ++ c :: v →
          p.here? ⟨a.getLast?.or b, o + a.length, c :: v ++ r, []⟩ = none := by
  induction cs generalizing b o with
  | nil =>
    constructor
    · intro h
      exact ⟨[], [], rfl, h, by simp⟩
    · rintro ⟨u, r, hur, h, -⟩
      obtain ⟨rfl, rfl⟩ := List.append_eq_nil_iff.1 hur.symm
      exact h
  | cons c cs ih =>
    rw [searchFrom]
    cases hc : p.here? ⟨b, o, c :: cs, []⟩ with
    | some m' =>
      constructor
      · rintro ⟨⟩
        exact ⟨[], c :: cs, rfl, hc, by simp⟩
      · rintro ⟨u, r, hur, h, hfirst⟩
        cases u with
        | nil =>
          obtain rfl : c :: cs = r := hur
          exact hc.symm.trans h
        | cons d u =>
          obtain ⟨rfl, rfl⟩ := List.cons.inj hur
          have hnone : some m' = none := hc.symm.trans (hfirst [] c u rfl)
          cases hnone
    | none =>
      rw [Option.orElse_none, ih]
      constructor
      · rintro ⟨u, r, rfl, h, hfirst⟩
        refine ⟨c :: u, r, rfl, by rwa [last_cons, add_length_cons], ?_⟩
        rintro a d v hu
        cases a with
        | nil =>
          obtain ⟨rfl, rfl⟩ := List.cons.inj hu
          exact hc
        | cons e a =>
          obtain ⟨rfl, rfl⟩ := List.cons.inj hu
          rw [last_cons, add_length_cons]
          exact hfirst a d v rfl
      · rintro ⟨u, r, hur, h, hfirst⟩
        cases u with
        | nil =>
          obtain rfl : c :: cs = r := hur
          have hsome : none = some m := hc.symm.trans h
          cases hsome
        | cons d u =>
          obtain ⟨rfl, rfl⟩ := List.cons.inj hur
          rw [last_cons, add_length_cons] at h
          refine ⟨u, r, rfl, h, ?_⟩
          rintro a d v rfl
          have hnone := hfirst (c :: a) d v rfl
          rwa [last_cons, add_length_cons] at hnone

theorem search?_eq_some_iff {cs : List Char} {m : Found ι} :
    p.search? cs = some m ↔ p.Leftmost cs m := by
  simp only [search?, Leftmost, searchFrom_eq_some_iff, Option.or_none, Nat.zero_add]

theorem start_of_here? {s : Cursor ι} {m : Found ι} (h : p.here? s = some m) :
    m.start = s.offset ∧ s.offset ≤ m.stop := by
  rw [here?_eq] at h
  obtain ⟨t, ht, rfl⟩ := Option.map_eq_some_iff.1 h
  obtain ⟨u, hu⟩ := reads_of_mem (List.mem_of_head? ht)
  exact ⟨rfl, Nat.le.intro hu.offset.symm⟩

theorem exists_of_mem_scanFrom {cs : List Char} {free : Nat} {m : Found ι}
    (h : m ∈ p.scanFrom free b o cs) : free ≤ m.start ∧ ∃ u r, cs = u ++ r ∧
      p.here? ⟨u.getLast?.or b, o + u.length, r, []⟩ = some m := by
  induction cs generalizing free b o with
  | nil =>
    rw [scanFrom] at h
    split at h
    · cases h
    · rename_i hfree
      have hm : p.here? ⟨b, o, [], []⟩ = some m := by simpa using h
      exact ⟨by rw [(start_of_here? hm).1]; exact Nat.not_lt.1 hfree, [], [], rfl, hm⟩
  | cons c cs ih =>
    have hrest {free : Nat} (h : m ∈ p.scanFrom free (some c) (o + 1) cs) :
        free ≤ m.start ∧ ∃ u r, c :: cs = u ++ r ∧
          p.here? ⟨u.getLast?.or b, o + u.length, r, []⟩ = some m := by
      obtain ⟨hfree, u, r, rfl, hm⟩ := ih h
      exact ⟨hfree, c :: u, r, rfl, by rwa [last_cons, add_length_cons]⟩
    rw [scanFrom] at h
    split at h
    · exact hrest h
    · rename_i hfree
      split at h
      · rename_i m' hm'
        obtain ⟨hstart, hstop⟩ := start_of_here? hm'
        rcases List.mem_cons.1 h with rfl | h
        · exact ⟨by rw [hstart]; exact Nat.not_lt.1 hfree, [], c :: cs, rfl, hm'⟩
        · obtain ⟨hle, hplace⟩ := hrest h
          exact ⟨Nat.le_trans (Nat.not_lt.1 hfree) (Nat.le_trans hstop hle), hplace⟩
      · exact hrest h

theorem exists_of_mem_scan {cs : List Char} {m : Found ι} (h : m ∈ p.scan cs) :
    ∃ u r, cs = u ++ r ∧ p.here? ⟨u.getLast?, u.length, r, []⟩ = some m := by
  obtain ⟨-, u, r, hcs, hm⟩ := exists_of_mem_scanFrom h
  exact ⟨u, r, hcs, by simpa using hm⟩

theorem pairwise_scanFrom (cs : List Char) (free : Nat) :
    (p.scanFrom free b o cs).Pairwise fun m m' => m.stop ≤ m'.start := by
  induction cs generalizing free b o with
  | nil =>
    rw [scanFrom]
    split
    · exact .nil
    · cases p.here? ⟨b, o, [], []⟩ <;> simp
  | cons c cs ih =>
    rw [scanFrom]
    split
    · exact ih free
    · split
      · rename_i m hm
        exact List.pairwise_cons.2 ⟨fun m' hm' => (exists_of_mem_scanFrom hm').1, ih m.stop⟩
      · exact ih free

theorem pairwise_scan (p : Pattern ι) (cs : List Char) :
    (p.scan cs).Pairwise fun m m' => m.stop ≤ m'.start :=
  pairwise_scanFrom cs 0

end TestScaffold.Pattern
