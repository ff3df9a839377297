import TestScaffold.Proofs.Pattern.Scanning

/-!
A text that is cut off somewhere. If no text that a pattern matches is part of another one, then what is
found in the front of a text is found in the whole text, in the same order and before all else.
-/

namespace TestScaffold.Pattern

universe u v

variable {ι : Type u} {β : Type v} {p : Pattern ι} {f : Found ι → β} {Form : List Char → β → Prop}
  {b : Option Char} {o : Nat} {w r u v : List Char} {c : Char} {x : β} {m : Found ι}

/-- The pattern matches the given forms, each with a value of its own, and no form is part of another. -/
structure Spells (p : Pattern ι) (f : Found ι → β) (Form : List Char → β → Prop) : Prop where
  form : ∀ {b o r}, ∀ t ∈ p.ways ⟨b, o, r, []⟩,
    ∃ w, Form w (f ⟨o, t.offset, t.captures⟩) ∧ (⟨b, o, r, []⟩ : Cursor ι).Reads w t
  found : ∀ {w x}, Form w x → ∀ b o r,
    ∃ m, p.here? ⟨b, o, w ++ r, []⟩ = some m ∧ m.stop = o + w.length ∧ f m = x
  part : ∀ {w x w' x'}, Form w x → Form w' x' → w' <:+: w → w' = w
  ne_nil : ∀ {w x}, Form w x → w ≠ []

namespace Spells

variable (h : p.Spells f Form)

include h

theorem of_here? (hm : p.here? ⟨b, o, r, []⟩ = some m) :
    ∃ w, Form w (f m) ∧ w <+: r ∧ m.stop = o + w.length := by
  rw [here?_eq] at hm
  obtain ⟨t, ht, rfl⟩ := Option.map_eq_some_iff.1 hm
  obtain ⟨w, hw, hreads⟩ := h.form t (List.mem_of_head? ht)
  exact ⟨w, hw, ⟨t.ahead, hreads.ahead.symm⟩, hreads.offset⟩

theorem here?_nil : p.here? ⟨b, o, [], []⟩ = none := by
  rw [Option.eq_none_iff_forall_ne_some]
  intro m hm
  obtain ⟨w, hw, hstart, -⟩ := h.of_here? hm
  exact h.ne_nil hw (List.prefix_nil.1 hstart)

theorem here?_append (hm : p.here? ⟨b, o, u, []⟩ = some m) (v : List Char) :
    ∃ m', p.here? ⟨b, o, u ++ v, []⟩ = some m' ∧ m'.stop = m.stop ∧ f m' = f m := by
  obtain ⟨w, hw, ⟨r, rfl⟩, hstop⟩ := h.of_here? hm
  obtain ⟨m', hm', hstop', hvalue⟩ := h.found hw b o (r ++ v)
  exact ⟨m', by rwa [List.append_assoc], hstop'.trans hstop.symm, hvalue⟩

theorem alone (hnone : p.here? ⟨b, o, c :: u, []⟩ = none)
    (hm : p.here? ⟨b, o, c :: u ++ v, []⟩ = some m) {b' : Option Char} {o' : Nat} (hr : r <:+ u) :
    p.here? ⟨b', o', r, []⟩ = none := by
  obtain ⟨w, hw, hstart, -⟩ := h.of_here? hm
  have hover : c :: u <+: w := by
    rcases List.prefix_or_prefix_of_prefix hstart (List.prefix_append (c :: u) v) with hw' | hw'
    · obtain ⟨z, hz⟩ := hw'
      obtain ⟨m', hm', -⟩ := h.found hw b o z
      rw [hz, hnone] at hm'
      cases hm'
    · exact hw'
  rw [Option.eq_none_iff_forall_ne_some]
  intro m' hm'
  obtain ⟨w', hw', hstart', -⟩ := h.of_here? hm'
  have hinside : w' <:+: c :: u :=
    (hstart'.isInfix.trans hr.isInfix).trans (List.suffix_cons c u).isInfix
  have hlength := Nat.le_trans hstart'.length_le hr.length_le
  have hwhole := hover.length_le
  rw [h.part hw hw' (hinside.trans hover.isInfix)] at hlength
  rw [List.length_cons] at hwhole
  omega

theorem searchFrom_append (hm : p.searchFrom b o u = some m) (v : List Char) :
    ∃ m', p.searchFrom b o (u ++ v) = some m' ∧ f m' = f m := by
  induction u generalizing b o with
  | nil =>
    rw [searchFrom, h.here?_nil] at hm
    cases hm
  | cons c u ih =>
    rw [List.cons_append, searchFrom]
    rw [searchFrom] at hm
    cases hhere : p.here? ⟨b, o, c :: u, []⟩ with
    | some m₁ =>
      obtain ⟨m', hm', -, hvalue⟩ := h.here?_append hhere v
      obtain rfl : m₁ = m := by simpa [hhere] using hm
      rw [List.cons_append] at hm'
      exact ⟨m', by rw [hm']; rfl, hvalue⟩
    | none =>
      rw [hhere, Option.orElse_none] at hm
      cases hover : p.here? ⟨b, o, c :: (u ++ v), []⟩ with
      | none =>
        rw [Option.orElse_none]
        exact ih hm
      | some m' =>
        -- Then what is found in the front would be inside the match that reaches over the cut.
        obtain ⟨a, r, rfl, hm, -⟩ := searchFrom_eq_some_iff.1 hm
        rw [h.alone hhere hover (List.suffix_append a r)] at hm
        cases hm

theorem search?_append (hm : p.search? u = some m) (v : List Char) :
    ∃ m', p.search? (u ++ v) = some m' ∧ f m' = f m :=
  h.searchFrom_append hm v

theorem scanFrom_append (u v : List Char) (free : Nat) (b : Option Char) (o : Nat) :
    (p.scanFrom free b o u).map f <+: (p.scanFrom free b o (u ++ v)).map f := by
  induction u generalizing free b o with
  | nil =>
    have hnil : p.scanFrom free b o [] = [] := by
      rw [scanFrom, h.here?_nil]
      split <;> rfl
    rw [hnil]
    exact List.nil_prefix
  | cons c u ih =>
    rw [List.cons_append, scanFrom, scanFrom]
    split
    · exact ih free (some c) (o + 1)
    · cases hhere : p.here? ⟨b, o, c :: u, []⟩ with
      | some m =>
        obtain ⟨m', hm', hstop, hvalue⟩ := h.here?_append hhere v
        rw [List.cons_append] at hm'
        rw [hm']
        simp only [List.map_cons, hstop, hvalue]
        exact List.cons_prefix_cons.2 ⟨rfl, ih m.stop (some c) (o + 1)⟩
      | none =>
        cases hover : p.here? ⟨b, o, c :: (u ++ v), []⟩ with
        | none => exact ih free (some c) (o + 1)
        | some m' =>
          -- The match reaches over the cut, so the front has none from here on.
          have hnil : p.scanFrom free (some c) (o + 1) u = [] := by
            refine List.eq_nil_iff_forall_not_mem.2 fun m hm => ?_
            obtain ⟨-, a, r, rfl, hplace⟩ := exists_of_mem_scanFrom hm
            rw [h.alone hhere hover (List.suffix_append a r)] at hplace
            cases hplace
          simp only [hnil, List.map_nil]
          exact List.nil_prefix

theorem scan_append (u v : List Char) : (p.scan u).map f <+: (p.scan (u ++ v)).map f :=
  h.scanFrom_append u v 0 none 0

end Spells

end TestScaffold.Pattern
