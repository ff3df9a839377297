import Mathlib.Data.List.Infix
import TestScaffold.Proofs.Text.Words

namespace TestScaffold.Text

variable {a b c : Char} {cs u v w : List Char} {ws : List (List Char)}

theorem prefix_of_prefix_append (h : w <+: u ++ c :: v) (hc : c ∉ w) : w <+: u := by
  rcases List.prefix_or_prefix_of_prefix h (List.prefix_append u (c :: v)) with h' | ⟨x, rfl⟩
  · exact h'
  · cases x with
    | nil => simp
    | cons e x =>
      have hx : e :: x <+: c :: v := (List.prefix_append_right_inj u).1 h
      obtain ⟨rfl, -⟩ := List.cons_prefix_cons.1 hx
      simp at hc

theorem infix_append_cons_iff (hw : w ≠ []) (hc : c ∉ w) :
    w <:+: u ++ c :: v ↔ w <:+: u ∨ w <:+: v := by
  have hfront (u : List Char) : w <+: u ++ c :: v ↔ w <+: u :=
    ⟨fun h => prefix_of_prefix_append h hc, fun h => h.trans (List.prefix_append u _)⟩
  induction u with
  | nil =>
    have hnone : ¬ w <+: [] ++ c :: v := fun h => hw (List.prefix_nil.1 ((hfront []).1 h))
    rw [List.nil_append] at hnone ⊢
    simp [List.infix_cons_iff, hnone, hw]
  | cons d u ih =>
    have hd : w <+: d :: (u ++ c :: v) ↔ w <+: d :: u := hfront (d :: u)
    rw [List.cons_append, List.infix_cons_iff, hd, List.infix_cons_iff, or_assoc]
    exact or_congr_right ih

theorem infix_cons_of_not_mem (hw : w ≠ []) (hc : c ∉ w) : w <:+: c :: v ↔ w <:+: v := by
  have h := infix_append_cons_iff (u := []) (v := v) hw hc
  simpa [hw] using h

theorem pair_infix_cons : [a, b] <:+: c :: cs ↔ (a = c ∧ cs.head? = some b) ∨ [a, b] <:+: cs := by
  rw [List.infix_cons_iff, List.cons_prefix_cons]
  cases cs with
  | nil => simp
  | cons d cs => simp [List.cons_prefix_cons, eq_comm]

theorem infix_intercalate (hw : w ≠ []) (hc : c ∉ w) :
    w <:+: [c].intercalate ws ↔ ∃ v ∈ ws, w <:+: v := by
  induction ws with
  | nil => simp [List.intercalate, hw]
  | cons v ws ih =>
    cases ws with
    | nil => simp [List.intercalate]
    | cons u ws =>
      rw [List.intercalate_cons_cons, List.append_assoc, List.singleton_append,
        infix_append_cons_iff hw hc, ih]
      simp

theorem infix_pieces {sep : Char → Bool} (hw : w ≠ []) (hsep : ∀ c ∈ w, sep c = false) :
    w <:+: cs ↔ ∃ v ∈ pieces sep cs, w <:+: v := by
  induction hn : cs.length using Nat.strong_induction_on generalizing cs with
  | _ n ih =>
    have hsplit := List.takeWhile_append_dropWhile (p := fun c => !sep c) (l := cs)
    have hu : ∀ c ∈ cs.takeWhile fun c => !sep c, sep c = false := by
      intro c hc
      simpa using List.all_eq_true.1 List.all_takeWhile c hc
    cases hrest : cs.dropWhile fun c => !sep c with
    | nil =>
      rw [hrest, List.append_nil] at hsplit
      rw [← hsplit, pieces_eq_self hu]
      simp
    | cons d r =>
      have hd : sep d = true := by
        simpa [hrest] using List.head?_dropWhile_not (fun c => !sep c) cs
      have hmem : d ∉ w := fun h => by simp [hsep d h] at hd
      rw [hrest] at hsplit
      generalize cs.takeWhile (fun c => !sep c) = u at hsplit hu
      subst hsplit
      have hlength : r.length < n := by
        rw [← hn, List.length_append, List.length_cons]
        omega
      -- The first piece ends at the first separator, and the mark is on one side of it.
      rw [infix_append_cons_iff hw hmem, pieces_append hu hd, ih r.length hlength rfl]
      simp

theorem infix_words (hw : w ≠ []) (hblank : ∀ c ∈ w, isBlank c = false) :
    w <:+: cs ↔ ∃ v ∈ words cs, w <:+: v := by
  rw [infix_pieces hw hblank]
  constructor
  · rintro ⟨v, hv, h⟩
    have hne : v ≠ [] := by
      rintro rfl
      exact hw (List.infix_nil.1 h)
    exact ⟨v, List.mem_filter.2 ⟨hv, by simpa using hne⟩, h⟩
  · rintro ⟨v, hv, h⟩
    exact ⟨v, List.mem_of_mem_filter hv, h⟩

end TestScaffold.Text
