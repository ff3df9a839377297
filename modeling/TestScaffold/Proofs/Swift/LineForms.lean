import TestScaffold.Proofs.Swift.BodyGrammar

namespace TestScaffold.Swift

inductive LineForm where
  | plain
  | literal
  | note
  | opening
  | closing
  deriving DecidableEq, Repr

def IsCode (u : List Char) : Prop := ∀ c ∈ u, isPlain c = true ∧ c ≠ '\n'

inductive HasForm : LineForm → List Char → Prop where
  | plain {u : List Char} (hu : IsCode u) : HasForm .plain u
  | literal {u l v : List Char} (hu : IsCode u) (hl : IsLiteral l) (hne : l ≠ []) (hv : IsCode v) :
      HasForm .literal (u ++ '"' :: (l ++ '"' :: v))
  | note {u v : List Char} (hu : IsCode u) (hv : '\n' ∉ v) : HasForm .note (u ++ '/' :: '/' :: v)
  | opening {u : List Char} (hu : IsCode u) : HasForm .opening (u ++ ['\x7b'])
  | closing {u : List Char} (hu : IsCode u) : HasForm .closing (u ++ ['\x7d'])

def LineForm.after : LineForm → Nat → Option Nat
  | .opening, d => some (d + 1)
  | .closing, 0 => none
  | .closing, d + 1 => some d
  | _, d => some d

def depthAfter (d : Nat) : List LineForm → Option Nat
  | [] => some d
  | f :: fs => (f.after d).bind fun e => depthAfter e fs

variable {d e : Nat} {c : Char} {f : LineForm} {fs gs : List LineForm} {l r u v : List Char}
  {ls : List (List Char)}

instance (u : List Char) : Decidable (IsCode u) :=
  inferInstanceAs (Decidable (∀ c ∈ u, isPlain c = true ∧ c ≠ '\n'))

theorem IsCode.append (hu : IsCode u) (hv : IsCode v) : IsCode (u ++ v) := by
  intro c hc
  rcases List.mem_append.1 hc with hc | hc
  · exact hu c hc
  · exact hv c hc

theorem IsCode.inline (hu : IsCode u) : '\n' ∉ u := fun h => (hu _ h).2 rfl

theorem HasForm.inline (h : HasForm f l) : '\n' ∉ l := by
  cases h with
  | plain hu => exact hu.inline
  | literal hu hl hne hv =>
    have hline : '\n' ∉ _ := fun h => hl.inline _ h rfl
    simp [hu.inline, hline, hv.inline]
  | note hu hv => simp [hu.inline, hv]
  | opening hu => simp [hu.inline]
  | closing hu => simp [hu.inline]

theorem IsCode.upToClose (hu : IsCode u) :
    upToClose .code d (u ++ r) = (upToClose .code d r).map (u ++ ·) :=
  upToClose_plains fun c hc => (hu c hc).1

theorem HasForm.code (hu : IsCode u) (h : HasForm f l) : HasForm f (u ++ l) := by
  cases h with
  | plain hl => exact .plain (hu.append hl)
  | literal hl hlit hne hv =>
    rw [← List.append_assoc]
    exact .literal (hu.append hl) hlit hne hv
  | note hl hv =>
    rw [← List.append_assoc]
    exact .note (hu.append hl) hv
  | opening hl =>
    rw [← List.append_assoc]
    exact .opening (hu.append hl)
  | closing hl =>
    rw [← List.append_assoc]
    exact .closing (hu.append hl)

theorem HasForm.codeBehind (h : HasForm .literal l) (hv : IsCode v) : HasForm .literal (l ++ v) := by
  cases h with
  | literal hu hl hne hw =>
    rw [List.append_assoc, List.cons_append, List.append_assoc, List.cons_append]
    exact .literal hu hl hne (hw.append hv)

theorem HasForm.upToClose (h : HasForm f l) (hd : f.after d = some e) :
    upToClose .code d (l ++ '\n' :: r) = (upToClose .code e r).map fun x => l ++ '\n' :: x := by
  have hline (d : Nat) : Swift.upToClose .code d ('\n' :: r) =
      (Swift.upToClose .code d r).map ('\n' :: ·) := upToClose_plain (by decide)
  cases h with
  | plain hu =>
    cases hd
    rw [hu.upToClose, hline, Option.map_map]
    rfl
  | @literal u l v hu hl hne hv =>
    cases hd
    rw [List.append_assoc, List.cons_append, List.append_assoc, List.cons_append, hu.upToClose,
      upToClose_literal hl hne, hv.upToClose, hline]
    simp [Function.comp_def]
  | @note u v hu hv =>
    cases hd
    rw [List.append_assoc, List.cons_append, List.cons_append, hu.upToClose, upToClose_slashes,
      upToClose_comment hv]
    simp [Function.comp_def]
  | @opening u hu =>
    cases hd
    rw [List.append_assoc, List.cons_append, List.nil_append, hu.upToClose, upToClose_opening, hline]
    simp [Function.comp_def]
  | @closing u hu =>
    cases d with
    | zero => cases hd
    | succ d =>
      cases hd
      rw [List.append_assoc, List.cons_append, List.nil_append, hu.upToClose, upToClose_closing,
        hline]
      simp [Function.comp_def]

theorem upToClose_forms (h : List.Forall₂ HasForm fs ls) (hd : depthAfter d fs = some e) :
    upToClose .code d (ls.flatMap (· ++ ['\n']) ++ r) =
      (upToClose .code e r).map (ls.flatMap (· ++ ['\n']) ++ ·) := by
  induction h generalizing d with
  | nil =>
    cases hd
    simp
  | @cons f l fs ls hl _ ih =>
    obtain ⟨d', hf, hd⟩ := Option.bind_eq_some_iff.1 hd
    simp only [List.flatMap_cons, List.append_assoc, List.cons_append, List.nil_append]
    rw [hl.upToClose hf, ih hd]
    simp [Function.comp_def]

def Level (fs : List LineForm) : Prop := ∀ d, depthAfter d fs = some d

theorem depthAfter_append (d : Nat) (fs gs : List LineForm) :
    depthAfter d (fs ++ gs) = (depthAfter d fs).bind fun e => depthAfter e gs := by
  induction fs generalizing d with
  | nil => rfl
  | cons f fs ih =>
    simp only [List.cons_append, depthAfter]
    cases f.after d with
    | none => rfl
    | some e => exact ih e

theorem Level.append (hf : Level fs) (hg : Level gs) : Level (fs ++ gs) := by
  intro d
  rw [depthAfter_append, hf d]
  exact hg d

theorem level_flatten {fss : List (List LineForm)} (h : ∀ fs ∈ fss, Level fs) : Level fss.flatten := by
  induction fss with
  | nil => exact fun d => rfl
  | cons fs fss ih =>
    rw [List.forall_mem_cons] at h
    exact h.1.append (ih h.2)

theorem level_flatMap {α : Type} {as : List α} {g : α → List LineForm} (h : ∀ a, Level (g a)) :
    Level (as.flatMap g) := by
  rw [List.flatMap_def]
  apply level_flatten
  intro fs hfs
  obtain ⟨a, -, rfl⟩ := List.mem_map.1 hfs
  exact h a

theorem level_flat (h : ∀ f ∈ fs, f ≠ .opening ∧ f ≠ .closing) : Level fs := by
  intro d
  induction fs with
  | nil => rfl
  | cons f fs ih =>
    have hf : f.after d = some d := by
      obtain ⟨hopening, hclosing⟩ := h f List.mem_cons_self
      cases f <;> simp_all [LineForm.after]
    rw [depthAfter, hf]
    exact ih fun g hg => h g (List.mem_cons_of_mem f hg)

theorem Level.braces (h : Level fs) : Level (.opening :: (fs ++ [.closing])) := by
  intro d
  have hinside : depthAfter (d + 1) (fs ++ [.closing]) = some d := by
    rw [depthAfter_append, h]
    rfl
  exact hinside

end TestScaffold.Swift
