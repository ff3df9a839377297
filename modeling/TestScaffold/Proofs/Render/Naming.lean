import Mathlib.Data.List.Nodup
import Mathlib.Data.List.Perm.Subperm
import TestScaffold.Proofs.Text.Words
import TestScaffold.Render.Naming

namespace TestScaffold.Render

open Text

theorem deriveIdentifier_ne_empty (label : String) (k : FactKind) : deriveIdentifier label k ≠ "" := by
  cases k <;> simp [deriveIdentifier, deriveCustom, suffix?]

theorem effectiveIdentifier_ne_empty (f : Fact) : effectiveIdentifier f ≠ "" := by
  unfold effectiveIdentifier
  split
  · rename_i i hi
    rintro rfl
    simp [Option.filter_eq_some_iff] at hi
  · split
    · simp [deriveCustom]
    · exact deriveIdentifier_ne_empty _ _

theorem escapedChar_cases (c : Char) :
    (escapedChar c = [c] ∧ c ∉ ['\\', '"', '\n']) ∨
      ∃ x ∈ ['\\', '"', 'n'], escapedChar c = ['\\', x] ∧ c ∈ ['\\', '"', '\n'] := by
  by_cases hslash : c = '\\'
  · subst hslash
    exact .inr ⟨'\\', by decide, rfl, by decide⟩
  · by_cases hquote : c = '"'
    · subst hquote
      exact .inr ⟨'"', by decide, rfl, by decide⟩
    · by_cases hline : c = '\n'
      · subst hline
        exact .inr ⟨'n', by decide, rfl, by decide⟩
      · exact .inl ⟨by simp [escapedChar, hslash, hquote, hline], by simp [hslash, hquote, hline]⟩

variable {v suffix : String}

def IsName (v : String) : Prop := v ≠ "" ∧ ∀ c ∈ v.toList, isNameChar c = true

theorem IsName.append {w : String} (hv : IsName v) (hw : ∀ c ∈ w.toList, isNameChar c = true) :
    IsName (v ++ w) := by
  refine ⟨by simp [hv.1], fun c hc => ?_⟩
  rw [String.toList_append] at hc
  rcases List.mem_append.1 hc with hc | hc
  · exact hv.2 c hc
  · exact hw c hc

theorem IsName.head (hv : IsName v) : ∃ c w, v.toList = c :: w ∧ isNameChar c = true := by
  obtain ⟨c, w, hcw⟩ := List.exists_cons_of_ne_nil (l := v.toList) (by simp [hv.1])
  exact ⟨c, w, hcw, hv.2 c (hcw ▸ List.mem_cons_self)⟩

theorem isNameChar_of_mem_cleaned {identifier : String} :
    ∀ c ∈ cleaned identifier, isNameChar c = true := by
  intro c hc
  obtain ⟨d, -, rfl⟩ := List.mem_map.1 hc
  cases hd : isNameChar d with
  | true => simpa using hd
  | false => rfl

def nameLetters (identifier suffix : String) : List Char := cleaned identifier ++ suffix.toList

inductive IsBase (identifier suffix : String) : List Char → Prop where
  | kept {c : Char} {u : List Char} (h : nameLetters identifier suffix = c :: u)
      (hstart : isNameStart c = true) (hletter : ∃ d ∈ c :: u, d ≠ '_') :
      IsBase identifier suffix (c :: u)
  | digit {c : Char} {u : List Char} (h : nameLetters identifier suffix = c :: u)
      (hstart : isNameStart c = false) : IsBase identifier suffix ('_' :: c :: u)
  | blank (h : ∀ d ∈ nameLetters identifier suffix, d = '_') :
      IsBase identifier suffix ("element".toList ++ suffix.toList)

theorem isNameChar_of_mem_nameLetters {identifier : String}
    (hs : ∀ c ∈ suffix.toList, isNameChar c = true) :
    ∀ c ∈ nameLetters identifier suffix, isNameChar c = true := by
  intro c hc
  rcases List.mem_append.1 hc with hc | hc
  · exact isNameChar_of_mem_cleaned c hc
  · exact hs c hc

theorem isBase_variableBase (identifier : String) (hs : ∀ c ∈ suffix.toList, isNameChar c = true) :
    IsBase identifier suffix (variableBase identifier suffix).toList := by
  unfold variableBase
  extract_lets base named
  have hbase : base = nameLetters identifier suffix := rfl
  cases hall : base.all (· == '_') with
  | true =>
    have hnamed : named = "element".toList ++ suffix.toList := if_pos hall
    have hblank : ∀ d ∈ nameLetters identifier suffix, d = '_' := by simpa [hbase] using hall
    have hdigit : isDigitSign 'e' = false := by decide
    rw [hnamed]
    simpa [hdigit] using IsBase.blank hblank
  | false =>
    have hnamed : named = nameLetters identifier suffix := if_neg (by simp [hall])
    obtain ⟨d, hd, hletter⟩ : ∃ d ∈ nameLetters identifier suffix, d ≠ '_' := by
      simpa [hbase] using hall
    rw [hnamed]
    cases hletters : nameLetters identifier suffix with
    | nil => simp [hletters] at hd
    | cons c u =>
      have hc := isDigitSign_of_isNameChar
        (isNameChar_of_mem_nameLetters hs c (hletters ▸ List.mem_cons_self))
      rw [hletters] at hd
      cases hstart : isNameStart c with
      | true => simpa [hc, hstart] using IsBase.kept hletters hstart ⟨d, hd, hletter⟩
      | false => simpa [hc, hstart] using IsBase.digit hletters hstart

theorem IsBase.exists_start {identifier : String} {u : List Char} (h : IsBase identifier suffix u)
    (hs : ∀ c ∈ suffix.toList, isNameChar c = true) :
    ∃ c w, u = c :: w ∧ isNameStart c = true ∧ ∀ d ∈ w, isNameChar d = true := by
  have hletters : ∀ c ∈ nameLetters identifier suffix, isNameChar c = true :=
    isNameChar_of_mem_nameLetters hs
  cases h with
  | kept heq hstart =>
    rw [heq, List.forall_mem_cons] at hletters
    exact ⟨_, _, rfl, hstart, hletters.2⟩
  | digit heq =>
    rw [heq] at hletters
    exact ⟨'_', _, rfl, by decide, hletters⟩
  | blank =>
    have hrest : ∀ c ∈ "lement".toList ++ suffix.toList, isNameChar c = true :=
      List.forall_mem_append.2 ⟨by decide, hs⟩
    exact ⟨'e', _, rfl, by decide, hrest⟩

theorem isName_variableBase (identifier : String) (hs : ∀ c ∈ suffix.toList, isNameChar c = true) :
    IsName (variableBase identifier suffix) := by
  obtain ⟨c, w, hcw, hc, hw⟩ := (isBase_variableBase identifier hs).exists_start hs
  refine ⟨fun hnil => by simp [hnil] at hcw, ?_⟩
  rw [hcw, List.forall_mem_cons]
  exact ⟨by simp [isNameChar, hc], hw⟩

theorem isNameChar_of_mem_toString (n : Nat) : ∀ c ∈ (toString n).toList, isNameChar c = true := by
  intro c hc
  have hdigit : c.isDigit = true :=
    Nat.isDigit_of_mem_toDigits (by decide) (Nat.le_refl 10) (Nat.toList_repr ▸ hc)
  have hascii : isAsciiDigit c = true := hdigit
  simp [isNameChar, hascii]

theorem toString_injective {m n : Nat} (h : toString m = toString n) : m = n := by
  have hread (k : Nat) : Nat.ofDigitChars 10 (toString k).toList 0 = k :=
    (congrArg (Nat.ofDigitChars 10 · 0) Nat.toList_repr).trans Nat.ofDigitChars_ten_toDigits
  rw [← hread m, h, hread]

theorem numbered_succ (base : String) (used : List String) (fuel n : Nat) :
    numbered base used (fuel + 1) n =
      if base ++ toString n ∈ used then numbered base used fuel (n + 1) else base ++ toString n := by
  simp only [numbered, List.contains_iff_mem]

theorem numbered_spec (base : String) (used : List String) (fuel n : Nat) :
    ∃ k, numbered base used fuel n = base ++ toString k ∧ n ≤ k ∧
      (∀ j, n ≤ j → j < k → base ++ toString j ∈ used) ∧
      (base ++ toString k ∉ used ∨ k = n + fuel) := by
  induction fuel generalizing n with
  | zero => exact ⟨n, rfl, Nat.le_refl n, fun j hj hlt => absurd hlt (by omega), .inr rfl⟩
  | succ fuel ih =>
    by_cases hn : base ++ toString n ∈ used
    · obtain ⟨k, hk, hle, hbefore, hlast⟩ := ih (n + 1)
      refine ⟨k, by rw [numbered_succ, if_pos hn, hk], by omega, fun j hj hlt => ?_, ?_⟩
      · rcases Nat.eq_or_lt_of_le hj with rfl | hj
        · exact hn
        · exact hbefore j hj hlt
      · exact hlast.imp_right fun hk => by omega
    · exact ⟨n, by rw [numbered_succ, if_neg hn], Nat.le_refl n, fun j hj hlt => absurd hlt (by omega),
        .inl hn⟩

theorem numbered_not_mem (base : String) (used : List String) (n : Nat) :
    numbered base used used.length n ∉ used := by
  obtain ⟨k, hk, -, hbefore, hfree | hlast⟩ := numbered_spec base used used.length n
  · rwa [hk]
  · rw [hk]
    intro hmem
    -- These are more names than are in use.
    have hnodup : ((List.range (used.length + 1)).map fun i => base ++ toString (n + i)).Nodup := by
      refine List.Nodup.map (fun i j hij => ?_) List.nodup_range
      have hsum : n + i = n + j := toString_injective ((String.append_right_inj base).1 hij)
      omega
    have hsubset : ((List.range (used.length + 1)).map fun i => base ++ toString (n + i)) ⊆ used := by
      intro w hw
      obtain ⟨i, hi, rfl⟩ := List.mem_map.1 hw
      rcases Nat.eq_or_lt_of_le (Nat.lt_succ_iff.1 (List.mem_range.1 hi)) with rfl | hi
      · rwa [← hlast]
      · exact hbefore _ (by omega) (by omega)
    have hlength := (hnodup.subperm hsubset).length_le
    rw [List.length_map, List.length_range] at hlength
    omega

theorem freshVariable_not_mem (identifier : String) (used : List String) (suffix : String) :
    freshVariable identifier used suffix ∉ used := by
  unfold freshVariable
  simp only
  split
  · exact numbered_not_mem _ _ 2
  · rename_i hfree
    simpa using hfree

theorem isName_freshVariable (identifier : String) (used : List String)
    (hs : ∀ c ∈ suffix.toList, isNameChar c = true) :
    IsName (freshVariable identifier used suffix) := by
  have hbase := isName_variableBase identifier hs
  unfold freshVariable
  simp only
  split
  · obtain ⟨k, hk, -⟩ := numbered_spec (variableBase identifier suffix) used used.length 2
    rw [hk]
    exact hbase.append (isNameChar_of_mem_toString k)
  · exact hbase

end TestScaffold.Render
