import Mathlib.Data.List.TakeWhile
import TestScaffold.Text.Blank
import TestScaffold.Text.Word

namespace TestScaffold.Text

variable {c : Char}

instance (priority := high) decidableAllOfList {p : Char → Prop} [DecidablePred p] (cs : List Char) :
    Decidable (∀ c ∈ cs, p c) :=
  List.decidableBAll p cs

instance (priority := high) decidableAllOfOption {p : Char → Prop} [DecidablePred p] (c : Option Char) :
    Decidable (∀ d ∈ c, p d) :=
  Option.decidableForallMem c

theorem run_unique {p : Char → Bool} {u v r r' : List Char} {c d : Char}
    (hu : ∀ x ∈ u, p x = true) (hv : ∀ x ∈ v, p x = true) (hc : p c = false) (hd : p d = false)
    (h : u ++ c :: r = v ++ d :: r') : u = v ∧ c = d ∧ r = r' := by
  induction u generalizing v with
  | nil =>
    cases v with
    | nil => exact ⟨rfl, List.cons.inj h⟩
    | cons x v =>
      obtain ⟨rfl, -⟩ := List.cons.inj h
      simp [hv c List.mem_cons_self] at hc
  | cons x u ih =>
    cases v with
    | nil =>
      obtain ⟨rfl, -⟩ := List.cons.inj h
      simp [hu x List.mem_cons_self] at hd
    | cons y v =>
      obtain ⟨rfl, hrest⟩ := List.cons.inj h
      obtain ⟨rfl, hend⟩ := ih (fun z hz => hu z (List.mem_cons_of_mem _ hz))
        (fun z hz => hv z (List.mem_cons_of_mem _ hz)) hrest
      exact ⟨rfl, hend⟩

theorem mark_unique {u v r r' : List Char} {c : Char} (hu : c ∉ u) (hv : c ∉ v)
    (h : u ++ c :: r = v ++ c :: r') : u = v ∧ r = r' := by
  have plain {y : List Char} (hy : c ∉ y) : ∀ d ∈ y, (d != c) = true := by
    intro d hd
    simpa using ne_of_mem_of_not_mem hd hy
  obtain ⟨huv, -, hr⟩ := run_unique (plain hu) (plain hv) (by simp) (by simp) h
  exact ⟨huv, hr⟩

theorem char_le_iff (a c : Char) : a ≤ c ↔ a.toNat ≤ c.toNat := Iff.rfl

theorem isWord_eq_false_of_isBlank (h : isBlank c = true) : isWord c = false := by
  have apart : blankRanges.all (fun r => wordRanges.all fun w => r.2 < w.1 || w.2 < r.1) = true := by
    decide +kernel
  obtain ⟨r, hr, hc⟩ := Ranges.has_iff.1 h
  have hwide : wordRanges.has c = false := by
    rw [Bool.eq_false_iff]
    intro hw
    obtain ⟨w, hw, hcw⟩ := Ranges.has_iff.1 hw
    have := List.all_eq_true.1 (List.all_eq_true.1 apart r hr) w hw
    simp only [Bool.or_eq_true, decide_eq_true_eq] at this
    omega
  have hascii : (isAsciiLetter c || isAsciiDigit c || c == '_') = false := by
    rw [Bool.eq_false_iff]
    intro ha
    simp only [isAsciiLetter, isAsciiDigit, Bool.or_eq_true, Bool.and_eq_true, decide_eq_true_eq,
      beq_iff_eq, char_le_iff, Char.ext_iff, ← UInt32.toNat_inj] at ha
    have hu : c.toNat = c.val.toNat := rfl
    simp only [Char.reduceToNat, Char.reduceVal, UInt32.reduceToNat, ← hu] at ha
    simp only [isBlank, blankRanges, Ranges.has, List.any_cons, List.any_nil, Bool.or_eq_true,
      Bool.and_eq_true, decide_eq_true_eq, Bool.false_eq_true, or_false] at h
    omega
  rw [isWord, hascii, hwide]
  simp

theorem isBlank_eq_false_of_isWord (h : isWord c = true) : isBlank c = false := by
  rw [Bool.eq_false_iff]
  intro hb
  simp [isWord_eq_false_of_isBlank hb] at h

theorem isNameChar_eq_false_of_isBlank (h : isBlank c = true) : isNameChar c = false := by
  rw [Bool.eq_false_iff]
  intro hn
  simp [isBlank_eq_false_of_isWord (isWord_of_isNameChar hn)] at h

def IsWordText (w : List Char) : Prop := w ≠ [] ∧ ∀ c ∈ w, isWord c = true

instance (w : List Char) : Decidable (IsWordText w) := inferInstanceAs (Decidable (_ ∧ _))

section

variable {w X Y P cs : List Char}

theorem IsWordText.head (h : IsWordText w) : ∃ c v, w = c :: v ∧ isWord c = true := by
  obtain ⟨c, v, rfl⟩ := List.exists_cons_of_ne_nil h.1
  exact ⟨c, v, rfl, h.2 c List.mem_cons_self⟩

/-- The word stands in the text, with no word character next to it. -/
def HasWord (w cs : List Char) : Prop :=
  ∃ a b, cs = a ++ w ++ b ∧ a.getLast?.any isWord = false ∧ b.head?.any isWord = false

def Stands (w cs : List Char) : Prop :=
  ∃ a c b, cs = a ++ w ++ c :: b ∧ a.getLast?.any isWord = false ∧ isBlank c = true

theorem Stands.split (h : Stands w (P ++ c :: Y)) (hw : IsWordText w) (hc : isWord c = false) :
    (∃ a b, P = a ++ w ++ b ∧ a.getLast?.any isWord = false ∧ b.head?.any isWord = false ∧
      (b = [] → isBlank c = true)) ∨ Stands w Y := by
  obtain ⟨a, d, b, heq, ha, hd⟩ := h
  have hcw : c ∉ w := fun hmem => by simp [hw.2 c hmem] at hc
  rcases List.append_eq_append_iff.1 heq with ⟨x, hx, hy⟩ | ⟨x, rfl, hx⟩
  · cases x with
    | nil =>
      obtain ⟨rfl, -⟩ := List.cons.inj hy
      exact .inl ⟨a, [], by simpa using hx.symm, ha, rfl, fun _ => hd⟩
    | cons e x =>
      obtain ⟨rfl, rfl⟩ := List.cons.inj hy
      rcases List.append_eq_append_iff.1 hx with ⟨y, rfl, hy⟩ | ⟨y, rfl, hy⟩
      · exact absurd (hy ▸ by simp) hcw
      · cases y with
        | nil =>
          have hmem : c ∈ w := by
            rw [List.nil_append] at hy
            exact hy ▸ List.mem_cons_self
          exact absurd hmem hcw
        | cons e y =>
          obtain ⟨rfl, rfl⟩ := List.cons.inj hy
          refine .inr ⟨y, d, b, by simp, ?_, hd⟩
          cases hl : y.getLast? with
          | none => rfl
          | some z => simpa [List.getLast?_append, List.getLast?_cons, hl] using ha
  · refine .inl ⟨a, x, rfl, ha, ?_, ?_⟩
    · cases x with
      | nil => rfl
      | cons e x =>
        obtain ⟨rfl, -⟩ := List.cons.inj hx
        simp [isWord_eq_false_of_isBlank hd]
    · rintro rfl
      obtain ⟨rfl, -⟩ := List.cons.inj hx
      exact hd

theorem Stands.of_text (h : Stands w (P ++ c :: Y)) (hw : IsWordText w) (hc : isWord c = false) :
    HasWord w P ∨ Stands w Y := by
  rcases h.split hw hc with ⟨a, b, hp, ha, hb, -⟩ | h
  · exact .inl ⟨a, b, hp, ha, hb⟩
  · exact .inr h

theorem Stands.of_word (h : Stands w (X ++ c :: Y)) (hw : IsWordText w) (hc : isWord c = false)
    (hX : ∀ x ∈ X, isWord x = true) : (w = X ∧ isBlank c = true) ∨ Stands w Y := by
  rcases h.split hw hc with ⟨a, b, rfl, ha, hb, hblank⟩ | h
  · obtain rfl : a = [] := by
      rcases List.eq_nil_or_concat a with rfl | ⟨a, x, rfl⟩
      · rfl
      · simp [hX x (by simp)] at ha
    obtain rfl : b = [] := by
      cases b with
      | nil => rfl
      | cons x b => simp [hX x (by simp)] at hb
    exact .inl ⟨by simp, hblank rfl⟩
  · exact .inr h

theorem not_stands_of_word (hX : ∀ x ∈ X, isWord x = true) : ¬ Stands w X := by
  rintro ⟨a, c, b, rfl, -, hc⟩
  have hword := hX c (by simp)
  simp [isWord_eq_false_of_isBlank hc] at hword

theorem not_hasWord_of_notMem (hc : c ∈ w) (hX : c ∉ X) : ¬ HasWord w X := by
  rintro ⟨a, b, rfl, -⟩
  exact hX (by simp [hc])

theorem Stands.hasWord (h : Stands w X) : HasWord w X := by
  obtain ⟨a, c, b, hX, ha, hc⟩ := h
  exact ⟨a, c :: b, hX, ha, isWord_eq_false_of_isBlank hc⟩

theorem not_stands_cons (hw : IsWordText w) (hc : isWord c = false) (h : ¬ Stands w Y) :
    ¬ Stands w (c :: Y) := by
  intro hs
  rcases hs.of_word (X := []) hw hc (by simp) with ⟨rfl, -⟩ | hs
  · exact hw.1 rfl
  · exact h hs

theorem not_stands_word (hw : IsWordText w) (hc : isWord c = false) (hX : ∀ x ∈ X, isWord x = true)
    (hne : w ≠ X ∨ isBlank c = false) (h : ¬ Stands w Y) : ¬ Stands w (X ++ c :: Y) := by
  intro hs
  rcases hs.of_word hw hc hX with ⟨rfl, hb⟩ | hs
  · rcases hne with hne | hne
    · exact hne rfl
    · simp [hne] at hb
  · exact h hs

theorem not_stands_text (hw : IsWordText w) (hc : isWord c = false) (hX : ¬ HasWord w X)
    (h : ¬ Stands w Y) : ¬ Stands w (X ++ c :: Y) := by
  intro hs
  rcases hs.of_text hw hc with hword | hs
  · exact hX hword
  · exact h hs

theorem exists_of_append_word {z : List Char} (hw : IsWordText w) (hne : X ≠ [])
    (hX : X.getLast?.any isWord = false) (h : X ++ (w ++ Y) = w ++ c :: z) : ∃ y, X = w ++ c :: y := by
  obtain ⟨d, hd⟩ := Option.isSome_iff_exists.1 (List.getLast?_isSome.2 hne)
  have hmem : d ∈ X := List.mem_of_getLast? hd
  have hword : isWord d = false := by simpa [hd] using hX
  have hnot : ¬ X ⊆ w := fun hsub => by simp [hw.2 d (hsub hmem)] at hword
  rcases List.append_eq_append_iff.1 h with ⟨y, rfl, -⟩ | ⟨y, rfl, hy⟩
  · exact absurd (List.subset_append_left X y) hnot
  · cases y with
    | nil => exact absurd (by simp) hnot
    | cons e y =>
      obtain ⟨rfl, -⟩ := List.cons.inj hy
      exact ⟨y, rfl⟩

theorem stands_unique {A B : List Char} {d : Char} (hw : IsWordText w) (hX : ¬ Stands w X)
    (hY : ¬ Stands w Y) (hXfree : X.getLast?.any isWord = false) (hAfree : A.getLast?.any isWord = false)
    (hd : isBlank d = true) (h : X ++ (w ++ c :: Y) = A ++ (w ++ d :: B)) : X = A ∧ c = d ∧ Y = B := by
  have hlast {a x : List Char} (hne : x ≠ []) (hfree : (a ++ x).getLast?.any isWord = false) :
      x.getLast?.any isWord = false := by
    obtain ⟨e, he⟩ := Option.isSome_iff_exists.1 (List.getLast?_isSome.2 hne)
    simpa [List.getLast?_append, he] using hfree
  rcases List.append_eq_append_iff.1 h with ⟨x, rfl, hx⟩ | ⟨x, rfl, hx⟩
  · rcases eq_or_ne x [] with rfl | hne
    · obtain ⟨rfl, rfl⟩ := List.cons.inj (List.append_cancel_left (hx.trans (List.nil_append _)))
      exact ⟨by simp, rfl, rfl⟩
    · obtain ⟨y, rfl⟩ := exists_of_append_word hw hne (hlast hne hAfree) hx.symm
      rw [List.append_assoc] at hx
      obtain ⟨-, rfl⟩ := List.cons.inj (List.append_cancel_left hx)
      refine absurd ⟨y, d, B, by simp, ?_, hd⟩ hY
      rcases eq_or_ne y [] with rfl | hy
      · rfl
      · refine hlast (a := X ++ w ++ [c]) hy ?_
        simpa using hAfree
  · rcases eq_or_ne x [] with rfl | hne
    · obtain ⟨rfl, rfl⟩ := List.cons.inj (List.append_cancel_left ((List.nil_append _).symm.trans hx.symm))
      exact ⟨by simp, rfl, rfl⟩
    · obtain ⟨y, rfl⟩ := exists_of_append_word hw hne (hlast hne hXfree) hx.symm
      exact absurd ⟨A, d, y, by simp, hAfree, hd⟩ hX

end

section

variable {cs : List Char} {d : Char}

theorem strip_eq_self (hhead : ∀ c ∈ cs.head?, isBlank c = false)
    (hlast : ∀ c ∈ cs.getLast?, isBlank c = false) : strip cs = cs := by
  rcases List.eq_nil_or_concat cs with rfl | ⟨l, d, rfl⟩
  · rfl
  · have hd : isBlank d = false := hlast d (by simp)
    have hdrop : (l ++ [d]).dropWhile isBlank = l ++ [d] := by
      cases l with
      | nil => simp [hd]
      | cons c l => simp [hhead c rfl]
    rw [List.concat_eq_append, strip, stripOf, hdrop, dropEndWhile_append_of_neg hd]

theorem dropEndWhile_append_of_pos {p : Char → Bool} {u v : List Char} (hv : ∀ c ∈ v, p c = true) :
    dropEndWhile p (u ++ v) = dropEndWhile p u := by
  rw [dropEndWhile, List.reverse_append, List.dropWhile_append_of_pos (by simpa using hv),
    dropEndWhile]

theorem strip_append {u t v : List Char} (hu : ∀ c ∈ u, isBlank c = true)
    (hv : ∀ c ∈ v, isBlank c = true) : strip (u ++ (t ++ v)) = strip t := by
  have hend : dropEndWhile isBlank ((t ++ v).dropWhile isBlank) =
      dropEndWhile isBlank (t.dropWhile isBlank) := by
    rw [List.dropWhile_append]
    split
    · rename_i hnil
      rw [List.isEmpty_iff.1 hnil, List.dropWhile_eq_nil_iff.2 hv]
    · exact dropEndWhile_append_of_pos hv
  rw [strip, stripOf, List.dropWhile_append_of_pos hu, hend, strip, stripOf]

theorem exists_strip (cs : List Char) : ∃ u v, cs = u ++ (strip cs ++ v) ∧
    (∀ c ∈ u, isBlank c = true) ∧ ∀ c ∈ v, isBlank c = true := by
  let rest := cs.dropWhile isBlank
  have hrest : rest = strip cs ++ (rest.reverse.takeWhile isBlank).reverse := by
    rw [strip, stripOf, dropEndWhile, ← List.reverse_append, List.takeWhile_append_dropWhile,
      List.reverse_reverse]
  refine ⟨cs.takeWhile isBlank, (rest.reverse.takeWhile isBlank).reverse, ?_, ?_, ?_⟩
  · rw [← hrest, List.takeWhile_append_dropWhile]
  · exact List.all_eq_true.1 List.all_takeWhile
  · simpa using List.all_eq_true.1 (List.all_takeWhile (p := isBlank) (l := rest.reverse))

theorem getLast?_stripOf (p : Char → Bool) (cs : List Char) :
    ∀ c ∈ (stripOf p cs).getLast?, p c = false := by
  rintro c hc
  have hnot := List.head?_dropWhile_not p (cs.dropWhile p).reverse
  rw [stripOf, dropEndWhile, List.getLast?_reverse] at hc
  rw [hc] at hnot
  exact hnot

theorem stripOf_subset (p : Char → Bool) (cs : List Char) : stripOf p cs ⊆ cs := by
  intro c hc
  rw [stripOf, dropEndWhile, List.mem_reverse] at hc
  have hrest := (List.dropWhile_suffix p).subset hc
  exact (List.dropWhile_suffix p).subset (List.mem_reverse.1 hrest)

theorem isBlank_getLast?_strip (cs : List Char) : ∀ c ∈ (strip cs).getLast?, isBlank c = false :=
  getLast?_stripOf isBlank cs

theorem isBlank_head?_strip (cs : List Char) : ∀ c ∈ (strip cs).head?, isBlank c = false := by
  rintro c hc
  have hprefix : strip cs <+: cs.dropWhile isBlank := by
    have hsuffix := List.dropWhile_suffix (l := (cs.dropWhile isBlank).reverse) isBlank
    rwa [← List.reverse_prefix, List.reverse_reverse] at hsuffix
  have hnot := List.head?_dropWhile_not isBlank cs
  obtain ⟨v, hv⟩ := hprefix
  rw [← hv, List.head?_append, hc] at hnot
  exact hnot

theorem not_isBlank_getLast?_strip (h : strip cs = cs) : ∀ c ∈ cs.getLast?, isBlank c = false :=
  h ▸ isBlank_getLast?_strip cs

theorem not_isBlank_head?_strip (h : strip cs = cs) : ∀ c ∈ cs.head?, isBlank c = false :=
  h ▸ isBlank_head?_strip cs

theorem strip_eq_nil_iff : strip cs = [] ↔ allBlank cs = true := by
  simp only [strip, stripOf, dropEndWhile, List.reverse_eq_nil_iff, List.dropWhile_eq_nil_iff,
    List.mem_reverse, allBlank, List.all_eq_true]
  constructor
  · intro h c hc
    rw [← List.takeWhile_append_dropWhile (p := isBlank) (l := cs)] at hc
    rcases List.mem_append.1 hc with hc | hc
    · exact List.all_eq_true.1 List.all_takeWhile c hc
    · exact h c hc
  · exact fun h c hc => h c ((List.dropWhile_suffix _).subset hc)

theorem filter_strip (cs : List Char) : (strip cs).filter (!isBlank ·) = cs.filter (!isBlank ·) := by
  obtain ⟨u, v, hcs, hu, hv⟩ := exists_strip cs
  have hnone {w : List Char} (hw : ∀ c ∈ w, isBlank c = true) : w.filter (!isBlank ·) = [] :=
    List.filter_eq_nil_iff.2 fun c hc => by simp [hw c hc]
  have hfilter := congrArg (List.filter (!isBlank ·)) hcs
  rw [List.filter_append, List.filter_append, hnone hu, hnone hv, List.nil_append,
    List.append_nil] at hfilter
  exact hfilter.symm

theorem pieces_eq_self {sep : Char → Bool} {u : List Char} (hu : ∀ c ∈ u, sep c = false) :
    pieces sep u = [u] := by
  induction u with
  | nil => rfl
  | cons d u ih =>
    rw [List.forall_mem_cons] at hu
    rw [pieces, hu.1, ih hu.2]
    simp

theorem pieces_append {sep : Char → Bool} {u r : List Char} (hu : ∀ c ∈ u, sep c = false)
    (hc : sep c = true) : pieces sep (u ++ c :: r) = u :: pieces sep r := by
  induction u with
  | nil => simp [pieces, hc]
  | cons d u ih =>
    rw [List.cons_append, pieces, hu d List.mem_cons_self,
      ih fun x hx => hu x (List.mem_cons_of_mem _ hx)]
    simp

theorem length_pieces (sep : Char → Bool) (cs : List Char) :
    (pieces sep cs).length = cs.countP sep + 1 := by
  induction cs with
  | nil => rfl
  | cons c cs ih =>
    cases hc : sep c with
    | true => simp [pieces, hc, ih]
    | false => simp [pieces, hc, ih]

theorem words_flatMap {ws : List (List Char)} (h : ∀ w ∈ ws, IsWordText w) :
    words (ws.flatMap (· ++ [' '])) = ws := by
  induction ws with
  | nil => rfl
  | cons w ws ih =>
    have hw := h w List.mem_cons_self
    have hblank : ∀ c ∈ w, isBlank c = false := fun c hc => isBlank_eq_false_of_isWord (hw.2 c hc)
    have hrest := ih fun v hv => h v (List.mem_cons_of_mem _ hv)
    unfold words at *
    rw [List.flatMap_cons, List.append_assoc, List.singleton_append,
      pieces_append hblank (by decide), List.filter_cons_of_pos (by simp [hw.1]), hrest]

def spaced (ws : List String) : List Char := ws.flatMap fun w => w.toList ++ [' ']

theorem spaced_cons (w : String) (ws : List String) :
    spaced (w :: ws) = w.toList ++ ' ' :: spaced ws := by
  simp [spaced]

theorem getLast?_spaced (ws : List String) : (spaced ws).getLast?.any isWord = false := by
  rcases List.eq_nil_or_concat ws with rfl | ⟨ws, w, rfl⟩
  · rfl
  · simp [spaced]
    decide

theorem words_spaced {ws : List String} (h : ∀ w ∈ ws, IsWordText w.toList) :
    words (spaced ws) = ws.map String.toList := by
  have hspaced : spaced ws = (ws.map String.toList).flatMap (· ++ [' ']) := by
    rw [List.flatMap_map]
    rfl
  have hword : ∀ w ∈ ws.map String.toList, IsWordText w := List.forall_mem_map.2 h
  rw [hspaced, words_flatMap hword]

theorem mem_intercalate {sep : List Char} {ws : List (List Char)} (h : c ∈ sep.intercalate ws) :
    c ∈ sep ∨ ∃ w ∈ ws, c ∈ w := by
  induction ws with
  | nil => simp [List.intercalate] at h
  | cons w ws ih =>
    cases ws with
    | nil => exact .inr ⟨w, List.mem_cons_self, by simpa [List.intercalate] using h⟩
    | cons v ws =>
      rw [List.intercalate_cons_cons, List.mem_append, List.mem_append] at h
      obtain (h | h) | h := h
      · exact .inr ⟨w, List.mem_cons_self, h⟩
      · exact .inl h
      · exact (ih h).imp_right fun ⟨u, hu, hc⟩ => ⟨u, List.mem_cons_of_mem w hu, hc⟩

end

section

variable {cs w : List Char} {vs ws : List (List Char)}

def IsUnbroken (w : List Char) : Prop := w ≠ [] ∧ ∀ c ∈ w, isBlank c = false

theorem isUnbroken_of_mem_words (h : w ∈ words cs) : IsUnbroken w :=
  ⟨ne_nil_of_mem_words h, fun _ hc => isBlank_of_mem_words h hc⟩

theorem words_intercalate (h : ∀ w ∈ ws, IsUnbroken w) : words ([' '].intercalate ws) = ws := by
  have hkept {w : List Char} (hw : IsUnbroken w) : [w].filter (!·.isEmpty) = [w] := by simp [hw.1]
  induction ws with
  | nil => rfl
  | cons w ws ih =>
    have hw := h w List.mem_cons_self
    cases ws with
    | nil => rw [List.intercalate_singleton, words, pieces_eq_self hw.2, hkept hw]
    | cons v ws =>
      have hrest := ih fun u hu => h u (List.mem_cons_of_mem w hu)
      rw [words] at hrest ⊢
      rw [List.intercalate_cons_cons, List.append_assoc, List.singleton_append,
        pieces_append hw.2 (by decide), List.filter_cons_of_pos (by simp [hw.1]), hrest]

theorem intercalate_append {sep : List Char} (hv : vs ≠ []) (hw : ws ≠ []) :
    sep.intercalate (vs ++ ws) = sep.intercalate vs ++ (sep ++ sep.intercalate ws) := by
  induction vs with
  | nil => exact absurd rfl hv
  | cons u vs ih =>
    cases vs with
    | nil => simp [List.intercalate_cons_of_ne_nil hw]
    | cons v vs =>
      rw [List.cons_append, List.intercalate_cons_of_ne_nil (by simp), ih (by simp),
        List.intercalate_cons_cons]
      simp

theorem cons_intercalate (c : Char) (v : List Char) (vs : List (List Char)) (sep : List Char) :
    c :: sep.intercalate (v :: vs) = sep.intercalate ((c :: v) :: vs) := by
  cases vs <;> simp [List.intercalate_cons_cons]

theorem flatten_pieces (sep : Char → Bool) (cs : List Char) :
    (pieces sep cs).flatten = cs.filter (!sep ·) := by
  induction cs with
  | nil => rfl
  | cons c cs ih =>
    cases hc : sep c with
    | true => simp [pieces, hc, ih]
    | false =>
      obtain ⟨w, ws, hw⟩ := List.exists_cons_of_ne_nil (pieces_ne_nil sep cs)
      rw [hw] at ih
      simp [pieces, hc, hw, ← ih]

theorem flatten_words (cs : List Char) : (words cs).flatten = cs.filter (!isBlank ·) := by
  rw [words, List.flatten_filter_not_isEmpty, flatten_pieces]

theorem filter_intercalate (h : ∀ w ∈ ws, IsUnbroken w) :
    ([' '].intercalate ws).filter (!isBlank ·) = ws.flatten := by
  rw [← flatten_words, words_intercalate h]

end

theorem forall_ascii {P : Char → Prop} (h : ∀ n < 128, P (Char.ofNat n)) {c : Char}
    (hc : c.toNat < 128) : P c := by
  have hn := h c.toNat hc
  rwa [Char.ofNat_toNat] at hn

theorem toNat_lt_of_isNameChar {c : Char} (h : isNameChar c = true) : c.toNat < 128 := by
  simp only [isNameChar, isNameStart, isAsciiLetter, isAsciiDigit, Bool.or_eq_true, Bool.and_eq_true,
    decide_eq_true_eq, beq_iff_eq, char_le_iff] at h
  simp only [Char.reduceToNat] at h
  rcases h with ((h | h) | rfl) | h
  · omega
  · omega
  · decide
  · omega

theorem isDigitSign_of_isNameChar {c : Char} (h : isNameChar c = true) :
    isDigitSign c = !isNameStart c :=
  forall_ascii (P := fun c => isNameChar c = true → isDigitSign c = !isNameStart c)
    (by decide +kernel) (toNat_lt_of_isNameChar h) h

end TestScaffold.Text
