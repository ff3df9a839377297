import Mathlib.Data.List.TakeWhile
import TestScaffold.Json.Reader

namespace TestScaffold.Json

variable {cs r s t : List Char} {c d : Char} {n fuel : Nat}

theorem exists_unit (h : unit? cs = some (n, r)) :
    ∃ q, cs = q ++ r ∧ ∀ r', unit? (q ++ r') = some (n, r') := by
  unfold unit? at h
  split at h
  · rename_i a b c d cs
    simp only [Option.bind_eq_bind, Option.bind_eq_some_iff, Option.pure_def, Option.some.injEq,
      Prod.mk.injEq] at h
    obtain ⟨i, hi, j, hj, k, hk, l, hl, hn, rfl⟩ := h
    refine ⟨[a, b, c, d], rfl, fun r' => ?_⟩
    simp [unit?, hi, hj, hk, hl, hn]
  · cases h

def joined (high low : Nat) : Char := Char.ofNat (0x10000 + (high - 0xd800) * 0x400 + (low - 0xdc00))

def pair? (n : Nat) : List Char → Option (Char × List Char)
  | '\\' :: 'u' :: more =>
    if isHighHalf n then
      (unit? more).bind fun u => if isLowHalf u.1 then some (joined n u.1, u.2) else none
    else none
  | _ => none

theorem unitEscape?_eq (cs : List Char) : unitEscape? cs =
    (unit? cs).map fun u => (pair? u.1 u.2).getD (charOfUnit u.1, u.2) := by
  unfold unitEscape?
  cases unit? cs with
  | none => rfl
  | some u =>
    obtain ⟨n, rest⟩ := u
    simp only [Option.bind_eq_bind, Option.bind_some, Option.map_some, Option.pure_def]
    split
    · rename_i more
      simp only [pair?]
      split
      · cases unit? more with
        | none => simp
        | some u =>
          simp only [Option.bind_some]
          split <;> simp [joined]
      · simp
    · rename_i hrest
      have hnone : pair? n rest = none := by
        unfold pair?
        split
        · exact (hrest _ rfl).elim
        · rfl
      simp [hnone]

theorem exists_pair (h : pair? n cs = some (d, r)) :
    ∃ q, cs = q ++ r ∧ ∀ r', pair? n (q ++ r') = some (d, r') := by
  unfold pair? at h
  split at h
  · split at h
    · rename_i hhigh
      obtain ⟨⟨m, final⟩, hu, h⟩ := Option.bind_eq_some_iff.1 h
      simp only [Option.ite_none_right_eq_some, Option.some.injEq, Prod.mk.injEq] at h
      obtain ⟨hlow, rfl, rfl⟩ := h
      obtain ⟨q, rfl, hq⟩ := exists_unit hu
      refine ⟨'\\' :: 'u' :: q, rfl, fun r' => ?_⟩
      simp [pair?, hhigh, hq, hlow]
    · cases h
  · cases h

theorem pair?_of_ne (hc : c ≠ '\\') : pair? n (c :: cs) = none := by
  unfold pair?
  split
  · simp_all
  · rfl

theorem pair?_of_ne_unit (hd : d ≠ 'u') : pair? n ('\\' :: d :: cs) = none := by
  unfold pair?
  split
  · simp_all
  · rfl

theorem stringTail_quote : stringTail (fuel + 1) ('"' :: cs) = .ok ([], cs) := by
  rw [stringTail.eq_def]
  rfl

theorem stringTail_unit (cs : List Char) : stringTail (fuel + 1) ('\\' :: 'u' :: cs) =
    match unitEscape? cs with
    | some (d, rest) => (stringTail fuel rest).map fun r => (d :: r.1, r.2)
    | none => .error .malformed := by
  rw [stringTail.eq_def]
  cases hunit : unitEscape? cs <;> simp [hunit]

theorem stringTail_escape (hd : d ≠ 'u') : stringTail (fuel + 1) ('\\' :: d :: cs) =
    match simpleEscape? d with
    | some e => (stringTail fuel cs).map fun r => (e :: r.1, r.2)
    | none => .error .malformed := by
  rw [stringTail.eq_def]
  cases hescape : simpleEscape? d <;> simp [hescape]

theorem stringTail_plain (hquote : c ≠ '"') (hslash : c ≠ '\\') : stringTail (fuel + 1) (c :: cs) =
    if c.toNat < 32 then .error .malformed
    else (stringTail fuel cs).map fun r => (c :: r.1, r.2) := by
  rw [stringTail.eq_def]
  simp [hquote, hslash]

/-- The rest `t` of a string stands for `s` in front of any text. What `t` starts with is no other half
in front of any text if it is none in front of `r`. -/
structure Closes (s t r : List Char) : Prop where
  reads : ∀ fuel r', t.length ≤ fuel → stringTail fuel (t ++ r') = .ok (s, r')
  alone : ∀ n, pair? n (t ++ r) = none → ∀ r', pair? n (t ++ r') = none
  ending : ∃ u, t = u ++ ['"']

theorem exists_fuel {k : Nat} (h : k + 1 ≤ fuel) : ∃ m, fuel = m + 1 ∧ k ≤ m :=
  ⟨fuel - 1, by omega, by omega⟩

theorem closes_quote : Closes [] ['"'] r where
  reads fuel r' hf := by
    obtain ⟨fuel, rfl, -⟩ := exists_fuel hf
    exact stringTail_quote
  alone _ _ _ := pair?_of_ne (by decide)
  ending := ⟨[], rfl⟩

theorem Closes.plain (h : Closes s t r) (hquote : c ≠ '"') (hslash : c ≠ '\\')
    (hplain : ¬ c.toNat < 32) : Closes (c :: s) (c :: t) r where
  reads fuel r' hf := by
    obtain ⟨fuel, rfl, hle⟩ := exists_fuel hf
    rw [List.cons_append, stringTail_plain hquote hslash, if_neg hplain, h.reads fuel r' hle]
    rfl
  alone _ _ _ := pair?_of_ne hslash
  ending := by
    obtain ⟨u, rfl⟩ := h.ending
    exact ⟨c :: u, rfl⟩

theorem Closes.escape (h : Closes s t r) (hd : d ≠ 'u') (hescape : simpleEscape? d = some c) :
    Closes (c :: s) ('\\' :: d :: t) r where
  reads fuel r' hf := by
    obtain ⟨fuel, rfl, hle⟩ := exists_fuel hf
    have hreads := h.reads fuel r' (Nat.le_of_succ_le hle)
    rw [List.cons_append, List.cons_append, stringTail_escape hd, hescape]
    simp only [hreads]
    rfl
  alone _ _ _ := pair?_of_ne_unit hd
  ending := by
    obtain ⟨u, rfl⟩ := h.ending
    exact ⟨'\\' :: d :: u, rfl⟩

structure Escapes (w : List Char) (c : Char) (t r : List Char) : Prop where
  reads : ∀ r', unitEscape? (w ++ (t ++ r')) = some (c, t ++ r')
  alone : ∀ n, pair? n ('\\' :: 'u' :: (w ++ (t ++ r))) = none →
    ∀ r', pair? n ('\\' :: 'u' :: (w ++ (t ++ r'))) = none

theorem Closes.exists_escapes (h : Closes s t r) (hunit : unitEscape? cs = some (c, t ++ r)) :
    ∃ w, cs = w ++ (t ++ r) ∧ Escapes w c t r := by
  rw [unitEscape?_eq] at hunit
  obtain ⟨⟨m, x⟩, hu, hsplit⟩ := Option.map_eq_some_iff.1 hunit
  simp only at hsplit
  obtain ⟨q, rfl, hq⟩ := exists_unit hu
  -- Whether the escape is another half is told by its own four digits.
  have halone (y z : List Char) (n : Nat) (hy : pair? n ('\\' :: 'u' :: (q ++ y)) = none) :
      pair? n ('\\' :: 'u' :: (q ++ z)) = none := by
    simp only [pair?, hq, Option.bind_some] at hy ⊢
    cases hn : isHighHalf n <;> cases hm : isLowHalf m <;> simp_all
  cases hpair : pair? m x with
  | some p =>
    obtain ⟨e, final⟩ := p
    rw [hpair] at hsplit
    simp only [Option.getD_some, Prod.mk.injEq] at hsplit
    obtain ⟨rfl, rfl⟩ := hsplit
    obtain ⟨q', rfl, hq'⟩ := exists_pair hpair
    refine ⟨q ++ q', by simp, fun r' => ?_, fun n hn r' => ?_⟩
    · rw [unitEscape?_eq, List.append_assoc, hq]
      simp [hq']
    · rw [List.append_assoc] at hn ⊢
      exact halone _ _ n hn
  | none =>
    rw [hpair] at hsplit
    simp only [Option.getD_none, Prod.mk.injEq] at hsplit
    obtain ⟨rfl, rfl⟩ := hsplit
    refine ⟨q, rfl, fun r' => ?_, fun n hn r' => halone _ _ n hn⟩
    rw [unitEscape?_eq, hq]
    simp [h.alone m hpair r']

theorem Closes.unit {w : List Char} (h : Closes s t r) (hw : Escapes w c t r) :
    Closes (c :: s) ('\\' :: 'u' :: (w ++ t)) r where
  reads fuel r' hf := by
    obtain ⟨fuel, rfl, hle⟩ := exists_fuel hf
    have hreads := h.reads fuel r' (by simp at hle; omega)
    have htext : '\\' :: 'u' :: (w ++ t) ++ r' = '\\' :: 'u' :: (w ++ (t ++ r')) := by simp
    rw [htext, stringTail_unit, hw.reads]
    simp only [hreads]
    rfl
  alone n hn r' := by
    have htext (x : List Char) : '\\' :: 'u' :: (w ++ t) ++ x = '\\' :: 'u' :: (w ++ (t ++ x)) := by
      simp
    rw [htext] at hn ⊢
    exact hw.alone n hn r'
  ending := by
    obtain ⟨u, rfl⟩ := h.ending
    exact ⟨'\\' :: 'u' :: (w ++ u), by simp⟩

theorem map_eq_ok {α β : Type} {x : Except ReadError α} {f : α → β} {b : β}
    (h : x.map f = .ok b) : ∃ a, x = .ok a ∧ f a = b := by
  cases x with
  | error e => cases h
  | ok a =>
    cases h
    exact ⟨a, rfl, rfl⟩

theorem exists_closes (h : stringTail fuel cs = .ok (s, r)) : ∃ t, cs = t ++ r ∧ Closes s t r := by
  induction fuel generalizing cs s with
  | zero => cases h
  | succ fuel ih =>
    cases cs with
    | nil => cases h
    | cons c cs =>
      by_cases hquote : c = '"'
      · subst hquote
        rw [stringTail_quote] at h
        cases h
        exact ⟨['"'], rfl, closes_quote⟩
      by_cases hslash : c = '\\'
      · subst hslash
        cases cs with
        | nil => cases h
        | cons d cs =>
          by_cases hd : d = 'u'
          · subst hd
            rw [stringTail_unit] at h
            cases hunit : unitEscape? cs with
            | none => simp [hunit] at h
            | some p =>
              rw [hunit] at h
              obtain ⟨⟨s, r⟩, hrest, heq⟩ := map_eq_ok h
              cases heq
              obtain ⟨t, htext, hclosed⟩ := ih hrest
              obtain ⟨w, rfl, hw⟩ := hclosed.exists_escapes (hunit.trans (by rw [← htext]))
              exact ⟨_, by simp, hclosed.unit hw⟩
          · rw [stringTail_escape hd] at h
            cases hescape : simpleEscape? d with
            | none => simp [hescape] at h
            | some e =>
              rw [hescape] at h
              obtain ⟨⟨s, r⟩, hrest, heq⟩ := map_eq_ok h
              cases heq
              obtain ⟨t, rfl, hclosed⟩ := ih hrest
              exact ⟨_, rfl, hclosed.escape hd hescape⟩
      · rw [stringTail_plain hquote hslash] at h
        by_cases hplain : c.toNat < 32
        · simp [hplain] at h
        · rw [if_neg hplain] at h
          obtain ⟨⟨s, r⟩, hrest, heq⟩ := map_eq_ok h
          cases heq
          obtain ⟨t, rfl, hclosed⟩ := ih hrest
          exact ⟨_, rfl, hclosed.plain hquote hslash hplain⟩

theorem exists_string {s : String} (h : stringRest cs = .ok (s, r)) :
    ∃ t, cs = t ++ '"' :: r ∧ ∀ r', stringRest (t ++ '"' :: r') = .ok (s, r') := by
  obtain ⟨⟨s, r⟩, htail, heq⟩ := map_eq_ok h
  cases heq
  obtain ⟨t, rfl, hclosed⟩ := exists_closes htail
  obtain ⟨u, rfl⟩ := hclosed.ending
  refine ⟨u, by simp, fun r' => ?_⟩
  have hreads := hclosed.reads ((u ++ '"' :: r').length + 1) r' (by simp)
  rw [List.append_assoc] at hreads
  rw [stringRest, show u ++ '"' :: r' = u ++ (['"'] ++ r') from rfl] at *
  rw [hreads]
  rfl

def isVisible (c : Char) : Bool := 33 ≤ c.toNat && c.toNat < 127 && c != '\x60'

def Stops (mark : Char → Bool) (r : List Char) : Prop :=
  ∀ c ∈ r.head?, Text.isAsciiDigit c = false ∧ mark c = false

theorem Stops.append {mark mark' : Char → Bool} (h : Stops mark r)
    (hstart : ∀ c ∈ t.head?, mark' c = true)
    (hmark : ∀ c, mark' c = true → Text.isAsciiDigit c = false ∧ mark c = false) :
    Stops mark (t ++ r) := by
  cases t with
  | nil => exact h
  | cons c t =>
    intro d hd
    cases hd
    exact hmark c (hstart c rfl)

theorem isVisible_of_isAsciiDigit (h : Text.isAsciiDigit c = true) : isVisible c = true := by
  simp only [Text.isAsciiDigit, Bool.and_eq_true, decide_eq_true_eq] at h
  obtain ⟨hlo, hhi⟩ := h
  have hlo : 48 ≤ c.toNat := hlo
  have hhi : c.toNat ≤ 57 := hhi
  have hne : c ≠ '\x60' := by
    rintro rfl
    exact absurd hhi (by decide)
  simp only [isVisible, Bool.and_eq_true, decide_eq_true_eq, bne_iff_ne]
  exact ⟨⟨by omega, by omega⟩, hne⟩

theorem takeAsciiDigits_append {mark : Char → Bool} (ht : ∀ c ∈ t, Text.isAsciiDigit c = true)
    (hr : Stops mark r) : takeAsciiDigits (t ++ r) = (t.map (·.toNat - 48), r) := by
  have hfirst : r.takeWhile Text.isAsciiDigit = [] ∧ r.dropWhile Text.isAsciiDigit = r := by
    cases r with
    | nil => exact ⟨rfl, rfl⟩
    | cons c r => simp [(hr c rfl).1]
  rw [takeAsciiDigits, List.takeWhile_append_of_pos ht, List.dropWhile_append_of_pos ht, hfirst.1,
    hfirst.2, List.append_nil]

theorem exists_digits {ds : List Nat} (h : takeAsciiDigits cs = (n :: ds, r)) :
    ∃ c t, cs = c :: t ++ r ∧ (∀ d ∈ c :: t, Text.isAsciiDigit d = true) ∧
      ∀ mark r', Stops mark r' → takeAsciiDigits (c :: t ++ r') = (n :: ds, r') := by
  simp only [takeAsciiDigits, Prod.mk.injEq] at h
  obtain ⟨hds, rfl⟩ := h
  cases hrun : cs.takeWhile Text.isAsciiDigit with
  | nil => simp [hrun] at hds
  | cons c t =>
    rw [hrun] at hds
    have hdigits : ∀ d ∈ c :: t, Text.isAsciiDigit d = true := by
      intro d hd
      rw [← hrun] at hd
      exact List.mem_takeWhile_imp hd
    refine ⟨c, t, ?_, hdigits, fun mark r' hr' => ?_⟩
    · rw [← hrun, List.takeWhile_append_dropWhile]
    · rw [takeAsciiDigits_append hdigits hr', hds]

theorem exists_run {ds : List Nat}
    (h : (match takeAsciiDigits cs with | ([], _) => none | p => some p) = some (ds, r)) :
    ∃ n ds', ds = n :: ds' ∧ takeAsciiDigits cs = (n :: ds', r) := by
  cases hds : takeAsciiDigits cs with
  | mk ds' more =>
    rw [hds] at h
    cases ds' with
    | nil => cases h
    | cons n ds' =>
      cases h
      exact ⟨n, ds', rfl, rfl⟩

def behind {α : Type} (f : List Char → Option (α × List Char)) (cs : List Char) : List Char :=
  ((f cs).map (·.2)).getD cs

structure Part {α : Type} (f : List Char → Option (α × List Char)) (mark : Char → Bool)
    (cs t r : List Char) : Prop where
  text : cs = t ++ r
  left : behind f cs = r
  start : ∀ c ∈ t.head?, mark c = true
  visible : ∀ c ∈ t, isVisible c = true
  reads : ∀ r', Stops mark r' → f (t ++ r') = (f cs).map fun p => (p.1, r')

def isPoint (c : Char) : Bool := c == '.'

def isExponentMark (c : Char) : Bool := c == 'e' || c == 'E'

theorem places_of_ne (h : ∀ c ∈ cs.head?, isPoint c = false) : places cs = none := by
  cases cs with
  | nil => rfl
  | cons c cs =>
    have hc : c ≠ '.' := by simpa [isPoint] using h c rfl
    unfold places
    split
    · simp_all
    · rfl

theorem exponent_of_ne (h : ∀ c ∈ cs.head?, isExponentMark c = false) : exponent cs = none := by
  cases cs with
  | nil => rfl
  | cons c cs =>
    have hc : (c == 'e' || c == 'E') = false := h c rfl
    simp [exponent, hc]

theorem part_missing {α : Type} {f : List Char → Option (α × List Char)} {mark : Char → Bool}
    (hnone : ∀ r, (∀ c ∈ r.head?, mark c = false) → f r = none) (h : f cs = none) :
    Part f mark cs [] cs where
  text := rfl
  left := by rw [behind, h]; rfl
  start := by simp
  visible := by simp
  reads r' hr' := by
    rw [h, List.nil_append, hnone r' fun c hc => (hr' c hc).2]
    rfl

theorem exists_places (cs : List Char) : ∃ t r, Part places isPoint cs t r := by
  cases h : places cs with
  | none => exact ⟨[], cs, part_missing (fun _ => places_of_ne) h⟩
  | some p =>
    obtain ⟨ds, r⟩ := p
    have hread := h
    unfold places at hread
    split at hread
    · rename_i cs
      obtain ⟨n, ds, rfl, hrun⟩ := exists_run hread
      obtain ⟨c, t, rfl, hdigits, hreads⟩ := exists_digits hrun
      refine ⟨'.' :: c :: t, r, rfl, by rw [behind, h]; rfl, by simp [isPoint], fun d hd => ?_,
        fun r' hr' => ?_⟩
      · rcases List.mem_cons.1 hd with rfl | hd
        · rfl
        · exact isVisible_of_isAsciiDigit (hdigits d hd)
      · rw [h, List.cons_append, places, hreads _ r' hr']
        rfl
    · cases hread

theorem exists_sign (cs : List Char) : ∃ sign, cs = sign ++ (Decimal.takeSign cs).2 ∧
    (∀ c ∈ sign, isVisible c = true) ∧
    ∀ c u, Text.isAsciiDigit c = true →
      Decimal.takeSign (sign ++ c :: u) = ((Decimal.takeSign cs).1, c :: u) := by
  unfold Decimal.takeSign
  split
  · exact ⟨['-'], rfl, List.forall_mem_singleton.2 rfl, fun _ _ _ => rfl⟩
  · exact ⟨['+'], rfl, List.forall_mem_singleton.2 rfl, fun _ _ _ => rfl⟩
  · refine ⟨[], rfl, by simp, fun c u hc => ?_⟩
    have hminus : c ≠ '-' := by
      rintro rfl
      exact absurd hc (by decide)
    have hplus : c ≠ '+' := by
      rintro rfl
      exact absurd hc (by decide)
    rw [List.nil_append]
    split
    · simp_all
    · simp_all
    · rfl

theorem exists_exponent (cs : List Char) : ∃ t r, Part exponent isExponentMark cs t r := by
  cases h : exponent cs with
  | none => exact ⟨[], cs, part_missing (fun _ => exponent_of_ne) h⟩
  | some p =>
    obtain ⟨e, r⟩ := p
    have hread := h
    cases cs with
    | nil => cases h
    | cons m cs =>
      by_cases hm : (m == 'e' || m == 'E') = true
      · simp only [exponent, hm, if_true] at hread
        obtain ⟨sign, hsign, hvisible, htake⟩ := exists_sign cs
        cases hds : takeAsciiDigits (Decimal.takeSign cs).2 with
        | mk ds more =>
          rw [hds] at hread
          cases ds with
          | nil => cases hread
          | cons n ds =>
          cases hread
          obtain ⟨c, t, hrest, hdigits, hreads⟩ := exists_digits hds
          rw [hrest] at hsign
          refine ⟨m :: (sign ++ c :: t), r, by simp [hsign], by rw [behind, h]; rfl,
            by simpa [isExponentMark] using hm, fun d hd => ?_, fun r' hr' => ?_⟩
          · rcases List.mem_cons.1 hd with rfl | hd
            · rcases Bool.or_eq_true_iff.1 hm with hm | hm
              · rw [eq_of_beq hm]; rfl
              · rw [eq_of_beq hm]; rfl
            · rcases List.mem_append.1 hd with hd | hd
              · exact hvisible d hd
              · exact isVisible_of_isAsciiDigit (hdigits d hd)
          · have htext : m :: (sign ++ c :: t) ++ r' = m :: (sign ++ c :: (t ++ r')) := by simp
            rw [htext, h, exponent, if_pos hm, htake c (t ++ r') (hdigits c List.mem_cons_self)]
            simp only [← List.cons_append, hreads _ r' hr']
            rfl
      · simp [exponent, hm] at h

namespace Part

variable {α : Type} {f : List Char → Option (α × List Char)} {mark : Char → Bool}

theorem value_eq (h : Part f mark cs t r) (hr : Stops mark s) :
    (f (t ++ s)).map (·.1) = (f cs).map (·.1) := by
  rw [h.reads s hr, Option.map_map]
  rfl

theorem behind_eq (h : Part f mark cs t r) (hr : Stops mark s) : behind f (t ++ s) = s := by
  rw [behind, h.reads s hr]
  cases hf : f cs with
  | some p => rfl
  | none =>
    have hleft := h.left
    rw [behind, hf] at hleft
    have htext : cs = t ++ cs := h.text.trans (congrArg (t ++ ·) hleft.symm)
    have ht : t = [] := List.self_eq_append_left.1 htext
    rw [ht]
    rfl

end Part

theorem exists_whole {ds : List Nat} (h : wholePart cs = some (ds, r)) :
    ∃ c t, cs = c :: t ++ r ∧ (∀ d ∈ c :: t, Text.isAsciiDigit d = true) ∧
      ∀ mark r', Stops mark r' → wholePart (c :: t ++ r') = some (ds, r') := by
  unfold wholePart at h
  split at h
  · cases h
    exact ⟨'0', [], rfl, List.forall_mem_singleton.2 rfl, fun _ _ _ => rfl⟩
  · rename_i hzero
    obtain ⟨n, ds, rfl, hrun⟩ := exists_run h
    obtain ⟨c, t, rfl, hdigits, hreads⟩ := exists_digits hrun
    refine ⟨c, t, rfl, hdigits, fun mark r' hr' => ?_⟩
    have hc : c ≠ '0' := by
      rintro rfl
      exact hzero _ rfl
    unfold wholePart
    split
    · simp_all
    · rw [hreads mark r' hr']

def amount (negative : Bool) (whole : List Nat) (ps : Option (List Nat)) (e : Option Int) :
    Except ReadError Json :=
  if ps.isNone && e.isNone then
    if Decimal.digitLimit < whole.length then .error .tooManyDigits
    else .ok (.int (Decimal.signed negative (Decimal.ofDigits whole)))
  else
    let x := Decimal.nearest (Decimal.ofDigits (whole ++ ps.getD [])) (e.getD 0 - (ps.getD []).length)
    .ok (.float (if negative then -x else x))

theorem size_eq (negative : Bool) (cs : List Char) : size negative cs =
    match wholePart cs with
    | none => .error .malformed
    | some (whole, rest) =>
      (amount negative whole ((places rest).map (·.1)) ((exponent (behind places rest)).map (·.1))).map
        fun j => (j, behind exponent (behind places rest)) := by
  unfold size
  cases wholePart cs with
  | none => rfl
  | some p =>
    simp only [amount, behind, Option.isNone_map]
    split
    · split <;> rfl
    · rfl

def isMark (c : Char) : Bool := isPoint c || isExponentMark c

theorem exists_size {negative : Bool} {j : Json} (h : size negative cs = .ok (j, r)) :
    ∃ c t, cs = c :: t ++ r ∧ Text.isAsciiDigit c = true ∧ (∀ d ∈ t, isVisible d = true) ∧
      ∀ r', Stops isMark r' → size negative (c :: t ++ r') = .ok (j, r') := by
  rw [size_eq] at h
  cases hwhole : wholePart cs with
  | none =>
    rw [hwhole] at h
    cases h
  | some p =>
    obtain ⟨ds, rest⟩ := p
    rw [hwhole] at h
    obtain ⟨j, hamount, heq⟩ := map_eq_ok h
    obtain ⟨c, t, rfl, hdigits, hreads⟩ := exists_whole hwhole
    obtain ⟨tp, rp, hp⟩ := exists_places rest
    obtain ⟨te, re, he⟩ := exists_exponent rp
    rw [hp.left, he.left] at heq
    rw [hp.left] at hamount
    cases heq
    have hpoint (d : Char) (hd : isPoint d = true) : Text.isAsciiDigit d = false := by
      rw [eq_of_beq hd]
      rfl
    have hmark (d : Char) (hd : isExponentMark d = true) :
        Text.isAsciiDigit d = false ∧ isPoint d = false := by
      rcases Bool.or_eq_true_iff.1 hd with hd | hd
      · rw [eq_of_beq hd]
        exact ⟨rfl, rfl⟩
      · rw [eq_of_beq hd]
        exact ⟨rfl, rfl⟩
    refine ⟨c, t ++ (tp ++ te), ?_, hdigits c List.mem_cons_self, fun d hd => ?_, fun r' hr' => ?_⟩
    · rw [hp.text, he.text]
      simp
    · rcases List.mem_append.1 hd with hd | hd
      · exact isVisible_of_isAsciiDigit (hdigits d (List.mem_cons_of_mem _ hd))
      rcases List.mem_append.1 hd with hd | hd
      · exact hp.visible d hd
      · exact he.visible d hd
    · have hexponent : Stops isExponentMark r' := fun d hd =>
        ⟨(hr' d hd).1, (Bool.or_eq_false_iff.1 (hr' d hd).2).2⟩
      have hplaces : Stops isPoint (te ++ r') :=
        Stops.append (fun d hd => ⟨(hr' d hd).1, (Bool.or_eq_false_iff.1 (hr' d hd).2).1⟩) he.start
          hmark
      have hafter : Stops (fun _ => false) (tp ++ (te ++ r')) :=
        Stops.append (fun d hd => ⟨(hplaces d hd).1, rfl⟩) hp.start fun d hd => ⟨hpoint d hd, rfl⟩
      have htext : c :: (t ++ (tp ++ te)) ++ r' = c :: t ++ (tp ++ (te ++ r')) := by simp
      rw [htext, size_eq, hreads _ _ hafter]
      simp only [hp.behind_eq hplaces, hp.value_eq hplaces, he.behind_eq hexponent,
        he.value_eq hexponent, hamount]
      rfl

def isBracket (c : Char) : Bool := ['"', '[', ']', '\x7b', '\x7d'].contains c

theorem named?_append {w : String} {j : Json} (h : (w, j) ∈ names) (r : List Char) :
    named? (w.toList ++ r) = some (j, r) := by
  simp only [names, List.mem_cons, Prod.mk.injEq, List.not_mem_nil, or_false] at h
  rcases h with ⟨rfl, rfl⟩ | ⟨rfl, rfl⟩ | ⟨rfl, rfl⟩ | ⟨rfl, rfl⟩ | ⟨rfl, rfl⟩ | ⟨rfl, rfl⟩ <;> rfl

theorem exists_name {j : Json} (h : named? cs = some (j, r)) :
    ∃ w, (w, j) ∈ names ∧ cs = w.toList ++ r := by
  obtain ⟨⟨w, j⟩, hw, h⟩ := List.exists_of_findSome?_eq_some h
  simp only [Option.ite_none_right_eq_some, Option.some.injEq, Prod.mk.injEq] at h
  obtain ⟨hfront, rfl, rfl⟩ := h
  obtain ⟨r, rfl⟩ := List.isPrefixOf_iff_prefix.1 hfront
  refine ⟨w, hw, ?_⟩
  rw [← String.length_toList, List.drop_left]

theorem names_spelled {w : String} {j : Json} (h : (w, j) ∈ names) :
    ∃ c d t, w.toList = c :: d :: t ∧ isBracket c = false ∧
      (∀ e ∈ c :: d :: t, isVisible e = true) ∧
      Text.isAsciiDigit c = false ∧ Text.isAsciiDigit d = false := by
  simp only [names, List.mem_cons, Prod.mk.injEq, List.not_mem_nil, or_false] at h
  rcases h with ⟨rfl, -⟩ | ⟨rfl, -⟩ | ⟨rfl, -⟩ | ⟨rfl, -⟩ | ⟨rfl, -⟩ | ⟨rfl, -⟩ <;>
    exact ⟨_, _, _, rfl, by decide, List.all_eq_true.1 (by decide), by decide, by decide⟩

theorem named?_eq_none (h : ∀ c d t, cs = c :: d :: t →
    Text.isAsciiDigit c = true ∨ Text.isAsciiDigit d = true) : named? cs = none := by
  refine Option.eq_none_iff_forall_ne_some.2 fun p hp => ?_
  obtain ⟨w, hw, htext⟩ := exists_name hp
  obtain ⟨c, d, t, hspelled, -, -, hc, hd⟩ := names_spelled hw
  rw [hspelled] at htext
  rcases h c d _ htext with hdigit | hdigit
  · exact absurd hdigit (by simp [hc])
  · exact absurd hdigit (by simp [hd])

theorem named?_digit (hc : Text.isAsciiDigit c = true) :
    named? (c :: cs) = none ∧ named? ('-' :: c :: cs) = none := by
  constructor
  · apply named?_eq_none
    rintro d e t ⟨⟩
    exact .inl hc
  · apply named?_eq_none
    rintro d e t ⟨⟩
    exact .inr hc

def scalar (cs : List Char) : Except ReadError (Json × List Char) :=
  match named? cs with
  | some r => .ok r
  | none =>
    match cs with
    | '-' :: more => size true more
    | _ => size false cs

theorem value_scalar {room : Nat} (h : ∀ c ∈ cs.head?, c ≠ '"' ∧ c ≠ '[' ∧ c ≠ '\x7b') :
    value (fuel + 1) room cs = scalar cs := by
  rw [value.eq_def]
  simp only
  split
  · exact absurd rfl (h _ rfl).1
  · exact absurd rfl (h _ rfl).2.1
  · exact absurd rfl (h _ rfl).2.2
  · rfl

theorem isBracket_of_isAsciiDigit (h : Text.isAsciiDigit c = true) : isBracket c = false := by
  by_contra hc
  simp only [isBracket, Bool.not_eq_false, List.contains_iff_mem, List.mem_cons, List.not_mem_nil,
    or_false] at hc
  rcases hc with rfl | rfl | rfl | rfl | rfl <;> exact absurd h (by decide)

theorem exists_scalar {j : Json} (h : scalar cs = .ok (j, r)) :
    ∃ c t, cs = c :: t ++ r ∧ isBracket c = false ∧ (∀ d ∈ c :: t, isVisible d = true) ∧
      ∀ r', Stops isMark r' → scalar (c :: t ++ r') = .ok (j, r') := by
  unfold scalar at h
  split at h
  · rename_i p hname
    cases h
    obtain ⟨w, hw, rfl⟩ := exists_name hname
    obtain ⟨c, d, t, hspelled, hbracket, hvisible, -, -⟩ := names_spelled hw
    refine ⟨c, d :: t, by rw [hspelled], hbracket, hvisible, fun r' _ => ?_⟩
    simp only [← hspelled, scalar, named?_append hw]
  · split at h
    · rename_i more hname
      obtain ⟨c, t, rfl, hc, ht, hreads⟩ := exists_size h
      refine ⟨'-', c :: t, rfl, rfl, fun d hd => ?_, fun r' hr' => ?_⟩
      · rcases List.mem_cons.1 hd with rfl | hd
        · rfl
        rcases List.mem_cons.1 hd with rfl | hd
        · exact isVisible_of_isAsciiDigit hc
        · exact ht d hd
      · simp only [scalar, List.cons_append, (named?_digit hc).2]
        exact hreads r' hr'
    · obtain ⟨c, t, rfl, hc, ht, hreads⟩ := exists_size h
      refine ⟨c, t, rfl, isBracket_of_isAsciiDigit hc, fun d hd => ?_, fun r' hr' => ?_⟩
      · rcases List.mem_cons.1 hd with rfl | hd
        · exact isVisible_of_isAsciiDigit hc
        · exact ht d hd
      · have hminus : c ≠ '-' := by
          rintro rfl
          exact absurd hc (by decide)
        simp only [scalar, List.cons_append, (named?_digit hc).1]
        split
        · simp_all
        · exact hreads r' hr'

theorem size_ne_object {negative : Bool} {ms : List (String × Json)} :
    size negative cs ≠ .ok (.object ms, r) := by
  intro h
  rw [size_eq] at h
  split at h
  · cases h
  · obtain ⟨j, hamount, heq⟩ := map_eq_ok h
    cases heq
    unfold amount at hamount
    split at hamount
    · split at hamount <;> cases hamount
    · cases hamount

theorem scalar_ne_object {ms : List (String × Json)} : scalar cs ≠ .ok (.object ms, r) := by
  intro h
  unfold scalar at h
  split at h
  · rename_i p hname
    cases h
    obtain ⟨w, hw, -⟩ := exists_name hname
    simp [names] at hw
  · split at h <;> exact size_ne_object h

end TestScaffold.Json
