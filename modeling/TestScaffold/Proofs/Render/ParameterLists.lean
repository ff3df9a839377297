import TestScaffold.Proofs.Pattern.Ways
import TestScaffold.Proofs.Text.Words
import TestScaffold.Render.Parameters

namespace TestScaffold.Render

open Text

variable {b : Option Char} {c : Char} {d e : Int} {u v r : List Char}

def depthFrom (b : Option Char) (d : Int) : List Char → Int
  | [] => d
  | c :: cs => depthFrom (some c) (d + depthEffect b c) cs

def depth (u : List Char) : Int := depthFrom none 0 u

def CommasInside (b : Option Char) (d : Int) (u : List Char) : Prop :=
  ∀ a v, u = a ++ ',' :: v → depthFrom b d a ≠ 0

theorem commasInside_cons : CommasInside b d (c :: u) ↔
    (c = ',' → d ≠ 0) ∧ CommasInside (some c) (d + depthEffect b c) u := by
  constructor
  · intro h
    refine ⟨?_, fun a v hu => h (c :: a) v (by rw [hu]; rfl)⟩
    rintro rfl
    exact h [] u rfl
  · rintro ⟨hc, hu⟩ a v heq
    cases a with
    | nil =>
      obtain ⟨rfl, -⟩ := List.cons.inj heq
      exact hc rfl
    | cons x a =>
      obtain ⟨rfl, htail⟩ := List.cons.inj heq
      exact hu a v htail

instance decidableCommasInside : (b : Option Char) → (d : Int) → (u : List Char) →
    Decidable (CommasInside b d u)
  | _, _, [] => .isTrue (by simp [CommasInside])
  | b, d, c :: u =>
    have := decidableCommasInside (some c) (d + depthEffect b c) u
    decidable_of_iff _ commasInside_cons.symm

theorem depthFrom_append : depthFrom b d (u ++ v) =
    depthFrom (u.getLast?.or b) (depthFrom b d u) v := by
  induction u generalizing b d with
  | nil => rfl
  | cons c u ih =>
    rw [List.cons_append, depthFrom, ih, Pattern.last_cons, depthFrom]

theorem depthFrom_add (u : List Char) : depthFrom b (d + e) u = d + depthFrom b e u := by
  induction u generalizing b e with
  | nil => rfl
  | cons c u ih => rw [depthFrom, depthFrom, Int.add_assoc, ih]

theorem depthEffect_eq (hb : b ≠ some '-') (c : Char) : depthEffect b c = depthEffect none c := by
  simp [depthEffect, hb]

theorem depthFrom_eq (hb : b ≠ some '-') (u : List Char) : depthFrom b d u = d + depth u := by
  rw [depth, ← depthFrom_add, Int.add_zero]
  cases u with
  | nil => rfl
  | cons c u => rw [depthFrom, depthFrom, depthEffect_eq hb]

def isBracket (c : Char) : Bool := ['(', '[', '<', ')', ']', '>'].contains c

theorem depthEffect_eq_zero (h : isBracket c = false) : depthEffect b c = 0 := by
  simp only [isBracket, List.contains_cons, List.contains_nil, Bool.or_eq_false_iff,
    beq_eq_false_iff_ne, ne_eq] at h
  simp [depthEffect, h]

theorem isBracket_eq_false_of_isBlank (h : isBlank c = true) : isBracket c = false := by
  rw [isBracket, Bool.eq_false_iff]
  intro hmem
  have hc := List.contains_iff_mem.1 hmem
  simp only [List.mem_cons, List.not_mem_nil, or_false] at hc
  rcases hc with rfl | rfl | rfl | rfl | rfl | rfl <;> revert h <;> decide

theorem depthFrom_eq_self (h : ∀ c ∈ u, isBracket c = false) : depthFrom b d u = d := by
  induction u generalizing b d with
  | nil => rfl
  | cons c u ih =>
    rw [List.forall_mem_cons] at h
    rw [depthFrom, depthEffect_eq_zero h.1, Int.add_zero, ih h.2]

theorem depthFrom_blanks (h : ∀ c ∈ u, isBlank c = true) : depthFrom b d u = d :=
  depthFrom_eq_self fun c hc => isBracket_eq_false_of_isBlank (h c hc)

theorem commasInside_of_notMem (h : ',' ∉ u) : CommasInside b d u := by
  rintro a v rfl
  simp at h

theorem comma_notMem_blanks (h : ∀ c ∈ u, isBlank c = true) : ',' ∉ u := fun hmem => by
  have := h ',' hmem
  revert this
  decide

theorem commasInside_append : CommasInside b d (u ++ v) ↔
    CommasInside b d u ∧ CommasInside (u.getLast?.or b) (depthFrom b d u) v := by
  induction u generalizing b d with
  | nil => simp [CommasInside, depthFrom]
  | cons c u ih =>
    rw [List.cons_append, commasInside_cons, commasInside_cons, ih, Pattern.last_cons, depthFrom,
      and_assoc]

theorem depth_behind_space (hu : depth u = 0) : depth (u ++ ' ' :: v) = depth v := by
  have hspace : depthEffect (u.getLast?.or none) ' ' = 0 := depthEffect_eq_zero (by decide)
  rw [depth, depthFrom_append, show depthFrom none 0 u = 0 from hu, depthFrom, hspace,
    depthFrom_eq (by decide)]
  exact Int.zero_add _

theorem commasInside_behind_space (hin : CommasInside none 0 u) (hu : depth u = 0) :
    CommasInside none 0 (u ++ ' ' :: v) ↔ CommasInside none 0 v := by
  have hspace : depthEffect (u.getLast?.or none) ' ' = 0 := depthEffect_eq_zero (by decide)
  have hv : CommasInside (some ' ') 0 v ↔ CommasInside none 0 v := by
    simp only [CommasInside, depthFrom_eq (b := some ' ') (by decide), depth, Int.zero_add]
  rw [commasInside_append, show depthFrom none 0 u = 0 from hu, commasInside_cons, hspace,
    Int.add_zero, hv]
  simp [hin]

theorem getLast?_ne_dash (hb : b ≠ some '-') (hu : ∀ c ∈ u, isBlank c = true) :
    u.getLast?.or b ≠ some '-' := by
  cases hlast : u.getLast? with
  | none => exact hb
  | some c =>
    have hc := hu c (List.mem_of_getLast? hlast)
    rintro ⟨⟩
    revert hc
    decide

theorem commaPieces_ne_nil (b : Option Char) (d : Int) (u : List Char) : commaPieces b d u ≠ [] := by
  cases u with
  | nil => simp [commaPieces]
  | cons c u =>
    have hrest := commaPieces_ne_nil (some c) (d + depthEffect b c) u
    rw [commaPieces]
    split
    · simp
    · simpa [List.modifyHead_eq_nil_iff] using hrest

theorem commaPieces_eq (hb : b ≠ some '-') (d : Int) (u : List Char) :
    commaPieces b d u = commaPieces none d u := by
  cases u with
  | nil => rfl
  | cons c u => rw [commaPieces, commaPieces, depthEffect_eq hb]

theorem commaPieces_append (h : CommasInside b d u) : commaPieces b d (u ++ r) =
    (commaPieces (u.getLast?.or b) (depthFrom b d u) r).modifyHead (u ++ ·) := by
  induction u generalizing b d with
  | nil =>
    obtain ⟨p, ps, hp⟩ := List.exists_cons_of_ne_nil (commaPieces_ne_nil b d r)
    simp [depthFrom, hp]
  | cons c u ih =>
    obtain ⟨hcomma, hrest⟩ := commasInside_cons.1 h
    have hc : (c == ',' && d + depthEffect b c == 0) = false := by
      rw [Bool.and_eq_false_iff, beq_eq_false_iff_ne, beq_eq_false_iff_ne]
      refine or_iff_not_imp_left.2 fun hc => ?_
      obtain rfl := Classical.not_not.1 hc
      simpa [depthEffect] using hcomma rfl
    rw [List.cons_append, commaPieces]
    simp only [hc, Bool.false_eq_true, if_false]
    rw [ih hrest, Pattern.last_cons, depthFrom, List.modifyHead_modifyHead]
    rfl

theorem commaPieces_comma : commaPieces b 0 (',' :: r) = [] :: commaPieces (some ',') 0 r := rfl

theorem commaPieces_eq_singleton (h : CommasInside b d u) : commaPieces b d u = [u] := by
  simpa [commaPieces] using commaPieces_append (r := []) h

theorem commaPieces_split (h : CommasInside b d u) (hd : depthFrom b d u = 0) :
    commaPieces b d (u ++ ',' :: r) = u :: commaPieces (some ',') 0 r := by
  rw [commaPieces_append h, hd, commaPieces_comma]
  simp

theorem intercalate_commaPieces (b : Option Char) (d : Int) (u : List Char) :
    [','].intercalate (commaPieces b d u) = u := by
  induction u generalizing b d with
  | nil => rfl
  | cons c u ih =>
    have hrest := ih (some c) (d + depthEffect b c)
    obtain ⟨p, ps, hp⟩ := List.exists_cons_of_ne_nil
      (commaPieces_ne_nil (some c) (d + depthEffect b c) u)
    rw [hp] at hrest
    rw [commaPieces]
    simp only [hp]
    split
    · rename_i hc
      obtain rfl : c = ',' := by simp at hc; exact hc.1
      rw [List.intercalate_cons_cons, hrest]
      rfl
    · cases ps with
      | nil => simpa [List.intercalate] using hrest
      | cons q ps =>
        rw [List.intercalate_cons_cons] at hrest
        rw [List.modifyHead_cons, List.intercalate_cons_cons, ← hrest]
        rfl

/-- A text that is kept of a parameter list: not empty, and with no blank at its ends. -/
structure IsPart (u : List Char) : Prop where
  ne_nil : u ≠ []
  head : ∀ c ∈ u.head?, isBlank c = false
  last : ∀ c ∈ u.getLast?, isBlank c = false

theorem strip_behind_blanks {x : List Char} (hx : ∀ c ∈ x, isBlank c = true) (u : List Char) :
    strip (x ++ u) = strip u := by
  rw [strip, stripOf, List.dropWhile_append_of_pos hx, strip, stripOf]

theorem IsPart.strip_eq {x y : List Char} (h : IsPart u) (hx : ∀ c ∈ x, isBlank c = true)
    (hy : ∀ c ∈ y, isBlank c = true) : strip (x ++ (u ++ y)) = u := by
  rw [strip_append hx hy, strip_eq_self h.head h.last]

def keptParts (ps : List (List Char)) : List (List Char) := (ps.map strip).filter (!·.isEmpty)

theorem splitParameters_eq (u : List Char) : splitParameters u = keptParts (commaPieces none 0 u) := rfl

theorem keptParts_cons {ps : List (List Char)} {p : List Char} (h : strip p ≠ []) :
    keptParts (p :: ps) = strip p :: keptParts ps := by
  simp [keptParts, h]

theorem keptParts_cons_blank {ps : List (List Char)} {p : List Char} (h : strip p = []) :
    keptParts (p :: ps) = keptParts ps := by
  simp [keptParts, h]

theorem isPart_of_mem_keptParts {ps : List (List Char)} (h : u ∈ keptParts ps) : IsPart u := by
  obtain ⟨hmem, hne⟩ := List.mem_filter.1 h
  obtain ⟨p, -, rfl⟩ := List.mem_map.1 hmem
  exact ⟨by simpa using hne, isBlank_head?_strip p, isBlank_getLast?_strip p⟩

/-- The parts stand in the text one behind another, with nothing but blanks and commas around them. -/
inductive InOrder : List (List Char) → List Char → Prop
  | nil {gap : List Char} (filler : ∀ c ∈ gap, isBlank c = true ∨ c = ',') : InOrder [] gap
  | cons {gap part rest : List Char} {parts : List (List Char)}
      (filler : ∀ c ∈ gap, isBlank c = true ∨ c = ',') (behind : InOrder parts rest) :
      InOrder (part :: parts) (gap ++ (part ++ rest))

namespace InOrder

variable {parts : List (List Char)} {gap : List Char}

theorem behind_gap (h : InOrder parts u) (hgap : ∀ c ∈ gap, isBlank c = true ∨ c = ',') :
    InOrder parts (gap ++ u) := by
  have hfiller {w : List Char} (hw : ∀ c ∈ w, isBlank c = true ∨ c = ',') :
      ∀ c ∈ gap ++ w, isBlank c = true ∨ c = ',' := by
    intro c hc
    exact (List.mem_append.1 hc).elim (hgap c) (hw c)
  cases h with
  | nil filler => exact .nil (hfiller filler)
  | cons filler behind =>
    rw [← List.append_assoc]
    exact .cons (hfiller filler) behind

theorem keptParts_cons {ps : List (List Char)} {p : List Char} (h : InOrder (keptParts ps) v) :
    InOrder (keptParts (p :: ps)) (p ++ v) := by
  obtain ⟨x, y, hp, hx, hy⟩ := exists_strip p
  have hrest : InOrder (keptParts ps) (y ++ v) := h.behind_gap fun c hc => .inl (hy c hc)
  have hfiller : ∀ c ∈ x, isBlank c = true ∨ c = ',' := fun c hc => .inl (hx c hc)
  have htext : p ++ v = x ++ (strip p ++ (y ++ v)) := by
    conv_lhs => rw [hp]
    simp only [List.append_assoc]
  rw [htext]
  by_cases hne : strip p = []
  · rw [keptParts_cons_blank hne, hne]
    exact hrest.behind_gap hfiller
  · rw [Render.keptParts_cons hne]
    exact .cons hfiller hrest

theorem keptParts_intercalate (ps : List (List Char)) :
    InOrder (keptParts ps) ([','].intercalate ps) := by
  induction ps with
  | nil => exact .nil (by simp [List.intercalate])
  | cons p ps ih =>
    cases ps with
    | nil =>
      have hlast : InOrder (keptParts [p]) (p ++ []) := .keptParts_cons (.nil (by simp))
      simpa [List.intercalate] using hlast
    | cons q ps =>
      rw [List.intercalate_cons_cons, List.append_assoc]
      exact .keptParts_cons (ih.behind_gap (by simp))

end InOrder

structure Segment where
  text : List Char
  part : IsPart text
  level : depth text = 0
  commas : CommasInside none 0 text

structure Separator where
  before : List Char
  after : List Char
  before_blank : ∀ c ∈ before, isBlank c = true
  after_blank : ∀ c ∈ after, isBlank c = true

def joined : List (Segment × Separator) → List Char
  | [] => []
  | [(s, _)] => s.text
  | (s, x) :: row :: rows => s.text ++ (x.before ++ ',' :: (x.after ++ joined (row :: rows)))

theorem keptParts_behind_blanks {x : List Char} (hb : b ≠ some '-') (hx : ∀ c ∈ x, isBlank c = true)
    (u : List Char) : keptParts (commaPieces b 0 (x ++ u)) = splitParameters u := by
  have hin : CommasInside b 0 x := commasInside_of_notMem (comma_notMem_blanks hx)
  rw [commaPieces_append hin, depthFrom_blanks hx, commaPieces_eq (getLast?_ne_dash hb hx),
    splitParameters_eq]
  cases commaPieces none 0 u with
  | nil => rfl
  | cons p ps => simp [keptParts, strip_behind_blanks hx]

theorem splitParameters_last (hu : IsPart u) (hcommas : CommasInside none 0 u) :
    splitParameters u = [u] := by
  have hstrip : strip u = u := strip_eq_self hu.head hu.last
  rw [splitParameters_eq, commaPieces_eq_singleton hcommas,
    keptParts_cons (by rw [hstrip]; exact hu.ne_nil), hstrip]
  rfl

theorem splitParameters_front {x y : List Char} (hu : IsPart u) (hcommas : CommasInside none 0 u)
    (hlevel : depth u = 0) (hx : ∀ c ∈ x, isBlank c = true) (hy : ∀ c ∈ y, isBlank c = true) :
    splitParameters (u ++ (x ++ ',' :: (y ++ r))) = u :: splitParameters r := by
  have hstrip : strip (u ++ x) = u := by simpa using hu.strip_eq (x := []) (by simp) hx
  have hpiece : CommasInside none 0 (u ++ x) :=
    commasInside_append.2 ⟨hcommas, commasInside_of_notMem (comma_notMem_blanks hx)⟩
  have hdepth : depthFrom none 0 (u ++ x) = 0 := by
    rw [depthFrom_append, depthFrom_blanks hx]
    exact hlevel
  rw [← List.append_assoc, splitParameters_eq, commaPieces_split hpiece hdepth,
    keptParts_cons (by rw [hstrip]; exact hu.ne_nil), hstrip, keptParts_behind_blanks (by decide) hy]

theorem splitParameters_rows (rows : List (Segment × Separator)) :
    splitParameters (joined rows) = rows.map (·.1.text) := by
  induction rows with
  | nil => rfl
  | cons row rows ih =>
    obtain ⟨s, x⟩ := row
    cases rows with
    | nil => exact splitParameters_last s.part s.commas
    | cons row rows =>
      rw [joined, splitParameters_front s.part s.commas s.level x.before_blank x.after_blank, ih]
      rfl

theorem splitParameters_joined (rows : List (Segment × Separator)) (list : List Char) :
    splitParameters (joined rows) = rows.map (·.1.text) ∧
    (∀ u ∈ splitParameters list, IsPart u) ∧ InOrder (splitParameters list) list := by
  have horder := InOrder.keptParts_intercalate (commaPieces none 0 list)
  rw [intercalate_commaPieces] at horder
  exact ⟨splitParameters_rows rows, fun u hu => isPart_of_mem_keptParts hu, horder⟩

theorem splitParameters_joined_closure :
    let closure : Segment := ⟨"then: (Int, [A]) -> Void".toList, ⟨by decide, by decide, by decide⟩,
      by decide, by decide⟩
    let set : Segment := ⟨"in s: Set<Int>".toList, ⟨by decide, by decide, by decide⟩,
      by decide, by decide⟩
    splitParameters "then: (Int, [A]) -> Void ,\n in s: Set<Int>".toList = [closure.text, set.text] ∧
      InOrder (splitParameters " a: Int,, ".toList) " a: Int,, ".toList := by
  intro closure set
  let wide : Separator := ⟨[' '], ['\n', ' '], by decide, by decide⟩
  obtain ⟨hjoined, -, horder⟩ :=
    splitParameters_joined [(closure, wide), (set, wide)] " a: Int,, ".toList
  exact ⟨hjoined, horder⟩

theorem length_strip_le (u : List Char) : (strip u).length ≤ u.length := by
  obtain ⟨x, y, hu, -⟩ := exists_strip u
  have hlength := congrArg List.length hu
  simp only [List.length_append] at hlength
  omega

theorem lt_length_strip (hu : u ≠ []) (hhead : ∀ c ∈ u.head?, isBlank c = false) (r : List Char) :
    u.length < (strip (u ++ ',' :: r)).length := by
  obtain ⟨x, y, htext, hx, hy⟩ := exists_strip (u ++ ',' :: r)
  obtain ⟨c, u, rfl⟩ := List.exists_cons_of_ne_nil hu
  have hnil : x = [] := by
    cases x with
    | nil => rfl
    | cons e x =>
      obtain ⟨rfl, -⟩ := List.cons.inj htext
      simpa [hx c List.mem_cons_self] using hhead c rfl
  generalize strip (c :: u ++ ',' :: r) = w at htext
  rw [hnil, List.nil_append] at htext
  -- What is stripped at the end holds no comma.
  rcases List.append_eq_append_iff.1 htext with ⟨z, rfl, hz⟩ | ⟨z, -, rfl⟩
  · cases z with
    | nil =>
      rw [List.nil_append] at hz
      exact absurd (hz ▸ List.mem_cons_self) (comma_notMem_blanks hy)
    | cons e z =>
      simp only [List.length_append, List.length_cons]
      omega
  · exact absurd (by simp) (comma_notMem_blanks hy)

theorem commasInside_or_cut (b : Option Char) (d : Int) (u : List Char) :
    CommasInside b d u ∨ ∃ a v, u = a ++ ',' :: v ∧
      ∀ r, commaPieces b d (u ++ r) = a :: commaPieces (some ',') 0 (v ++ r) := by
  induction u generalizing b d with
  | nil => exact .inl (commasInside_of_notMem (by simp))
  | cons c u ih =>
    by_cases hc : c = ',' ∧ d = 0
    · obtain ⟨rfl, rfl⟩ := hc
      exact .inr ⟨[], u, rfl, fun r => commaPieces_comma⟩
    · have hstart : CommasInside b d [c] :=
        commasInside_cons.2 ⟨fun h hd => hc ⟨h, hd⟩, commasInside_of_notMem (by simp)⟩
      rcases ih (some c) (d + depthEffect b c) with hu | ⟨a, v, hcut, hpieces⟩
      · exact .inl (commasInside_append.2 ⟨hstart, hu⟩)
      · refine .inr ⟨c :: a, v, by rw [hcut]; rfl, fun r => ?_⟩
        have hrest := commaPieces_append (r := u ++ r) hstart
        rw [List.singleton_append] at hrest
        rw [List.cons_append, hrest, List.getLast?_singleton, depthFrom, depthFrom, Option.some_or,
          hpieces]
        rfl

variable {us : List Char} {parts : List (List Char)}

theorem commasInside_of_splitParameters (hu : IsPart u) (hcomma : u.head? ≠ some ',')
    (h : splitParameters (u ++ us) = u :: parts) : CommasInside none 0 u := by
  rcases commasInside_or_cut none 0 u with hin | ⟨a, v, rfl, hpieces⟩
  · exact hin
  · rw [splitParameters_eq, hpieces] at h
    exfalso
    by_cases ha : strip a = []
    · have hblank := List.all_eq_true.1 (strip_eq_nil_iff.1 ha)
      cases a with
      | nil => exact hcomma rfl
      | cons c a => simpa [hblank c List.mem_cons_self] using hu.head c rfl
    · rw [keptParts_cons ha] at h
      have hlength := congrArg List.length (List.cons.inj h).1
      have hle := length_strip_le a
      simp only [List.length_append, List.length_cons] at hlength
      omega

theorem depth_of_splitParameters (hu : IsPart u) (hcommas : CommasInside none 0 u)
    (h : splitParameters (u ++ ',' :: us) = u :: parts) : depth u = 0 := by
  by_contra hne
  have hin : CommasInside none 0 (u ++ [',']) :=
    commasInside_append.2 ⟨hcommas, commasInside_cons.2
      ⟨fun _ => hne, commasInside_of_notMem (by simp)⟩⟩
  have hpieces := commaPieces_append (r := us) hin
  obtain ⟨p, ps, hp⟩ := List.exists_cons_of_ne_nil (commaPieces_ne_nil
    ((u ++ [',']).getLast?.or none) (depthFrom none 0 (u ++ [','])) us)
  have hlong := lt_length_strip hu.ne_nil hu.head p
  have hkept : strip (u ++ ',' :: p) ≠ [] := List.ne_nil_of_length_pos (by omega)
  rw [hp, List.append_assoc, List.singleton_append, List.modifyHead_cons, List.append_assoc,
    List.singleton_append] at hpieces
  rw [splitParameters_eq, hpieces, keptParts_cons hkept] at h
  have hlength := congrArg List.length (List.cons.inj h).1
  omega

theorem splitParameters_intercalate_iff {ts : List (List Char)} (hparts : ∀ t ∈ ts, IsPart t)
    (hcomma : ∀ t ∈ ts, t.head? ≠ some ',') : splitParameters ([',', ' '].intercalate ts) = ts ↔
      (∀ t ∈ ts, CommasInside none 0 t) ∧ ∀ t ∈ ts.dropLast, depth t = 0 := by
  induction ts with
  | nil => simp [List.intercalate, splitParameters, commaPieces, strip, stripOf, dropEndWhile]
  | cons t ts ih =>
    rw [List.forall_mem_cons] at hparts hcomma
    cases ts with
    | nil =>
      rw [List.intercalate_singleton]
      constructor
      · intro h
        have hsplit : splitParameters (t ++ []) = [t] := by simpa using h
        have hin := commasInside_of_splitParameters hparts.1 hcomma.1 hsplit
        simpa using hin
      · rintro ⟨hin, -⟩
        exact splitParameters_last hparts.1 (hin t List.mem_cons_self)
    | cons t' ts =>
      have htext : [',', ' '].intercalate (t :: t' :: ts) =
          t ++ ([] ++ ',' :: ([' '] ++ [',', ' '].intercalate (t' :: ts))) := by
        rw [List.intercalate_cons_cons]
        simp
      have hrest := ih hparts.2 hcomma.2
      rw [htext, List.dropLast_cons_cons, List.forall_mem_cons, List.forall_mem_cons (a := t)]
      constructor
      · intro h
        have hin := commasInside_of_splitParameters hparts.1 hcomma.1 h
        have hlevel := depth_of_splitParameters hparts.1 hin h
        rw [splitParameters_front hparts.1 hin hlevel (by simp) (by decide)] at h
        obtain ⟨hins, hlevels⟩ := hrest.1 (List.cons.inj h).2
        exact ⟨⟨hin, hins⟩, hlevel, hlevels⟩
      · rintro ⟨⟨hin, hins⟩, hlevel, hlevels⟩
        rw [splitParameters_front hparts.1 hin hlevel (by simp) (by decide), hrest.2 ⟨hins, hlevels⟩]

end TestScaffold.Render
