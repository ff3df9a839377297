import Mathlib.Data.List.Basic
import TestScaffold.Pattern.Scan

/-!
All ways to match a pattern, in order of preference. `Pattern.run` takes the first of them that lets the
rest match, so a pattern is known by what its ways read and by which of them comes first.
-/

namespace TestScaffold

universe u v

namespace Cursor

variable {ι : Type u} {s t t' : Cursor ι} {u v : List Char}

def move (s : Cursor ι) (u : List Char) : Cursor ι :=
  ⟨u.getLast?.or s.before, s.offset + u.length, s.ahead.drop u.length, s.captures⟩

@[simp] theorem move_nil (s : Cursor ι) : s.move [] = s := by simp [move]

@[simp] theorem move_move (s : Cursor ι) (u v : List Char) : (s.move u).move v = s.move (u ++ v) := by
  simp only [move, List.getLast?_append, List.length_append, List.drop_drop, Option.or_assoc,
    Nat.add_assoc]

structure Reads (s : Cursor ι) (u : List Char) (t : Cursor ι) : Prop where
  ahead : s.ahead = u ++ t.ahead
  before : t.before = u.getLast?.or s.before
  offset : t.offset = s.offset + u.length

theorem Reads.refl (s : Cursor ι) : s.Reads [] s := ⟨rfl, rfl, rfl⟩

theorem Reads.trans (h : s.Reads u t) (h' : t.Reads v t') : s.Reads (u ++ v) t' where
  ahead := by rw [h.ahead, h'.ahead, List.append_assoc]
  before := by rw [h'.before, h.before, List.getLast?_append, Option.or_assoc]
  offset := by rw [h'.offset, h.offset, List.length_append, Nat.add_assoc]

theorem Reads.capture {i : ι} {s' : Cursor ι} (h : s.Reads u t) : s.Reads u (t.capture i s') :=
  ⟨h.ahead, h.before, h.offset⟩

theorem Reads.suffix (h : s.Reads u t) : t.ahead <:+ s.ahead := ⟨u, h.ahead.symm⟩

theorem Reads.shorter (h : s.Reads u t) (hlt : s.offset < t.offset) :
    t.ahead.length < s.ahead.length := by
  have ho := h.offset
  rw [h.ahead, List.length_append]
  omega

theorem reads_move {r : List Char} (h : s.ahead = u ++ r) : s.Reads u (s.move u) :=
  ⟨by simp [move, h], rfl, rfl⟩

theorem move_eq (b : Option Char) (o : Nat) (u r : List Char) (k : List (ι × Stretch)) :
    (⟨b, o, u ++ r, k⟩ : Cursor ι).move u = ⟨u.getLast?.or b, o + u.length, r, k⟩ := by
  simp [move]

end Cursor

theorem Stretch.text_eq (o : Nat) (u r : List Char) : (⟨o, u ++ r, u.length⟩ : Stretch).text = u := by
  simp [Stretch.text]

namespace Found

variable {ι : Type u} [DecidableEq ι] {m : Found ι} {i : ι} {o : Nat} {l r : List Char}

theorem text?_eq (h : m.captures.find? (·.1 = i) = some (i, ⟨o, l ++ r, l.length⟩)) :
    m.text? i = some l := by
  rw [text?, stretch?, h, Option.map_some, Option.map_some, Stretch.text_eq]

theorem text_eq (h : m.captures.find? (·.1 = i) = some (i, ⟨o, l ++ r, l.length⟩)) :
    m.text i = l := by
  rw [text, text?_eq h, Option.getD_some]

theorem string_eq (h : m.captures.find? (·.1 = i) = some (i, ⟨o, l ++ r, l.length⟩)) :
    m.string i = String.ofList l := by
  rw [string, text_eq h]

theorem startOf_eq (h : m.captures.find? (·.1 = i) = some (i, ⟨o, l ++ r, l.length⟩)) :
    m.startOf i = o := by
  rw [startOf, stretch?, h]
  rfl

end Found

namespace Pattern

variable {ι : Type u} {α : Type v}

def repeats (step : Cursor ι → List (Cursor ι)) (greedy : Bool) :
    List Char → Cursor ι → List (Cursor ι)
  | [], s => [s]
  | _ :: left, s =>
    let more := ((step s).filter (s.offset < ·.offset)).flatMap (repeats step greedy left)
    if greedy then more ++ [s] else s :: more

/-- The places behind all ways to match, the preferred one first. -/
def ways : Pattern ι → Cursor ι → List (Cursor ι)
  | .empty, s => [s]
  | .one p, s =>
    match s.ahead with
    | [] => []
    | c :: _ => if p c then [s.move [c]] else []
  | .place p, s => if p s.before s.ahead.head? then [s] else []
  | .seq p q, s => (p.ways s).flatMap q.ways
  | .alt p q, s => p.ways s ++ q.ways s
  | .many greedy p, s => repeats p.ways greedy s.ahead s
  | .capture i p, s => (p.ways s).map (·.capture i s)

section

variable {p q : Pattern ι} {s t m : Cursor ι} {u r : List Char} {b : Option Char} {o : Nat}
  {k : List (ι × Stretch)}

theorem findSome?_flatMap {β γ : Type u} (l : List β) (f : β → List γ) (k : γ → Option α) :
    (l.flatMap f).findSome? k = l.findSome? fun b => (f b).findSome? k := by
  induction l with
  | nil => rfl
  | cons b l ih =>
    rw [List.flatMap_cons, List.findSome?_append, ih, List.findSome?_cons]
    cases (f b).findSome? k <;> rfl

theorem findSome?_filter {β : Type u} (l : List β) (f : β → Bool) (k : β → Option α) :
    (l.filter f).findSome? k = l.findSome? fun b => if f b then k b else none := by
  induction l with
  | nil => rfl
  | cons b l ih => cases hb : f b <;> simp [List.findSome?_cons, hb, ih]

theorem rounds_eq {step : (Cursor ι → Option α) → Cursor ι → Option α}
    {steps : Cursor ι → List (Cursor ι)} (h : ∀ k s, step k s = (steps s).findSome? k)
    (greedy : Bool) (k : Cursor ι → Option α) (left : List Char) (s : Cursor ι) :
    rounds step greedy k left s = (repeats steps greedy left s).findSome? k := by
  induction left generalizing s with
  | nil => simp [rounds, repeats]
  | cons c left ih =>
    have hmore : step (fun t => if s.offset < t.offset then rounds step greedy k left t else none) s
        = (((steps s).filter (s.offset < ·.offset)).flatMap (repeats steps greedy left)).findSome? k := by
      rw [h, findSome?_flatMap, findSome?_filter]
      simp only [decide_eq_true_eq, ih]
    cases greedy with
    | true =>
      simp only [rounds, repeats, if_true, hmore, List.findSome?_append, List.findSome?_singleton]
      simp [Option.orElse_eq_or]
    | false =>
      simp only [rounds, repeats, Bool.false_eq_true, if_false, hmore, List.findSome?_cons]
      cases k s <;> rfl

theorem run_eq (p : Pattern ι) (k : Cursor ι → Option α) (s : Cursor ι) :
    p.run k s = (p.ways s).findSome? k := by
  induction p generalizing k s with
  | empty => simp [ways]
  | one p =>
    cases h : s.ahead with
    | nil => simp [ways, run, h]
    | cons c cs => cases hc : p c <;> simp [ways, run, h, hc, Cursor.move]
  | place p =>
    by_cases h : p s.before s.ahead.head? <;> simp [ways, h]
  | seq p q hp hq =>
    rw [run_seq, hp, ways, findSome?_flatMap]
    exact congrArg (fun f => (p.ways s).findSome? f) (funext (hq k))
  | alt p q hp hq => simp [ways, hp, hq, List.findSome?_append]
  | many greedy p hp => exact rounds_eq hp greedy k s.ahead s
  | capture i p hp => simp [ways, hp, List.findSome?_map, Function.comp_def]

theorem here?_eq (p : Pattern ι) (s : Cursor ι) :
    p.here? s = (p.ways s).head?.map fun t => ⟨s.offset, t.offset, t.captures⟩ := by
  rw [here?, run_eq]
  cases p.ways s <;> simp

theorem here?_eq_none (h : p.ways s = []) : p.here? s = none := by
  simp [here?_eq, h]

def Over (Q : Char → Prop) : Pattern ι → Prop
  | .empty => True
  | .one p => ∀ c, p c = true → Q c
  | .place _ => True
  | .seq p q => p.Over Q ∧ q.Over Q
  | .alt p q => p.Over Q ∧ q.Over Q
  | .many _ p => p.Over Q
  | .capture _ p => p.Over Q

theorem mem_repeats {step : Cursor ι → List (Cursor ι)} {greedy : Bool} {c : Char}
    {left : List Char} : t ∈ repeats step greedy (c :: left) s ↔
      (∃ m ∈ step s, s.offset < m.offset ∧ t ∈ repeats step greedy left m) ∨ t = s := by
  cases greedy with
  | true => simp [repeats, and_assoc]
  | false => simp [repeats, and_assoc, or_comm]

theorem repeats_reads {Q : Char → Prop} {step : Cursor ι → List (Cursor ι)}
    (h : ∀ s, ∀ t ∈ step s, ∃ u, s.Reads u t ∧ ∀ c ∈ u, Q c) (greedy : Bool) (left : List Char)
    (ht : t ∈ repeats step greedy left s) : ∃ u, s.Reads u t ∧ ∀ c ∈ u, Q c := by
  have here : ∃ u, s.Reads u s ∧ ∀ c ∈ u, Q c := ⟨[], .refl s, by simp⟩
  induction left generalizing s with
  | nil =>
    obtain rfl := List.mem_singleton.1 ht
    exact here
  | cons c left ih =>
    rcases mem_repeats.1 ht with ⟨m, hm, -, ht⟩ | rfl
    · obtain ⟨u, hu, hq⟩ := h s m hm
      obtain ⟨v, hv, hq'⟩ := ih ht ⟨[], .refl m, by simp⟩
      refine ⟨u ++ v, hu.trans hv, fun c hc => ?_⟩
      rcases List.mem_append.1 hc with hc | hc
      · exact hq c hc
      · exact hq' c hc
    · exact here

theorem Over.reads {Q : Char → Prop} (h : p.Over Q) (ht : t ∈ p.ways s) :
    ∃ u, s.Reads u t ∧ ∀ c ∈ u, Q c := by
  induction p generalizing s t with
  | empty =>
    obtain rfl := List.mem_singleton.1 ht
    exact ⟨[], .refl t, by simp⟩
  | one p =>
    cases hs : s.ahead with
    | nil => simp [ways, hs] at ht
    | cons c cs =>
      cases hc : p c with
      | false => simp [ways, hs, hc] at ht
      | true =>
        simp only [ways, hs, hc, if_true, List.mem_singleton] at ht
        subst ht
        exact ⟨[c], Cursor.reads_move hs, by simpa using h c hc⟩
  | place p =>
    have hts : t = s := by
      simp only [ways] at ht
      split at ht <;> simp_all
    subst hts
    exact ⟨[], .refl t, by simp⟩
  | seq p q hp hq =>
    obtain ⟨m, hm, ht⟩ := List.mem_flatMap.1 ht
    obtain ⟨u, hu, hQ⟩ := hp h.1 hm
    obtain ⟨v, hv, hQ'⟩ := hq h.2 ht
    refine ⟨u ++ v, hu.trans hv, fun c hc => ?_⟩
    rcases List.mem_append.1 hc with hc | hc
    · exact hQ c hc
    · exact hQ' c hc
  | alt p q hp hq =>
    rcases List.mem_append.1 ht with ht | ht
    · exact hp h.1 ht
    · exact hq h.2 ht
  | many greedy p hp => exact repeats_reads (fun _ _ => hp h) greedy s.ahead ht
  | capture i p hp =>
    obtain ⟨m, hm, rfl⟩ := List.mem_map.1 ht
    obtain ⟨u, hu, hQ⟩ := hp h hm
    exact ⟨u, hu.capture, hQ⟩

theorem over_all {Q : Char → Prop} {ps : List (Pattern ι)} (h : ∀ p ∈ ps, p.Over Q) :
    (all ps).Over Q := by
  induction ps with
  | nil => trivial
  | cons p ps ih =>
    cases ps with
    | nil => exact h p List.mem_cons_self
    | cons q ps => exact ⟨h p List.mem_cons_self, ih fun p hp => h p (List.mem_cons_of_mem _ hp)⟩

theorem over_any {Q : Char → Prop} {ps : List (Pattern ι)} (h : ∀ p ∈ ps, p.Over Q) :
    (any ps).Over Q := by
  induction ps with
  | nil => exact fun c hc => nomatch hc
  | cons p ps ih =>
    cases ps with
    | nil => exact h p List.mem_cons_self
    | cons q ps => exact ⟨h p List.mem_cons_self, ih fun p hp => h p (List.mem_cons_of_mem _ hp)⟩

theorem over_lit {Q : Char → Prop} {w : String} (h : ∀ c ∈ w.toList, Q c) :
    (lit w : Pattern ι).Over Q := by
  refine over_all fun p hp => ?_
  obtain ⟨c, hc, rfl⟩ := List.mem_map.1 hp
  rintro d hd
  exact eq_of_beq hd ▸ h c hc

theorem over_true (p : Pattern ι) : p.Over fun _ => True := by
  induction p with
  | empty => trivial
  | one p => exact fun _ _ => trivial
  | place p => trivial
  | seq p q hp hq => exact ⟨hp, hq⟩
  | alt p q hp hq => exact ⟨hp, hq⟩
  | many greedy p hp => exact hp
  | capture i p hp => exact hp

theorem reads_of_mem (ht : t ∈ p.ways s) : ∃ u, s.Reads u t := by
  obtain ⟨u, hu, -⟩ := p.over_true.reads ht
  exact ⟨u, hu⟩

theorem suffix_of_mem (ht : t ∈ p.ways s) : t.ahead <:+ s.ahead := by
  obtain ⟨u, hu⟩ := reads_of_mem ht
  exact hu.suffix

theorem mem_seq : t ∈ (p.seq q).ways s ↔ ∃ m ∈ p.ways s, t ∈ q.ways m := List.mem_flatMap

theorem mem_alt : t ∈ (p.alt q).ways s ↔ t ∈ p.ways s ∨ t ∈ q.ways s := List.mem_append

theorem mem_capture {i : ι} :
    t ∈ (p.capture i).ways s ↔ ∃ m ∈ p.ways s, m.capture i s = t := List.mem_map

theorem mem_place {f : Option Char → Option Char → Bool} :
    t ∈ (place f : Pattern ι).ways s ↔ f s.before s.ahead.head? = true ∧ t = s := by
  simp only [ways]
  split <;> simp_all

theorem ways_one_cons {f : Char → Bool} {c : Char} (h : s.ahead = c :: r) :
    (one f : Pattern ι).ways s = if f c then [s.move [c]] else [] := by
  simp [ways, h]

theorem ways_one_nil {f : Char → Bool} (h : s.ahead = []) : (one f : Pattern ι).ways s = [] := by
  simp [ways, h]

theorem mem_one {f : Char → Bool} :
    t ∈ (one f : Pattern ι).ways s ↔ ∃ c r, s.ahead = c :: r ∧ f c = true ∧ t = s.move [c] := by
  cases h : s.ahead with
  | nil => simp [ways_one_nil h]
  | cons c r => cases hc : f c <;> simp [ways_one_cons h, hc]

theorem reads_one {f : Char → Bool} (h : t ∈ (one f : Pattern ι).ways s) :
    ∃ c, f c = true ∧ s.Reads [c] t := by
  obtain ⟨c, r, hs, hc, rfl⟩ := mem_one.1 h
  exact ⟨c, hc, Cursor.reads_move hs⟩

theorem ways_all_cons {ps : List (Pattern ι)} :
    (all (p :: q :: ps)).ways s = (p.ways s).flatMap (all (q :: ps)).ways := rfl

theorem mem_all_cons {ps : List (Pattern ι)} :
    t ∈ (all (p :: q :: ps)).ways s ↔ ∃ m ∈ p.ways s, t ∈ (all (q :: ps)).ways m :=
  List.mem_flatMap

theorem mem_all_head {ps : List (Pattern ι)} (h : t ∈ (all (p :: ps)).ways s) :
    ∃ m, m ∈ p.ways s := by
  cases ps with
  | nil => exact ⟨t, h⟩
  | cons q ps =>
    obtain ⟨m, hm, -⟩ := mem_all_cons.1 h
    exact ⟨m, hm⟩

theorem mem_any {ps : List (Pattern ι)} : t ∈ (any ps).ways s ↔ ∃ p ∈ ps, t ∈ p.ways s := by
  induction ps with
  | nil => cases h : s.ahead <;> simp [any, ways, h]
  | cons p ps ih =>
    cases ps with
    | nil => simp [any]
    | cons q ps => simp only [any, mem_alt, ih, List.mem_cons, exists_eq_or_imp]

theorem ways_chars (w : List Char) (s : Cursor ι) :
    (chars w : Pattern ι).ways s = if w.isPrefixOf s.ahead then [s.move w] else [] := by
  induction w generalizing s with
  | nil => simp [chars, all, ways]
  | cons c w ih =>
    have hc : (chars (c :: w) : Pattern ι).ways s =
        ((char c : Pattern ι).ways s).flatMap (chars w).ways := by
      cases w with
      | nil => simp [chars, all, ways]
      | cons d w => rfl
    rw [hc]
    cases h : s.ahead with
    | nil => simp [char, ways_one_nil h]
    | cons d r =>
      rw [char, ways_one_cons h]
      by_cases hd : d = c
      · subst hd
        have hr : (s.move [d]).ahead = r := by simp [Cursor.move, h]
        simp [ih, hr]
      · have hd' : c ≠ d := Ne.symm hd
        simp [hd, hd']

theorem ways_lit (w : String) (s : Cursor ι) :
    (lit w : Pattern ι).ways s = if w.toList.isPrefixOf s.ahead then [s.move w.toList] else [] :=
  ways_chars _ _

theorem mem_lit {w : String} : t ∈ (lit w : Pattern ι).ways s ↔
    ∃ r, s.ahead = w.toList ++ r ∧ t = s.move w.toList := by
  rw [ways_lit]
  split <;> rename_i h
  · obtain ⟨r, hr⟩ := List.isPrefixOf_iff_prefix.1 h
    simp [← hr]
  · have hn : ∀ r, s.ahead ≠ w.toList ++ r := fun r hr => h (by simp [hr])
    simp [hn]

theorem reads_lit {w : String} (h : t ∈ (lit w : Pattern ι).ways s) : s.Reads w.toList t := by
  obtain ⟨r, hs, rfl⟩ := mem_lit.1 h
  exact Cursor.reads_move hs

theorem repeats_eq {greedy : Bool} {left left' : List Char} (h : s.ahead.length ≤ left.length)
    (h' : s.ahead.length ≤ left'.length) :
    repeats p.ways greedy left s = repeats p.ways greedy left' s := by
  have shorter (s m : Cursor ι) (hm : m ∈ (p.ways s).filter (s.offset < ·.offset)) :
      m.ahead.length < s.ahead.length := by
    obtain ⟨hm, hlt⟩ := List.mem_filter.1 hm
    obtain ⟨u, hu⟩ := reads_of_mem hm
    exact hu.shorter (by simpa using hlt)
  have done (s : Cursor ι) (left : List Char) (hs : s.ahead.length = 0) :
      repeats p.ways greedy left s = [s] := by
    have hn : (p.ways s).filter (s.offset < ·.offset) = [] :=
      List.eq_nil_iff_forall_not_mem.2 fun m hm => by have := shorter s m hm; omega
    cases left with
    | nil => rfl
    | cons c left => cases greedy <;> simp [repeats, hn]
  induction left generalizing left' s with
  | nil => rw [done s _ (by simpa using h), done s _ (by simpa using h)]
  | cons c left ih =>
    cases left' with
    | nil => rw [done s _ (by simpa using h'), done s _ (by simpa using h')]
    | cons d left' =>
      have hmore : ((p.ways s).filter (s.offset < ·.offset)).flatMap (repeats p.ways greedy left) =
          ((p.ways s).filter (s.offset < ·.offset)).flatMap (repeats p.ways greedy left') := by
        refine List.flatMap_congr fun m hm => ?_
        have := shorter s m hm
        simp only [List.length_cons] at h h'
        exact ih (by omega) (by omega)
      simp only [repeats, hmore]

def moreWays (greedy : Bool) (p : Pattern ι) (s : Cursor ι) : List (Cursor ι) :=
  ((p.ways s).filter (s.offset < ·.offset)).flatMap (many greedy p).ways

theorem ways_many (greedy : Bool) (p : Pattern ι) (s : Cursor ι) : (many greedy p).ways s =
    if greedy then moreWays greedy p s ++ [s] else s :: moreWays greedy p s := by
  have hmore : ((p.ways s).filter (s.offset < ·.offset)).flatMap
      (repeats p.ways greedy s.ahead) = moreWays greedy p s := by
    refine List.flatMap_congr fun m hm => ?_
    obtain ⟨hm, hlt⟩ := List.mem_filter.1 hm
    obtain ⟨u, hu⟩ := reads_of_mem hm
    have := hu.shorter (by simpa using hlt)
    exact repeats_eq (by omega) (Nat.le_refl _)
  -- One more round than there are characters, so that the definition unfolds.
  have hs : repeats p.ways greedy s.ahead s = repeats p.ways greedy (' ' :: s.ahead) s :=
    repeats_eq (Nat.le_refl _) (by simp)
  rw [ways, hs]
  simp only [repeats, hmore]

theorem ways_star (p : Pattern ι) (s : Cursor ι) : p.star.ways s = moreWays true p s ++ [s] :=
  ways_many true p s

theorem ways_starLazy (p : Pattern ι) (s : Cursor ι) :
    p.starLazy.ways s = s :: moreWays false p s :=
  ways_many false p s

theorem mem_moreWays {greedy : Bool} : t ∈ moreWays greedy p s ↔
    ∃ m ∈ p.ways s, s.offset < m.offset ∧ t ∈ (many greedy p).ways m := by
  simp [moreWays, and_assoc]

theorem mem_star : t ∈ p.star.ways s ↔
    (∃ m ∈ p.ways s, s.offset < m.offset ∧ t ∈ p.star.ways m) ∨ t = s := by
  rw [ways_star, List.mem_append, mem_moreWays, List.mem_singleton]
  rfl

theorem moreWays_eq_nil {greedy : Bool} (h : p.ways s = []) : moreWays greedy p s = [] := by
  simp [moreWays, h]

/-- From `s` the preferred way to match leads to `t`. -/
def Prefers (p : Pattern ι) (s t : Cursor ι) : Prop := (p.ways s).head? = some t

theorem Prefers.here? (h : p.Prefers s t) :
    p.here? s = some ⟨s.offset, t.offset, t.captures⟩ := by
  rw [here?_eq, h]
  rfl

theorem exists_prefers (h : t ∈ p.ways s) : ∃ t', p.Prefers s t' := by
  obtain ⟨t', ts, hways⟩ := List.exists_cons_of_ne_nil (List.ne_nil_of_mem h)
  exact ⟨t', by rw [Prefers, hways, List.head?_cons]⟩

theorem prefers_empty (s : Cursor ι) : (empty : Pattern ι).Prefers s s := rfl

theorem prefers_place {f : Option Char → Option Char → Bool}
    (h : f s.before s.ahead.head? = true) : (place f : Pattern ι).Prefers s s := by
  simp [Prefers, ways, h]

theorem prefers_one {f : Char → Bool} {c : Char} (hc : f c = true) :
    (one f).Prefers ⟨b, o, c :: r, k⟩ ⟨some c, o + 1, r, k⟩ := by
  simp [Prefers, ways, hc, Cursor.move]

theorem prefers_char (c : Char) : (char c).Prefers ⟨b, o, c :: r, k⟩ ⟨some c, o + 1, r, k⟩ :=
  prefers_one (by simp)

theorem prefers_lit (w : String) : (lit w).Prefers ⟨b, o, w.toList ++ r, k⟩
    ⟨w.toList.getLast?.or b, o + w.toList.length, r, k⟩ := by
  simp [Prefers, ways_lit, Cursor.move_eq]

theorem Prefers.seq (h : p.Prefers s m) (h' : q.Prefers m t) : (p.seq q).Prefers s t := by
  obtain ⟨ms, hms⟩ := List.head?_eq_some_iff.1 h
  simp only [Prefers, ways, hms, List.flatMap_cons, List.head?_append]
  rw [show (q.ways m).head? = some t from h']
  rfl

theorem Prefers.cons {ps : List (Pattern ι)} (h : p.Prefers s m)
    (h' : (all (q :: ps)).Prefers m t) : (all (p :: q :: ps)).Prefers s t :=
  h.seq h'

theorem Prefers.left (h : p.Prefers s t) (q : Pattern ι) : (p.alt q).Prefers s t := by
  obtain ⟨ms, hms⟩ := List.head?_eq_some_iff.1 h
  simp [Prefers, ways, hms]

theorem Prefers.right (h : p.ways s = []) (h' : q.Prefers s t) : (p.alt q).Prefers s t := by
  simpa [Prefers, ways, h] using h'

theorem Prefers.optional (h : p.Prefers s t) : p.optional.Prefers s t := h.left _

theorem prefers_skip (h : p.ways s = []) : p.optional.Prefers s s := .right h (prefers_empty s)

theorem Prefers.any_head {ps : List (Pattern ι)} (h : p.Prefers s t) :
    (any (p :: ps)).Prefers s t := by
  cases ps with
  | nil => exact h
  | cons q ps => exact h.left _

theorem Prefers.any_tail {ps : List (Pattern ι)} (h : p.ways s = [])
    (h' : (any (q :: ps)).Prefers s t) : (any (p :: q :: ps)).Prefers s t :=
  .right h h'

theorem prefers_any_lit {w : String} {ws : List String} (hw : w ∈ ws)
    (h : ∀ v ∈ ws, v ≠ w → v.toList.isPrefixOf (w.toList ++ r) = false) :
    (any (ws.map lit)).Prefers ⟨b, o, w.toList ++ r, k⟩
      ⟨w.toList.getLast?.or b, o + w.toList.length, r, k⟩ := by
  induction ws with
  | nil => simp at hw
  | cons v ws ih =>
    by_cases hv : v = w
    · subst hv
      exact (prefers_lit v).any_head
    · have hmem : w ∈ ws := (List.mem_cons.1 hw).resolve_left (Ne.symm hv)
      have hnone : (lit v : Pattern ι).ways ⟨b, o, w.toList ++ r, k⟩ = [] := by
        simp [ways_lit, h v List.mem_cons_self hv]
      have hrest := ih hmem fun x hx => h x (List.mem_cons_of_mem _ hx)
      cases ws with
      | nil => simp at hmem
      | cons x ws => exact .any_tail hnone hrest

theorem ways_any_lit {ws : List String} (h : ∀ v ∈ ws, v.toList.isPrefixOf s.ahead = false) :
    (any (ws.map lit) : Pattern ι).ways s = [] := by
  refine List.eq_nil_iff_forall_not_mem.2 fun t ht => ?_
  obtain ⟨p, hp, ht⟩ := mem_any.1 ht
  obtain ⟨v, hv, rfl⟩ := List.mem_map.1 hp
  simp [ways_lit, h v hv] at ht

theorem Prefers.capture {b' : Option Char} {o' : Nat} {k' : List (ι × Stretch)}
    (h : p.Prefers ⟨b, o, u ++ r, k⟩ ⟨b', o', r, k'⟩) (ho : o' = o + u.length) (i : ι) :
    (p.capture i).Prefers ⟨b, o, u ++ r, k⟩ ⟨b', o', r, (i, ⟨o, u ++ r, u.length⟩) :: k'⟩ := by
  obtain ⟨ms, hms⟩ := List.head?_eq_some_iff.1 h
  subst ho
  simp [Prefers, ways, hms, Cursor.capture, Cursor.upTo]

theorem Prefers.star (h : p.Prefers s m) (hlt : s.offset < m.offset) (h' : p.star.Prefers m t) :
    p.star.Prefers s t := by
  obtain ⟨ms, hms⟩ := List.head?_eq_some_iff.1 h
  have hmore : (moreWays true p s).head? = some t := by
    rw [moreWays, hms, List.filter_cons_of_pos (by simpa using hlt), List.flatMap_cons,
      List.head?_append, show ((many true p).ways m).head? = some t from h']
    rfl
  rw [Prefers, ways_star, List.head?_append, hmore]
  rfl

theorem prefers_star_stop (h : p.ways s = []) : p.star.Prefers s s := by
  rw [Prefers, ways_star, moreWays_eq_nil h]
  rfl

theorem last_cons (c : Char) (u : List Char) (b : Option Char) :
    (c :: u).getLast?.or b = u.getLast?.or (some c) := by
  rw [List.getLast?_cons]
  cases u.getLast? <;> rfl

theorem add_length_cons (o : Nat) (c : Char) (u : List Char) :
    o + (c :: u).length = o + 1 + u.length := by
  rw [List.length_cons]
  omega

theorem prefers_run {f : Char → Bool} (hu : ∀ c ∈ u, f c = true) (hr : ∀ c ∈ r.head?, f c = false) :
    (one f).star.Prefers ⟨b, o, u ++ r, k⟩ ⟨u.getLast?.or b, o + u.length, r, k⟩ := by
  induction u generalizing b o with
  | nil =>
    refine prefers_star_stop ?_
    cases r with
    | nil => rfl
    | cons c r => simp [ways, hr c rfl]
  | cons c u ih =>
    have hrest := ih (b := some c) (o := o + 1) fun d hd => hu d (List.mem_cons_of_mem _ hd)
    rw [last_cons, add_length_cons]
    exact (prefers_one (hu c List.mem_cons_self)).star (Nat.lt_succ_self o) hrest

theorem prefers_run_none {f : Char → Bool} (hr : ∀ c ∈ r.head?, f c = false) :
    (one f).star.Prefers ⟨b, o, r, k⟩ ⟨b, o, r, k⟩ :=
  prefers_run (u := []) (by simp) hr

theorem prefers_plus {f : Char → Bool} {c : Char} (hc : f c = true)
    (hu : ∀ c ∈ u, f c = true) (hr : ∀ c ∈ r.head?, f c = false) :
    (one f).plus.Prefers ⟨b, o, c :: (u ++ r), k⟩ ⟨u.getLast?.or (some c), o + 1 + u.length, r, k⟩ :=
  (prefers_one hc).seq (prefers_run hu hr)

/-- Of the ways of `p` from `s`, the first that is not dead leads to `t`. -/
def Reaches (p : Pattern ι) (dead : Cursor ι → Prop) (s t : Cursor ι) : Prop :=
  ∃ before after, p.ways s = before ++ t :: after ∧ ∀ m ∈ before, dead m

namespace Reaches

variable {dead : Cursor ι → Prop}

theorem seq (h : p.Reaches (q.ways · = []) s m) (h' : q.Prefers m t) : (p.seq q).Prefers s t := by
  obtain ⟨before, after, hways, hdead⟩ := h
  have hbefore : before.flatMap q.ways = [] := List.flatMap_eq_nil_iff.2 hdead
  have hfirst : (p.seq q).ways s = q.ways m ++ after.flatMap q.ways := by
    rw [ways, hways, List.flatMap_append, hbefore, List.flatMap_cons, List.nil_append]
  rw [Prefers, hfirst, List.head?_append, show (q.ways m).head? = some t from h']
  rfl

theorem after (h : p.Prefers s m) (h' : q.Reaches dead m t) : (p.seq q).Reaches dead s t := by
  obtain ⟨ms, hms⟩ := List.head?_eq_some_iff.1 h
  obtain ⟨before, after, hways, hdead⟩ := h'
  refine ⟨before, after ++ ms.flatMap q.ways, ?_, hdead⟩
  simp [ways, hms, hways]

theorem capture {i : ι} (h : p.Reaches (fun m => dead (m.capture i s)) s t) :
    (p.capture i).Reaches dead s (t.capture i s) := by
  obtain ⟨before, after, hways, hdead⟩ := h
  refine ⟨before.map (·.capture i s), after.map (·.capture i s), by simp [ways, hways], ?_⟩
  rintro m hm
  obtain ⟨n, hn, rfl⟩ := List.mem_map.1 hm
  exact hdead n hn

end Reaches

theorem reaches_any_lit {dead : Cursor ι → Prop} {w : String} {ws : List String} (hw : w ∈ ws)
    (hs : s.ahead = w.toList ++ r)
    (h : ∀ v ∈ ws, v ≠ w → v.toList.isPrefixOf s.ahead = true → dead (s.move v.toList)) :
    (any (ws.map lit)).Reaches dead s (s.move w.toList) := by
  induction ws with
  | nil => cases hw
  | cons v ws ih =>
    have hways : ∃ after, (any ((v :: ws).map lit) : Pattern ι).ways s =
        (lit v : Pattern ι).ways s ++ after ∧ (ws ≠ [] → after = (any (ws.map lit)).ways s) := by
      cases ws with
      | nil => exact ⟨[], (List.append_nil _).symm, fun hne => absurd rfl hne⟩
      | cons x ws => exact ⟨_, rfl, fun _ => rfl⟩
    obtain ⟨after, hways, hafter⟩ := hways
    rw [ways_lit] at hways
    by_cases hv : v = w
    · subst hv
      refine ⟨[], after, ?_, by simp⟩
      rw [hways, if_pos (by simp [hs])]
      rfl
    · have hmem : w ∈ ws := (List.mem_cons.1 hw).resolve_left (Ne.symm hv)
      obtain ⟨before, rest, hrest, hdead⟩ := ih hmem fun x hx => h x (List.mem_cons_of_mem _ hx)
      rw [hafter (List.ne_nil_of_mem hmem), hrest] at hways
      split at hways
      · rename_i hprefix
        refine ⟨s.move v.toList :: before, rest, hways, List.forall_mem_cons.2 ⟨?_, hdead⟩⟩
        exact h v List.mem_cons_self hv hprefix
      · exact ⟨before, rest, hways, hdead⟩

theorem reaches_lazy {f : Char → Bool} {dead : Cursor ι → Prop} (hu : ∀ c ∈ u, f c = true)
    (hdead : ∀ a c v, u = a ++ c :: v →
      dead ⟨a.getLast?.or b, o + a.length, c :: v ++ r, k⟩) :
    (one f).starLazy.Reaches dead ⟨b, o, u ++ r, k⟩ ⟨u.getLast?.or b, o + u.length, r, k⟩ := by
  induction u generalizing b o with
  | nil => exact ⟨[], moreWays false (one f) _, by rw [ways_starLazy]; rfl, by simp⟩
  | cons c u ih =>
    have hrest : (one f).starLazy.Reaches dead ⟨some c, o + 1, u ++ r, k⟩
        ⟨u.getLast?.or (some c), o + 1 + u.length, r, k⟩ := by
      refine ih (fun d hd => hu d (List.mem_cons_of_mem _ hd)) fun a d v hv => ?_
      have hd := hdead (c :: a) d v (by rw [hv]; rfl)
      rwa [last_cons, add_length_cons] at hd
    obtain ⟨before, after, hways, hbefore⟩ := hrest
    rw [last_cons, add_length_cons]
    refine ⟨⟨b, o, c :: (u ++ r), k⟩ :: before, after, ?_, ?_⟩
    · have hmore : moreWays false (one f) ⟨b, o, c :: (u ++ r), k⟩ =
          (one f).starLazy.ways ⟨some c, o + 1, u ++ r, k⟩ := by
        simp [moreWays, ways, hu c List.mem_cons_self, Cursor.move, starLazy]
      rw [List.cons_append, ways_starLazy, hmore, hways]
      rfl
    · rintro m hm
      rcases List.mem_cons.1 hm with rfl | hm
      · exact hdead [] c u rfl
      · exact hbefore m hm

theorem Prefers.optional_seq (h : (p.seq q).Prefers s t) : (p.optional.seq q).Prefers s t := by
  have hways : (p.optional.seq q).ways s = (p.seq q).ways s ++ q.ways s := by
    simp [Pattern.optional, ways]
  rw [Prefers, hways, List.head?_append, show ((p.seq q).ways s).head? = some t from h]
  rfl

end

end Pattern

end TestScaffold
