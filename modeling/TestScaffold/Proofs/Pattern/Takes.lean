import TestScaffold.Proofs.Pattern.Scanning

/-!
What a pattern takes at the front of a text, and the texts that it captures. Unlike places, these do not
depend on where the text stands, so patterns that follow one another are told part by part.
-/

namespace TestScaffold

universe u v

def captured {ι : Type u} (cs : List (ι × Stretch)) : List (ι × List Char) :=
  cs.map fun c => (c.1, c.2.text)

theorem Found.text?_captured {ι : Type u} [DecidableEq ι] (m : Found ι) (i : ι) :
    m.text? i = ((captured m.captures).find? (·.1 = i)).map (·.2) := by
  rw [Found.text?, Found.stretch?, captured, List.find?_map, Option.map_map, Option.map_map]
  rfl

namespace Pattern

variable {ι : Type u} {p q : Pattern ι} {ps qs : List (Pattern ι)} {u v r : List Char}
  {ks ks' : List (ι × List Char)} {s t : Cursor ι}

def TakesFrom (p : Pattern ι) (s : Cursor ι) (r : List Char) (ks : List (ι × List Char)) : Prop :=
  ∃ t, p.Prefers s t ∧ t.ahead = r ∧ captured t.captures = ks ++ captured s.captures

/-- Wherever `u` stands in front of `r`, the preferred way takes `u` and captures `ks`. -/
def Takes (p : Pattern ι) (u r : List Char) (ks : List (ι × List Char)) : Prop :=
  ∀ s, s.ahead = u ++ r → p.TakesFrom s r ks

theorem Prefers.takesFrom (h : p.Prefers s s) : p.TakesFrom s s.ahead [] := ⟨s, h, rfl, rfl⟩

theorem Prefers.mem (h : p.Prefers s t) : t ∈ p.ways s := List.mem_of_head? h

theorem TakesFrom.exists_reads (h : p.TakesFrom s r ks) (hs : s.ahead = u ++ r) :
    ∃ t, p.Prefers s t ∧ s.Reads u t ∧ t.ahead = r ∧ captured t.captures = ks ++ captured s.captures := by
  obtain ⟨t, ht, hr, hks⟩ := h
  obtain ⟨w, hw⟩ := reads_of_mem ht.mem
  obtain rfl : u = w := by
    have hahead := hw.ahead
    rwa [hs, hr, List.append_cancel_right_eq] at hahead
  exact ⟨t, ht, hw, hr, hks⟩

theorem TakesFrom.seq (h : p.TakesFrom s (v ++ r) ks) (h' : q.Takes v r ks') :
    (p.seq q).TakesFrom s r (ks' ++ ks) := by
  obtain ⟨m, hm, hahead, hks⟩ := h
  obtain ⟨t, ht, hr, hks'⟩ := h' m hahead
  exact ⟨t, hm.seq ht, hr, by rw [hks', hks, List.append_assoc]⟩

theorem TakesFrom.cons (h : p.TakesFrom s (v ++ r) ks) (h' : (all (q :: ps)).Takes v r ks') :
    (all (p :: q :: ps)).TakesFrom s r (ks' ++ ks) :=
  h.seq h'

theorem ways_all_group :
    (all (all (p :: ps) :: q :: qs)).ways s = (all (p :: ps ++ q :: qs)).ways s := by
  induction ps generalizing p s with
  | nil => rfl
  | cons p' ps ih =>
    have hgroup (m : Cursor ι) :
        ((all (p' :: ps)).ways m).flatMap (all (q :: qs)).ways =
          (all (p' :: ps ++ q :: qs)).ways m := ih
    simp only [List.cons_append, ways_all_cons, List.flatMap_assoc, hgroup]

namespace Takes

theorem cons (h : p.Takes u (v ++ r) ks) (h' : (all (q :: ps)).Takes v r ks') :
    (all (p :: q :: ps)).Takes (u ++ v) r (ks' ++ ks) := fun s hs =>
  (h s (by rw [hs, List.append_assoc])).cons h'

theorem any_head (h : p.Takes u r ks) : (any (p :: ps)).Takes u r ks := by
  intro s hs
  obtain ⟨t, ht, h⟩ := h s hs
  exact ⟨t, ht.any_head, h⟩

theorem any_tail (hp : ∀ s, s.ahead = u ++ r → p.ways s = []) (h : (any (q :: ps)).Takes u r ks) :
    (any (p :: q :: ps)).Takes u r ks := by
  intro s hs
  obtain ⟨t, ht, h⟩ := h s hs
  exact ⟨t, .any_tail (hp s hs) ht, h⟩

theorem left (h : p.Takes u r ks) (q : Pattern ι) : (p.alt q).Takes u r ks := by
  intro s hs
  obtain ⟨t, ht, h⟩ := h s hs
  exact ⟨t, ht.left q, h⟩

theorem right (hp : ∀ s, s.ahead = u ++ r → p.ways s = []) (h : q.Takes u r ks) :
    (p.alt q).Takes u r ks := by
  intro s hs
  obtain ⟨t, ht, h⟩ := h s hs
  exact ⟨t, .right (hp s hs) ht, h⟩

theorem optional (h : p.Takes u r ks) : p.optional.Takes u r ks := h.left _

theorem capture (h : p.Takes u r ks) (i : ι) : (p.capture i).Takes u r ((i, u) :: ks) := by
  intro s hs
  obtain ⟨t, ht, hw, hr, hks⟩ := (h s hs).exists_reads hs
  refine ⟨t.capture i s, ?_, hr, ?_⟩
  · obtain ⟨ms, hms⟩ := List.head?_eq_some_iff.1 ht
    simp [Prefers, ways, hms]
  · have hstretch : (s.upTo t).text = u := by
      simp [Cursor.upTo, Stretch.text, hw.offset, hs]
    change (i, (s.upTo t).text) :: captured t.captures = _
    rw [hstretch, hks]
    rfl

theorem group (h : (all (p :: ps ++ q :: qs)).Takes u r ks) :
    (all (all (p :: ps) :: q :: qs)).Takes u r ks := by
  intro s hs
  obtain ⟨t, ht, h⟩ := h s hs
  exact ⟨t, by rwa [Prefers, ways_all_group], h⟩

theorem lazy {f : Char → Bool} (hu : ∀ c ∈ u, f c = true)
    (hdead : ∀ a c w, u = a ++ c :: w → ∀ m, m.ahead = c :: w ++ (v ++ r) →
      (all (q :: qs)).ways m = [])
    (h : (all (q :: qs)).Takes v r ks) :
    (all ((one f).starLazy :: q :: qs)).Takes (u ++ v) r ks := by
  rintro ⟨b, o, ahead, k⟩ hs
  obtain rfl : ahead = u ++ (v ++ r) := hs.trans (List.append_assoc ..)
  obtain ⟨t, ht, hr, hks⟩ := h ⟨u.getLast?.or b, o + u.length, v ++ r, k⟩ rfl
  exact ⟨t, (reaches_lazy hu fun a c w hw => hdead a c w hw _ rfl).seq ht, hr, hks⟩

end Takes

theorem takes_empty : (empty : Pattern ι).Takes [] r [] := by
  rintro s rfl
  exact (prefers_empty s).takesFrom

theorem takes_one {f : Char → Bool} {c : Char} (hc : f c = true) : (one f : Pattern ι).Takes [c] r [] := by
  rintro ⟨b, o, ahead, k⟩ rfl
  exact ⟨_, prefers_one hc, rfl, rfl⟩

theorem takes_char (c : Char) : (char c : Pattern ι).Takes [c] r [] := by
  rintro ⟨b, o, ahead, k⟩ rfl
  exact ⟨_, prefers_char c, rfl, rfl⟩

theorem takes_skip {c : Char} (hr : ∀ d ∈ r.head?, d ≠ c) :
    (Pattern.optional (all (char c :: q :: ps))).Takes [] r [] := by
  refine Takes.right (fun s hs => List.eq_nil_iff_forall_not_mem.2 fun t ht => ?_) takes_empty
  obtain ⟨m, hm, -⟩ := mem_all_cons.1 ht
  obtain ⟨d, u, hahead, hd, -⟩ := mem_one.1 hm
  obtain rfl : d = c := eq_of_beq hd
  obtain rfl : r = d :: u := hs.symm.trans hahead
  exact hr d rfl rfl

theorem takes_lit (w : String) : (lit w : Pattern ι).Takes w.toList r [] := by
  rintro ⟨b, o, ahead, k⟩ rfl
  exact ⟨_, prefers_lit w, rfl, rfl⟩

theorem takes_any_lit {w : String} {ws : List String} (hw : w ∈ ws)
    (h : ∀ v ∈ ws, v ≠ w → v.toList.isPrefixOf (w.toList ++ r) = false) :
    (any (ws.map lit) : Pattern ι).Takes w.toList r [] := by
  rintro ⟨b, o, ahead, k⟩ rfl
  exact ⟨_, prefers_any_lit hw h, rfl, rfl⟩

theorem takes_run {f : Char → Bool} (hu : ∀ c ∈ u, f c = true) (hr : ∀ c ∈ r.head?, f c = false) :
    (one f : Pattern ι).star.Takes u r [] := by
  rintro ⟨b, o, ahead, k⟩ rfl
  exact ⟨_, prefers_run hu hr, rfl, rfl⟩

theorem takes_plus {f : Char → Bool} (hne : u ≠ []) (hu : ∀ c ∈ u, f c = true)
    (hr : ∀ c ∈ r.head?, f c = false) : (one f : Pattern ι).plus.Takes u r [] := by
  obtain ⟨c, u, rfl⟩ := List.exists_cons_of_ne_nil hne
  rintro ⟨b, o, ahead, k⟩ rfl
  exact ⟨_, prefers_plus (hu c List.mem_cons_self) (fun d hd => hu d (List.mem_cons_of_mem c hd)) hr,
    rfl, rfl⟩

theorem covers_iff {cs : List Char} :
    p.covers cs = true ↔ ∃ t ∈ p.ways (.ofText cs), t.ahead = [] := by
  rw [covers, matchAt, run_eq, List.findSome?_isSome_iff]
  refine exists_congr fun t => and_congr_right fun _ => ?_
  by_cases h : t.ahead = [] <;> simp [h]

theorem Takes.covers (h : p.Takes u [] ks) : p.covers u = true := by
  obtain ⟨t, ht, hend, -⟩ := h (.ofText u) (List.append_nil u).symm
  exact covers_iff.2 ⟨t, ht.mem, hend⟩

theorem Takes.match? (h : p.Takes u r ks) :
    ∃ m, p.match? (u ++ r) = some m ∧ captured m.captures = ks := by
  obtain ⟨t, ht, -, hks⟩ := h (.ofText (u ++ r)) rfl
  exact ⟨_, ht.here?, hks.trans (List.append_nil ks)⟩

theorem TakesFrom.scans {β : Type v} {b : Option Char} {o : Nat}
    (h : p.TakesFrom ⟨b, o, u ++ r, []⟩ r ks) (hne : u ≠ []) (f : Found ι → β) :
    ∃ m : Found ι, m.start = o ∧ m.stop = o + u.length ∧ captured m.captures = ks ∧
      p.Scans f b o u r [f m] := by
  obtain ⟨t, ht, hw, -, hks⟩ := h.exists_reads rfl
  exact ⟨⟨o, o + u.length, t.captures⟩, rfl, rfl, hks.trans (List.append_nil ks),
    ht.scans hne hw.offset⟩

theorem TakesFrom.scan (h : p.TakesFrom ⟨none, 0, u ++ r, []⟩ r ks) (hne : u ≠ [])
    (hrest : p.Silent u.getLast? r [])
    (hend : ∀ s : Cursor ι, s.ahead = [] → p.ways s = []) :
    ∃ m, p.scan (u ++ r) = [m] ∧ m.start = 0 ∧ m.stop = u.length ∧ captured m.captures = ks := by
  obtain ⟨m, hstart, hstop, hks, hscans⟩ := h.scans hne id
  have hfirst : p.Scans id none 0 u (r ++ []) [m] := by rwa [List.append_nil]
  have hsilent : p.Silent (u.getLast?.or none) r [] := by rwa [Option.or_none]
  have hscan := (hfirst.append hsilent.scans).scan (hend _ rfl)
  exact ⟨m, by simpa using hscan, hstart, by simpa using hstop, hks⟩

end Pattern

end TestScaffold
