import TestScaffold.Proofs.Pattern.Scanning

namespace TestScaffold

universe u

theorem Cursor.Reads.text_upTo {ι : Type u} {s t : Cursor ι} {u : List Char} (h : s.Reads u t) :
    (s.upTo t).text = u := by
  rw [Cursor.upTo, Stretch.text, h.ahead, h.offset, Nat.add_sub_cancel_left, List.take_left]

namespace Pattern

variable {ι : Type u} {p : Pattern ι} {i : ι} {s t : Cursor ι} {P : List Char → Prop}

def Captures (i : ι) (P : List Char → Prop) : Pattern ι → Prop
  | .empty => True
  | .one _ => True
  | .place _ => True
  | .seq p q => p.Captures i P ∧ q.Captures i P
  | .alt p q => p.Captures i P ∧ q.Captures i P
  | .many _ p => p.Captures i P
  | .capture j p => p.Captures i P ∧ (j = i → ∀ s, ∀ t ∈ p.ways s, ∃ u, s.Reads u t ∧ P u)

def Always (i : ι) : Pattern ι → Prop
  | .empty => False
  | .one _ => False
  | .place _ => False
  | .seq p q => p.Always i ∨ q.Always i
  | .alt p q => p.Always i ∧ q.Always i
  | .many _ _ => False
  | .capture j p => j = i ∨ p.Always i

theorem captures_all {ps : List (Pattern ι)} (h : ∀ p ∈ ps, p.Captures i P) :
    (all ps).Captures i P := by
  induction ps with
  | nil => trivial
  | cons p ps ih =>
    cases ps with
    | nil => exact h p List.mem_cons_self
    | cons q ps => exact ⟨h p List.mem_cons_self, ih fun p hp => h p (List.mem_cons_of_mem _ hp)⟩

theorem captures_any {ps : List (Pattern ι)} (h : ∀ p ∈ ps, p.Captures i P) :
    (any ps).Captures i P := by
  induction ps with
  | nil => trivial
  | cons p ps ih =>
    cases ps with
    | nil => exact h p List.mem_cons_self
    | cons q ps => exact ⟨h p List.mem_cons_self, ih fun p hp => h p (List.mem_cons_of_mem _ hp)⟩

theorem captures_lit (w : String) : (lit w : Pattern ι).Captures i P := by
  apply captures_all
  intro p hp
  obtain ⟨c, -, rfl⟩ := List.mem_map.1 hp
  trivial

theorem captures_any_lit (ws : List String) : (any (ws.map lit) : Pattern ι).Captures i P := by
  apply captures_any
  intro p hp
  obtain ⟨w, -, rfl⟩ := List.mem_map.1 hp
  exact captures_lit w

theorem always_all {ps : List (Pattern ι)} (hp : p ∈ ps) (h : p.Always i) : (all ps).Always i := by
  induction ps with
  | nil => cases hp
  | cons q ps ih =>
    cases ps with
    | nil =>
      obtain rfl := List.mem_singleton.1 hp
      exact h
    | cons r ps =>
      rcases List.mem_cons.1 hp with rfl | hp
      · exact .inl h
      · exact .inr (ih hp)

theorem repeats_rel {R : Cursor ι → Cursor ι → Prop} {step : Cursor ι → List (Cursor ι)}
    (refl : ∀ s, R s s) (trans : ∀ {s m t}, R s m → R m t → R s t)
    (h : ∀ s, ∀ t ∈ step s, R s t) (greedy : Bool) (left : List Char)
    (ht : t ∈ repeats step greedy left s) : R s t := by
  induction left generalizing s with
  | nil =>
    obtain rfl := List.mem_singleton.1 ht
    exact refl t
  | cons c left ih =>
    rcases mem_repeats.1 ht with ⟨m, hm, -, ht⟩ | rfl
    · exact trans (h s m hm) (ih ht)
    · exact refl t

theorem captures_suffix (ht : t ∈ p.ways s) : s.captures <:+ t.captures := by
  induction p generalizing s t with
  | empty =>
    obtain rfl := List.mem_singleton.1 ht
    exact List.suffix_refl _
  | one f =>
    obtain ⟨c, r, -, -, rfl⟩ := mem_one.1 ht
    exact List.suffix_refl _
  | place f =>
    obtain ⟨-, rfl⟩ := mem_place.1 ht
    exact List.suffix_refl _
  | seq p q hp hq =>
    obtain ⟨m, hm, ht⟩ := mem_seq.1 ht
    exact (hp hm).trans (hq ht)
  | alt p q hp hq =>
    rcases mem_alt.1 ht with ht | ht
    · exact hp ht
    · exact hq ht
  | many greedy p hp =>
    let R (s t : Cursor ι) : Prop := s.captures <:+ t.captures
    exact repeats_rel (R := R) (fun s => List.suffix_refl _) List.IsSuffix.trans
      (fun _ _ ht => hp ht) greedy s.ahead ht
  | capture j p hp =>
    obtain ⟨m, hm, rfl⟩ := mem_capture.1 ht
    exact (hp hm).trans (List.suffix_cons _ _)

theorem Always.exists_captured (h : p.Always i) (ht : t ∈ p.ways s) : ∃ x, (i, x) ∈ t.captures := by
  induction p generalizing s t with
  | empty => cases h
  | one => cases h
  | place => cases h
  | seq p q hp hq =>
    obtain ⟨m, hm, ht⟩ := mem_seq.1 ht
    rcases h with h | h
    · obtain ⟨x, hx⟩ := hp h hm
      exact ⟨x, (captures_suffix ht).subset hx⟩
    · exact hq h ht
  | alt p q hp hq =>
    rcases mem_alt.1 ht with ht | ht
    · exact hp h.1 ht
    · exact hq h.2 ht
  | many => cases h
  | capture j p hp =>
    obtain ⟨m, hm, rfl⟩ := mem_capture.1 ht
    rcases h with rfl | h
    · exact ⟨_, List.mem_cons_self⟩
    · obtain ⟨x, hx⟩ := hp h hm
      exact ⟨x, List.mem_cons_of_mem _ hx⟩

theorem Captures.holds (h : p.Captures i P) (ht : t ∈ p.ways s)
    (hs : ∀ x, (i, x) ∈ s.captures → P x.text) : ∀ x, (i, x) ∈ t.captures → P x.text := by
  induction p generalizing s t with
  | empty =>
    obtain rfl := List.mem_singleton.1 ht
    exact hs
  | one f =>
    obtain ⟨c, r, -, -, rfl⟩ := mem_one.1 ht
    exact hs
  | place f =>
    obtain ⟨-, rfl⟩ := mem_place.1 ht
    exact hs
  | seq p q hp hq =>
    obtain ⟨m, hm, ht⟩ := mem_seq.1 ht
    exact hq h.2 ht (hp h.1 hm hs)
  | alt p q hp hq =>
    rcases mem_alt.1 ht with ht | ht
    · exact hp h.1 ht hs
    · exact hq h.2 ht hs
  | many greedy p hp =>
    let R (s t : Cursor ι) : Prop :=
      (∀ x, (i, x) ∈ s.captures → P x.text) → ∀ x, (i, x) ∈ t.captures → P x.text
    have hstep : ∀ s, ∀ t ∈ p.ways s, R s t := fun s t ht => hp h ht
    exact repeats_rel (R := R) (fun _ => id) (fun hm ht hs => ht (hm hs)) hstep greedy s.ahead ht hs
  | capture j p hp =>
    obtain ⟨m, hm, rfl⟩ := mem_capture.1 ht
    intro x hx
    rcases List.mem_cons.1 hx with heq | hx
    · cases heq
      obtain ⟨u, hu, hP⟩ := h.2 rfl s m hm
      rwa [hu.text_upTo]
    · exact hp h.1 hm hs x hx

theorem Captures.find?_eq [DecidableEq ι] (h : p.Captures i fun _ => False) (ht : t ∈ p.ways s) :
    t.captures.find? (·.1 = i) = s.captures.find? (·.1 = i) := by
  induction p generalizing s t with
  | empty =>
    obtain rfl := List.mem_singleton.1 ht
    rfl
  | one f =>
    obtain ⟨c, r, -, -, rfl⟩ := mem_one.1 ht
    rfl
  | place f =>
    obtain ⟨-, rfl⟩ := mem_place.1 ht
    rfl
  | seq p q hp hq =>
    obtain ⟨m, hm, ht⟩ := mem_seq.1 ht
    rw [hq h.2 ht, hp h.1 hm]
  | alt p q hp hq =>
    rcases mem_alt.1 ht with ht | ht
    · exact hp h.1 ht
    · exact hq h.2 ht
  | many greedy p hp =>
    let R (s t : Cursor ι) : Prop := t.captures.find? (·.1 = i) = s.captures.find? (·.1 = i)
    exact repeats_rel (R := R) (fun _ => rfl) (fun hm ht => Eq.trans ht hm) (fun _ _ ht => hp h ht)
      greedy s.ahead ht
  | capture j p hp =>
    obtain ⟨m, hm, rfl⟩ := mem_capture.1 ht
    have hne : j ≠ i := fun hj => (h.2 hj s m hm).elim fun _ hu => hu.2
    have hcons : (m.capture j s).captures.find? (·.1 = i) = m.captures.find? (·.1 = i) :=
      List.find?_cons_of_neg (by simpa using hne)
    rw [hcons, hp h.1 hm]

variable [DecidableEq ι] {m : Found ι} {cs : List Char}

theorem text_of_here? (h : p.Captures i P) (halways : p.Always i) {b : Option Char} {o : Nat}
    (hm : p.here? ⟨b, o, cs, []⟩ = some m) : P (m.text i) := by
  rw [here?_eq] at hm
  obtain ⟨t, ht, rfl⟩ := Option.map_eq_some_iff.1 hm
  have hway := List.mem_of_head? ht
  obtain ⟨x, hx⟩ := halways.exists_captured hway
  cases hfind : t.captures.find? (·.1 = i) with
  | none =>
    have hne := List.find?_eq_none.1 hfind (i, x) hx
    simp at hne
  | some e =>
    obtain ⟨j, y⟩ := e
    obtain rfl : j = i := by simpa using List.find?_some hfind
    have hP := h.holds hway (by simp) y (List.mem_of_find?_eq_some hfind)
    simpa [Found.text, Found.text?, Found.stretch?, hfind] using hP

theorem text_of_search? (h : p.Captures i P) (halways : p.Always i) (hm : p.search? cs = some m) :
    P (m.text i) := by
  obtain ⟨u, r, -, hhere, -⟩ := search?_eq_some_iff.1 hm
  exact text_of_here? h halways hhere

theorem text_of_scanFrom (h : p.Captures i P) (halways : p.Always i) {free o : Nat} {b : Option Char}
    (hm : m ∈ p.scanFrom free b o cs) : P (m.text i) := by
  induction cs generalizing free b o with
  | nil =>
    rw [scanFrom] at hm
    split at hm
    · cases hm
    · exact text_of_here? h halways (by simpa using hm)
  | cons c cs ih =>
    rw [scanFrom] at hm
    split at hm
    · exact ih hm
    · split at hm
      · rename_i m' hhere
        rcases List.mem_cons.1 hm with rfl | hm
        · exact text_of_here? h halways hhere
        · exact ih hm
      · exact ih hm

theorem text_of_scan (h : p.Captures i P) (halways : p.Always i) (hm : m ∈ p.scan cs) :
    P (m.text i) :=
  text_of_scanFrom h halways hm

end Pattern

end TestScaffold
