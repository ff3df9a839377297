import TestScaffold.Proofs.Swift.Declared
import TestScaffold.Proofs.Swift.ViewNames

namespace TestScaffold.Swift

open Text Pattern

variable {keywords : List (List Char)} {cs x : List Char} {n : Nat}

def NamedAt (keywords : List (List Char)) (cs : List Char) (n : Nat) (x : List Char) : Prop :=
  IsNameText x ∧ ∃ front gap rest, cs = front ++ gap ++ x ++ rest ∧ n = (front ++ gap).length ∧
    (∀ c ∈ gap, isBlank c = true) ∧ ∃ w ∈ keywords, w <:+ front

theorem NamedAt.last (h : NamedAt keywords cs n x) (hsmall : ∀ w ∈ keywords, IsSmallWord w) :
    ∃ w ∈ keywords, (dropEndWhile isBlank (cs.take n)).getLast? = w.getLast? := by
  obtain ⟨-, front, gap, rest, rfl, rfl, hgap, w, hw, u, rfl⟩ := h
  refine ⟨w, hw, ?_⟩
  obtain ⟨hne, hchars⟩ := hsmall w hw
  rcases List.eq_nil_or_concat w with rfl | ⟨v, c, rfl⟩
  · exact absurd rfl hne
  · have hc : isBlank c = false :=
      isBlank_eq_false_of_isWord (isWord_of_isSmall (hchars c (by simp)))
    have htake : (u ++ v.concat c ++ gap ++ x ++ rest).take (u ++ v.concat c ++ gap).length =
        (u ++ v) ++ [c] ++ gap := by
      rw [List.append_assoc _ x, List.take_left]
      simp
    have hdrop : dropEndWhile isBlank ((u ++ v) ++ [c] ++ gap) = (u ++ v) ++ [c] := by
      rw [dropEndWhile, List.reverse_append, List.dropWhile_append_of_pos (by simpa using hgap)]
      exact dropEndWhile_append_of_neg hc
    rw [htake, hdrop]
    simp

def Names (keywords : List (List Char)) (p : Grammar) : Prop :=
  ∀ b o r, ∀ t ∈ p.ways ⟨b, o, r, []⟩, ∃ front gap x rest, r = front ++ gap ++ x ++ rest ∧
    IsNameText x ∧ (∀ c ∈ gap, isBlank c = true) ∧ (∃ w ∈ keywords, w <:+ front) ∧
    t.captures.find? (·.1 = .name) =
      some (.name, ⟨o + (front ++ gap).length, x ++ rest, x.length⟩) ∧
    o + (front ++ gap).length < t.offset

namespace Grammar

theorem names_of {extra : List String} {keyword q : Grammar} {ps : List Grammar}
    (hkeyword : ∀ s, ∀ t ∈ keyword.ways s, ∃ w ∈ keywords, s.Reads w t)
    (hrest : (all (q :: ps)).Captures .name fun _ => False) :
    Names keywords (all (qualifiers extra :: wordEdge :: keyword :: someBlanks ::
      .capture .name name :: q :: ps)) := by
  intro b o r t h
  obtain ⟨m₁, h₁, h⟩ := mem_all_cons.1 h
  obtain ⟨m₂, h₂, h⟩ := mem_all_cons.1 h
  obtain ⟨m₃, h₃, h⟩ := mem_all_cons.1 h
  obtain ⟨m₄, h₄, h⟩ := mem_all_cons.1 h
  obtain ⟨m₅', h₅', h⟩ := mem_all_cons.1 h
  obtain ⟨m₅, h₅, rfl⟩ := mem_capture.1 h₅'
  rw [(mem_wordEdge h₂).2] at h₃
  obtain ⟨u, hu⟩ := reads_of_mem h₁
  obtain ⟨w, hw, hword⟩ := hkeyword _ _ h₃
  obtain ⟨c, v, hv, hc, hblank⟩ := mem_someBlanks h₄
  obtain ⟨x, hx, hname⟩ := captures_name.2 rfl _ _ h₅
  obtain ⟨z, hz⟩ := reads_of_mem h
  have hfront := (hu.trans hword).trans hv
  refine ⟨u ++ w, c :: v, x, m₅.ahead, ?_, hname, List.forall_mem_cons.2 ⟨hc, hblank⟩,
    ⟨w, hw, List.suffix_append u w⟩, ?_, ?_⟩
  · rw [show r = _ from hfront.ahead, hx.ahead, List.append_assoc _ x]
  · rw [hrest.find?_eq h]
    have hcapture : (m₅.capture .name m₄).captures.find? (·.1 = .name) =
        some (.name, m₄.upTo m₅) := rfl
    rw [hcapture, Cursor.upTo, hfront.offset, hx.ahead, hx.offset, hfront.offset]
    simp
  · have hlength := List.length_pos_of_ne_nil hname.1
    have hend := (hfront.trans hx).offset
    have hstop : t.offset = m₅.offset + z.length := hz.offset
    rw [List.length_append] at hend
    simp only at hend
    omega

theorem names_function : Names ["func".toList] function := by
  refine names_of (fun s t ht => ⟨_, List.mem_singleton_self _, reads_lit ht⟩) ?_
  have heffects : (Pattern.star (.seq (any [lit "async", lit "throws", lit "rethrows"]) blanks) :
      Grammar).Captures .name fun _ => False :=
    ⟨captures_any_lit ["async", "throws", "rethrows"], trivial⟩
  have hreturns : (all [lit "->", blanks,
      .capture .returns (plusLazy (except ['\x7b', '\n']))] : Grammar).Captures .name fun _ => False :=
    ⟨captures_lit _, trivial, captures_other (by decide) ⟨trivial, trivial⟩⟩
  have hparameters : parameters.Captures .name fun _ => False := ⟨trivial, trivial, trivial, trivial⟩
  exact ⟨trivial, captures_optional ⟨trivial, trivial, trivial⟩, trivial, trivial,
    captures_other (by decide) hparameters, trivial, trivial,
    captures_other (by decide) heffects, captures_optional hreturns, trivial, trivial,
    ⟨trivial, captures_lit _, trivial⟩, trivial⟩

theorem names_property : Names ["var".toList, "let".toList] property := by
  refine names_of (fun s t ht => ?_) ?_
  · obtain ⟨m, hm, rfl⟩ := mem_capture.1 ht
    rcases mem_alt.1 hm with hm | hm
    · exact ⟨_, List.mem_cons_self, (reads_lit hm).capture⟩
    · exact ⟨_, List.mem_cons_of_mem _ List.mem_cons_self, (reads_lit hm).capture⟩
  · have hsome : (any [lit "some", lit "any"] : Grammar).Captures .name fun _ => False :=
      captures_any_lit ["some", "any"]
    exact ⟨trivial, trivial, trivial, captures_other (by decide)
      ⟨captures_optional ⟨hsome, trivial, trivial⟩,
        ⟨⟨trivial, trivial, captures_optional ⟨trivial, trivial, trivial⟩⟩,
          ⟨trivial, trivial, trivial⟩, trivial, trivial, trivial⟩,
        captures_optional trivial⟩⟩

end Grammar

variable {p : Grammar} {m : Found Slot}

theorem Names.namedAt (h : Names keywords p) (hm : m ∈ p.scan cs) :
    NamedAt keywords cs (m.startOf .name) (m.text .name) ∧
      m.start ≤ m.startOf .name ∧ m.startOf .name < m.stop := by
  obtain ⟨u, r, rfl, hhere⟩ := exists_of_mem_scan hm
  rw [here?_eq] at hhere
  obtain ⟨t, ht, rfl⟩ := Option.map_eq_some_iff.1 hhere
  obtain ⟨front, gap, x, rest, rfl, hname, hgap, ⟨w, hw, hfront⟩, hcapture, hstop⟩ :=
    h _ _ _ t (List.mem_of_head? ht)
  rw [Found.startOf_eq hcapture, Found.text_eq hcapture]
  refine ⟨⟨hname, u ++ front, gap, rest, by simp, by simp, hgap, w, hw,
    hfront.trans (List.suffix_append u front)⟩, Nat.le_add_right _ _, hstop⟩

theorem Names.increasing (h : Names keywords p) (cs : List Char) :
    (p.scan cs).Pairwise fun m m' => m.startOf .name < m'.startOf .name := by
  refine (pairwise_scan p cs).imp_of_mem fun hm hm' hle => ?_
  have hstop := (h.namedAt hm).2.2
  have hstart := (h.namedAt hm').2.1
  omega

variable {d e : Declaration}

theorem namedAt_of_mem_functions (h : d ∈ functions cs) :
    d.kind = .function ∧ NamedAt ["func".toList] cs d.start d.name.toList := by
  obtain ⟨m, hm, rfl⟩ := List.mem_map.1 h
  refine ⟨rfl, ?_⟩
  simpa [functionOf, Found.string] using (Grammar.names_function.namedAt hm).1

theorem namedAt_of_mem_properties (h : d ∈ properties cs) :
    d.kind = .property ∧ NamedAt ["var".toList, "let".toList] cs d.start d.name.toList := by
  obtain ⟨m, hm, rfl⟩ := List.mem_map.1 h
  refine ⟨rfl, ?_⟩
  simpa [propertyOf, Found.string] using (Grammar.names_property.namedAt hm).1

theorem increasing_functions (cs : List Char) : (functions cs).Pairwise (·.start < ·.start) :=
  List.pairwise_map.2 (Grammar.names_function.increasing cs)

theorem increasing_properties (cs : List Char) : (properties cs).Pairwise (·.start < ·.start) :=
  List.pairwise_map.2 (Grammar.names_property.increasing cs)

theorem start_ne_of_mem (hd : d ∈ functions cs) (he : e ∈ properties cs) : d.start ≠ e.start := by
  intro heq
  obtain ⟨w, hw, hlast⟩ := (namedAt_of_mem_functions hd).2.last (by decide)
  obtain ⟨v, hv, hlast'⟩ := (namedAt_of_mem_properties he).2.last (by decide)
  rw [heq, hlast'] at hlast
  simp only [List.mem_cons, List.not_mem_nil, or_false] at hw hv
  subst hw
  rcases hv with rfl | rfl <;> revert hlast <;> decide

end TestScaffold.Swift
