import TestScaffold.Proofs.Swift.Attachments
import TestScaffold.Proofs.Swift.PrintedView

/-!
The identifiers of elements that stand on lines of their own. An element carries what is attached to it.
With nothing attached, it carries what is attached first behind it, as far as the window reaches.
-/

namespace TestScaffold.Swift

open Text Pattern

variable {rows : List Row} {post : List Char} {window : Int}

/-- Kinds, labels and identifiers, where the window reaches so far behind what a pass takes of a call. -/
def identified (window : Nat) : List Row → List (FactKind × String × Option String)
  | [] => []
  | w :: ws =>
    (w.element.control.kind, String.ofList w.element.label,
      w.identifier?.or (nearest? (window - (w.element.control.left ++ w.attached).length) ws)) ::
      identified window ws

def Row.Within (window : Int) (w : Row) : Prop :=
  ∀ a ∈ w.attachment, ((w.element.control.left ++ a.text).length : Int) ≤ window

theorem Row.Within.attachment_eq_none {w : Row} (h : w.Within window) (hneg : window < 0) :
    w.attachment = none := by
  cases ha : w.attachment with
  | none => rfl
  | some a =>
    have := h a ha
    omega

theorem slice_window (start : Nat) (window : Int) (cs : List Char) :
    ∃ m, slice start (start + window) cs = (cs.drop start).take m ∧
      (0 ≤ window → m = window.toNat) := by
  refine ⟨_, rfl, fun h => ?_⟩
  have hstop : ¬ (start + window < 0) := by omega
  simp only [hstop, if_false]
  omega

theorem identifier?_slice {w : Row} {ws : List Row} (hrows : IsRows (w :: ws) post)
    (hwithin : ∀ x ∈ w :: ws, x.Within window) (before : List Char) :
    let stop := before.length + w.gap.length + w.element.taken.length
    identifier? (slice stop (stop + window)
        (before ++ ((w :: ws).flatMap Row.text ++ post))) =
      w.identifier?.or
        (nearest? (window.toNat - (w.element.control.left ++ w.attached).length) ws) := by
  intro stop
  obtain ⟨m, hslice, hm⟩ := slice_window stop window (before ++ ((w :: ws).flatMap Row.text ++ post))
  have hbehind : (before ++ ((w :: ws).flatMap Row.text ++ post)).drop stop =
      w.element.control.left ++ (w.attached ++ (ws.flatMap Row.text ++ post)) := by
    have htext : before ++ ((w :: ws).flatMap Row.text ++ post) =
        (before ++ (w.gap ++ w.element.taken)) ++
          (w.element.control.left ++ (w.attached ++ (ws.flatMap Row.text ++ post))) := by
      simp [w.text_taken]
    have hstop : stop = (before ++ (w.gap ++ w.element.taken)).length := by
      simp [stop, Nat.add_assoc]
    rw [htext, hstop, List.drop_left]
  rw [hslice, hbehind]
  rcases Int.lt_or_le window 0 with hneg | hpos
  · have hnone (x : Row) (hx : x ∈ w :: ws) : x.attachment = none :=
      (hwithin x hx).attachment_eq_none hneg
    have hall (room : Nat) : nearest? room ws = none :=
      nearest?_eq_none (fun x hx => hnone x (List.mem_cons_of_mem w hx)) room
    have hread := identifier?_window (m := m) hrows (by simp [hnone w List.mem_cons_self])
    rw [hread, hall, hall]
  · rw [hm hpos]
    refine identifier?_window hrows fun a ha => ?_
    have := hwithin w List.mem_cons_self a ha
    omega

theorem map_toldOf (kinds : List FactKind) (hrows : IsRows rows post)
    (hwithin : ∀ w ∈ rows, w.Within window) (before : List Char) :
    (placed Row.text (fun o w => if w.element.control.kind ∈ kinds then [w.told o] else [])
        before.length rows).map (fun t => (t.1, t.2.1, identifier? (slice t.2.2 (t.2.2 + window)
          (before ++ (rows.flatMap Row.text ++ post))))) =
      (identified window.toNat rows).filter (kinds.contains ·.1) := by
  induction rows generalizing before with
  | nil => rfl
  | cons w ws ih =>
    have hfirst := identifier?_slice hrows hwithin before
    have hrest := ih hrows.rest (fun x hx => hwithin x (List.mem_cons_of_mem w hx))
      (before ++ w.text)
    rw [List.length_append, List.append_assoc, ← List.append_assoc w.text,
      ← List.flatMap_cons] at hrest
    rw [placed, List.map_append, hrest, identified, List.filter_cons]
    by_cases hkind : w.element.control.kind ∈ kinds
    · rw [if_pos hkind, if_pos (by simpa using hkind), ← hfirst]
      rfl
    · rw [if_neg hkind, if_neg (by simpa using hkind)]
      rfl

theorem elementFacts_rows (hrows : IsRows rows post) (hwithin : ∀ w ∈ rows, w.Within window) :
    (elementFacts window (rows.flatMap Row.text ++ post)).map
        (fun f => (f.kind, f.label, f.identifier)) =
      passKinds.flatMap fun kinds => (identified window.toNat rows).filter (kinds.contains ·.1) := by
  rw [elementFacts_told, flatMap_passes hrows]
  refine List.flatMap_congr fun kinds _ => ?_
  exact map_toldOf kinds hrows hwithin []

theorem not_blankText_of_body? {source : String} {body : List Char}
    (h : body? source.toList = some body) : blankText source = false := by
  cases hsearch : Grammar.bodyOpening.search? source.toList with
  | none => simp [body?, hsearch] at h
  | some m =>
    obtain ⟨u, r, hsource, hhere, -⟩ := search?_eq_some_iff.1 hsearch
    have hways : Grammar.bodyOpening.ways ⟨u.getLast?, u.length, r, []⟩ ≠ [] := fun hnil => by
      rw [here?_eq_none hnil] at hhere
      cases hhere
    obtain ⟨t, ht⟩ := List.exists_mem_of_ne_nil _ hways
    obtain ⟨-, c, z, hahead, -⟩ := Grammar.ledBy_bodyOpening _ t ht
    have hmem : 'v' ∈ source.toList := by
      rw [hsource, show r = _ from hahead]
      simp
    rw [blankText, allBlank, Bool.eq_false_iff]
    intro hall
    exact absurd (List.all_eq_true.1 hall _ hmem) (by decide)

theorem mem_identified {w : Row} (hw : w ∈ rows) (n : Nat) :
    ∃ t ∈ identified n rows, t.1 = w.element.control.kind := by
  induction rows with
  | nil => cases hw
  | cons x xs ih =>
    rcases List.mem_cons.1 hw with rfl | hw
    · exact ⟨_, List.mem_cons_self, rfl⟩
    · obtain ⟨t, ht, hkind⟩ := ih hw
      exact ⟨t, List.mem_cons_of_mem _ ht, hkind⟩

theorem elementFacts_ne_nil (hrows : IsRows rows post) (hwithin : ∀ w ∈ rows, w.Within window)
    (hne : rows ≠ []) : elementFacts window (rows.flatMap Row.text ++ post) ≠ [] := by
  intro hnil
  have hfacts := elementFacts_rows hrows hwithin
  rw [hnil] at hfacts
  obtain ⟨w, hw⟩ := List.exists_mem_of_ne_nil _ hne
  obtain ⟨t, ht, hkind⟩ := mem_identified hw window.toNat
  obtain ⟨kinds, hkinds, hmem⟩ : ∃ kinds ∈ passKinds, w.element.control.kind ∈ kinds := by
    cases w.element.control <;> simp [passKinds, Control.kind]
  have hfound : t ∈ passKinds.flatMap fun kinds =>
      (identified window.toNat rows).filter (kinds.contains ·.1) :=
    List.mem_flatMap.2 ⟨kinds, hkinds, List.mem_filter.2 ⟨ht, by simpa [hkind] using hmem⟩⟩
  rw [← hfacts] at hfound
  cases hfound

/-- With one element on a line, each element is found with its own identifier. One that has none gets
the first that is attached behind it, if the window reaches it, and else none. -/
theorem extract_rows {source : String} (hbody : body? source.toList = some (rows.flatMap Row.text ++ post))
    (hne : rows ≠ []) (hrows : IsRows rows post) (hwithin : ∀ w ∈ rows, w.Within window) :
    ∃ facts, extract window .viewElements source = .ok facts ∧
      facts.map (fun f => (f.kind, f.label, f.identifier)) =
        passKinds.flatMap fun kinds =>
          (identified window.toNat rows).filter (kinds.contains ·.1) := by
  have hscan : (scanElements window source).elements =
      elementFacts window (rows.flatMap Row.text ++ post) := by
    simp only [scanElements, hbody]
    split
    · rename_i hnil
      exact absurd hnil (elementFacts_ne_nil hrows hwithin hne)
    · rfl
  refine ⟨_, ?_, elementFacts_rows hrows hwithin⟩
  simp only [extract, requireText, not_blankText_of_body? hbody, Bool.false_eq_true, if_false]
  rw [← hscan]
  rfl

def saved : Row :=
  ⟨"\n".toList, by decide,
    ⟨.button, "Save".toList, isLiteral_of_plain (by decide), by decide⟩, none⟩

def titled : Row :=
  ⟨"\n".toList, by decide,
    ⟨.text, "Title".toList, isLiteral_of_plain (by decide), by decide⟩,
    some ⟨.method, "title".toList, isLiteral_of_plain (by decide)⟩⟩

theorem isRows_saved_titled : IsRows [saved, titled] "\n".toList where
  lines w hw := by
    obtain rfl := List.mem_singleton.1 hw
    decide
  post := by decide
  labels w hw a ha hmisread := by
    have hparen := hmisread.paren_mem
    simp only [List.mem_cons, List.not_mem_nil, or_false] at hw
    rcases hw with rfl | rfl <;> exact absurd hparen (by decide)

theorem extract_rows_saved_titled :
    ∃ facts, extract 100 .viewElements ("struct V: View \x7b\nvar body: some View \x7b" ++
        "\nButton(\"Save\") \x7b\x7d" ++
        "\nText(\"Title\").accessibilityIdentifier(\"title\")\n\x7d\n\x7d") = .ok facts ∧
      facts.map (fun f => (f.kind, f.label, f.identifier)) =
        [(.button, "Save", some "title"), (.text, "Title", some "title")] := by
  have hbody : body? ("struct V: View \x7b\nvar body: some View \x7b" ++
      "\nButton(\"Save\") \x7b\x7d" ++
      "\nText(\"Title\").accessibilityIdentifier(\"title\")\n\x7d\n\x7d").toList =
      some ([saved, titled].flatMap Row.text ++ "\n".toList) := by
    decide +kernel
  have hwithin : ∀ w ∈ [saved, titled], w.Within 100 := by
    intro w hw a ha
    simp only [List.mem_cons, List.not_mem_nil, or_false] at hw
    rcases hw with rfl | rfl
    · cases ha
    · obtain rfl := Option.some.inj ha
      decide
  obtain ⟨facts, hfacts, hitems⟩ := extract_rows hbody (by simp) isRows_saved_titled hwithin
  refine ⟨facts, hfacts, hitems.trans ?_⟩
  decide +kernel

def extracted (source : String) : Option (List (FactKind × String × Option String)) :=
  (extract 100 .viewElements source).toOption.map (·.map fun f => (f.kind, f.label, f.identifier))

theorem extracted_not_own :
    extracted ("struct V: View \x7b\nvar body: some View \x7b\nButton(\"A\") \x7b\x7d\n" ++
        "Button(\"B\") \x7b\x7d.accessibilityIdentifier(\"b\")\n\x7d\n\x7d") =
      some [(.button, "A", some "b"), (.button, "B", some "b")] ∧
    extracted ("struct V: View \x7b\nvar body: some View \x7b\n" ++
        "Toggle(\"Button(\", isOn: $x).accessibilityIdentifier(\"b\")\n\x7d\n\x7d") =
      some [(.button, ", isOn: $x).accessibilityIdentifier(", none), (.toggle, "Button(", some "b")] ∧
    extracted ("struct V: View \x7b\nvar body: some View \x7b\nText(\"A\")\n" ++
        "Text(\".accessibilityIdentifier(\").accessibilityIdentifier(\"b\")\n\x7d\n\x7d") =
      some [(.text, "A", some ").accessibilityIdentifier("),
        (.text, ".accessibilityIdentifier(", some "b")] ∧
    extracted ("struct V: View \x7b\nvar body: some View \x7b\n" ++
        "Text(\"A\").accessibilityIdentifier(\"\")\n" ++
        "Text(\"B\").accessibilityIdentifier(\"b\\\"c\")\n\x7d\n\x7d") =
      some [(.text, "A", some "b\\"), (.text, "B", some "b\\")] := by
  refine ⟨?_, ?_, ?_, ?_⟩ <;> decide +kernel

end TestScaffold.Swift
