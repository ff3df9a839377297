import TestScaffold.Proofs.Swift.PrintedElements

namespace TestScaffold.Swift

open Text Pattern

namespace Grammar

variable {b : Option Char} {o : Nat} {l r w : List Char} {k : List (Slot × Stretch)}

theorem prefers_argument {q : Grammar} {ps : List Grammar} {t : Cursor Slot} (hl : IsLiteral l)
    (h : (all (q :: ps)).Prefers ⟨some '"', o + 1 + 1 + l.length + 1, r,
      (.label, ⟨o + 1 + 1, l ++ '"' :: r, l.length⟩) :: k⟩ t) :
    (all (blanks :: Pattern.char '(' :: blanks :: string .label :: q :: ps)).Prefers
      ⟨b, o, '(' :: '"' :: (l ++ '"' :: r), k⟩ t :=
  (prefers_noBlanks (by simp; decide)).cons <| (prefers_char '(').cons <|
    (prefers_noBlanks (by simp; decide)).cons <| (prefers_string hl .label).cons h

theorem prefers_labelled {control : String} (call : Grammar) (hw : IsWordText control.toList)
    (hb : b.any isWord = false) (hl : IsLiteral l) :
    (labelled control call).Prefers ⟨b, o, control.toList ++ '(' :: '"' :: (l ++ '"' :: r), k⟩
      ⟨some '"', o + control.toList.length + 1 + 1 + l.length + 1, r,
        (.label, ⟨o + control.toList.length + 1 + 1, l ++ '"' :: r, l.length⟩) :: k⟩ := by
  refine (prefers_wordEdge hw hb).cons <| (prefers_lit control).cons <|
    (prefers_noBlanks (by simp; decide)).cons <| Prefers.any_head ?_
  exact (prefers_char '(').cons <| (prefers_noBlanks (by simp; decide)).cons (prefers_string hl _)

theorem prefers_dotted (ref : Reference)
    (hr : ∀ c ∈ r.head?, isWord c = false ∧ c ≠ '.') : dotted.Prefers ⟨b, o, ref.text ++ r, k⟩
      ⟨ref.text.getLast?.or b, o + ref.text.length, r, k⟩ := by
  obtain ⟨text, hne, hword⟩ := ref
  obtain ⟨c, v, rfl⟩ := List.exists_cons_of_ne_nil hne
  rw [last_cons, add_length_cons]
  exact prefers_plus (by simp [hword c])
    (fun d hd => by simp [hword d (List.mem_cons_of_mem _ hd)])
    (fun d hd => by simp [hr d hd])

theorem prefers_bound {w : String} (ref : Reference)
    (hw : ∀ c ∈ w.toList.head?, isBlank c = false) (hne : w.toList ≠ []) :
    (all [blanks, Pattern.char ',', blanks, lit w, blanks, binding]).Prefers
      ⟨b, o, ',' :: ' ' :: (w.toList ++ ' ' :: '$' :: (ref.text ++ ')' :: r)), k⟩
      ⟨ref.text.getLast?.or (some '$'), o + 1 + 1 + w.toList.length + 1 + 1 + ref.text.length,
        ')' :: r, (.binding, ⟨o + 1 + 1 + w.toList.length + 1,
          '$' :: ref.text ++ ')' :: r, ('$' :: ref.text).length⟩) :: k⟩ := by
  refine (prefers_noBlanks (by simp; decide)).cons <| (prefers_char ',').cons <|
    (prefers_space ?_).cons <| (prefers_lit w).cons <| (prefers_space (by simp; decide)).cons ?_
  · rw [List.head?_append_of_ne_nil _ hne]
    exact hw
  · refine Prefers.capture (u := '$' :: ref.text) ?_ (add_length_cons ..).symm Slot.binding
    exact (Prefers.optional (prefers_char '$')).seq (prefers_dotted ref (by simp; decide))

theorem not_word_of_blank (hb : b.all isBlank = true) : b.any isWord = false := by
  cases b with
  | none => rfl
  | some c => simpa using isWord_eq_false_of_isBlank (by simpa using hb)

theorem freeStanding_of_blank (hb : b.all isBlank = true) :
    (!b.any fun c => isWord c || c == '.') = true := by
  cases b with
  | none => rfl
  | some c =>
    have hc : isBlank c = true := by simpa using hb
    have hdot : c ≠ '.' := by
      rintro rfl
      exact absurd hc (by decide)
    simp [isWord_eq_false_of_isBlank hc, hdot]

theorem prefers_staticText (hb : b.all isBlank = true) (hl : IsLiteral l) : staticText.Prefers
    ⟨b, o, "Text".toList ++ '(' :: '"' :: (l ++ '"' :: ')' :: r), k⟩
    ⟨some ')', o + "Text".toList.length + 1 + 1 + l.length + 1 + 1, r,
      (.label, ⟨o + "Text".toList.length + 1 + 1, l ++ '"' :: ')' :: r, l.length⟩) :: k⟩ :=
  (prefers_place (freeStanding_of_blank hb)).cons <| (prefers_lit "Text").cons <| prefers_argument hl <|
    (prefers_noBlanks (by simp; decide)).cons (prefers_char ')')

theorem prefers_toggle (hb : b.all isBlank = true) (hl : IsLiteral l) (ref : Reference) :
    ∃ x, toggle.Prefers
      ⟨b, o, "Toggle".toList ++ '(' :: '"' :: (l ++ '"' :: ',' :: ' ' ::
        ("isOn:".toList ++ ' ' :: '$' :: (ref.text ++ ')' :: r))), k⟩
      ⟨ref.text.getLast?.or (some '$'),
        o + "Toggle".toList.length + 1 + 1 + l.length + 1 + 1 + 1 + "isOn:".toList.length + 1 + 1 +
          ref.text.length, ')' :: r,
        (.binding, x) :: (.label, ⟨o + "Toggle".toList.length + 1 + 1, l ++ '"' :: ',' :: ' ' ::
          ("isOn:".toList ++ ' ' :: '$' :: (ref.text ++ ')' :: r)), l.length⟩) :: k⟩ :=
  ⟨_, (prefers_wordEdge (by decide) (not_word_of_blank hb)).cons <| (prefers_lit "Toggle").cons <|
    prefers_argument hl <| prefers_bound ref (by decide) (by decide)⟩

theorem prefers_fieldName {w : String} (hw : w = "TextField" ∨ w = "SecureField") :
    (Pattern.alt (lit "TextField") (lit "SecureField")).Prefers ⟨b, o, w.toList ++ r, k⟩
      ⟨w.toList.getLast?.or b, o + w.toList.length, r, k⟩ := by
  rcases hw with rfl | rfl
  · exact (prefers_lit _).left _
  · exact .right (by simp [ways_lit]) (prefers_lit _)

theorem prefers_textInput {w : String} (hw : w = "TextField" ∨ w = "SecureField")
    (hb : b.all isBlank = true) (hl : IsLiteral l) (ref : Reference) :
    ∃ x y, textInput.Prefers
      ⟨b, o, w.toList ++ '(' :: '"' :: (l ++ '"' :: ',' :: ' ' ::
        ("text:".toList ++ ' ' :: '$' :: (ref.text ++ ')' :: r))), k⟩
      ⟨ref.text.getLast?.or (some '$'),
        o + w.toList.length + 1 + 1 + l.length + 1 + 1 + 1 + "text:".toList.length + 1 + 1 +
          ref.text.length, ')' :: r,
        (.binding, x) :: (.label, ⟨o + w.toList.length + 1 + 1, l ++ '"' :: ',' :: ' ' ::
          ("text:".toList ++ ' ' :: '$' :: (ref.text ++ ')' :: r)), l.length⟩) ::
          (.control, ⟨o, w.toList ++ y, w.toList.length⟩) :: k⟩ :=
  ⟨_, _, (prefers_wordEdge (by rcases hw with rfl | rfl <;> decide) (not_word_of_blank hb)).cons <|
    ((prefers_fieldName hw).capture rfl .control).cons <|
      prefers_argument hl <| prefers_bound ref (by decide) (by decide)⟩

end Grammar

theorem labelOf_eq {m : Found Slot} {o : Nat} {l r : List Char}
    (h : m.captures.find? (·.1 = Slot.label) = some (.label, ⟨o, l ++ r, l.length⟩)) :
    labelOf m = String.ofList l := by
  simp [labelOf, Found.string?, Found.text?_eq h]

theorem finds_labelled {control : String} {call : Grammar} {kind : FactKind}
    (hw : IsWordText control.toList)
    (hstarts : ∀ {s t}, t ∈ (Grammar.labelled control call).ways s → Starts [control.toList] s)
    (hkind : ∀ k : Control, k.name.toList = control.toList → k.kind = kind ∧ k.taken = []) :
    Finds (Grammar.labelled control call) (callOf kind) [control.toList] where
  starts _ _ := hstarts
  stop _ := rfl
  finds e hname b o r hb := by
    have hname : e.control.name.toList = control.toList := List.mem_singleton.1 hname
    obtain ⟨hkind, htaken⟩ := hkind _ hname
    have htext : e.call ++ r =
        control.toList ++ '(' :: '"' :: (e.label ++ '"' :: (e.control.tail ++ r)) := by
      simp [Element.call, hname]
    have hp : (Grammar.labelled control call).Prefers ⟨b, o, e.call ++ r, []⟩ _ :=
      htext ▸ Grammar.prefers_labelled _ hw (Grammar.not_word_of_blank hb) e.literal
    refine ⟨_, hp, ?_, fun m hm => ?_⟩
    · simp only [Element.taken, hname, htaken, List.length_append, List.length_cons,
        List.length_nil]
      omega
    · have hlabel : labelOf m = String.ofList e.label := labelOf_eq (by rw [hm]; rfl)
      simp only [callOf, hlabel, Element.item, hkind]

theorem finds_button : Finds Grammar.button (callOf .button) ["Button".toList] :=
  finds_labelled (by decide) Grammar.starts_button fun k hk => by
    cases k <;> simp [Control.name, Control.kind, Control.taken] at hk ⊢

theorem finds_navigationLink :
    Finds Grammar.navigationLink (callOf .navigationLink) ["NavigationLink".toList] :=
  finds_labelled (by decide) Grammar.starts_navigationLink fun k hk => by
    cases k <;> simp [Control.name, Control.kind, Control.taken] at hk ⊢

theorem finds_staticText : Finds Grammar.staticText (callOf .text) ["Text".toList] where
  starts _ _ := Grammar.starts_staticText
  stop _ := rfl
  finds e hname b o r hb := by
    obtain ⟨k, l, hl, hv⟩ := e
    obtain rfl : k = .text := by
      cases k <;> simp [Control.name] at hname ⊢
    have htext : Element.call ⟨.text, l, hl, hv⟩ ++ r =
        "Text".toList ++ '(' :: '"' :: (l ++ '"' :: ')' :: r) := by
      simp [Element.call, Control.name, Control.tail, Control.joint, Control.reference,
        Control.ending]
    have hp : Grammar.staticText.Prefers ⟨b, o, Element.call ⟨.text, l, hl, hv⟩ ++ r, []⟩ _ :=
      htext ▸ Grammar.prefers_staticText hb hl
    refine ⟨_, hp, ?_, fun m hm => ?_⟩
    · simp only [Element.taken, Control.name, Control.taken, List.length_append, List.length_cons,
        List.length_nil]
      omega
    · have hlabel : labelOf m = String.ofList l := labelOf_eq (by rw [hm]; rfl)
      simp only [callOf, hlabel, Element.item, Control.kind]

theorem finds_toggle : Finds Grammar.toggle (callOf .toggle) ["Toggle".toList] where
  starts _ _ := Grammar.starts_toggle
  stop _ := rfl
  finds e hname b o r hb := by
    obtain ⟨k, l, hl, hv⟩ := e
    obtain ⟨ref, rfl⟩ : ∃ ref, k = .toggle ref := by
      cases k <;> simp [Control.name] at hname ⊢
    have htext : Element.call ⟨.toggle ref, l, hl, hv⟩ ++ r =
        "Toggle".toList ++ '(' :: '"' :: (l ++ '"' :: ',' :: ' ' ::
          ("isOn:".toList ++ ' ' :: '$' :: (ref.text ++ ')' :: r))) := by
      simp [Element.call, Control.name, Control.tail, Control.joint, Control.reference,
        Control.ending]
    obtain ⟨x, hp⟩ := Grammar.prefers_toggle (o := o) (k := []) (r := r) hb hl ref
    rw [← htext] at hp
    refine ⟨_, hp, ?_, fun m hm => ?_⟩
    · have hjoint : ", isOn: $".toList.length = "isOn:".toList.length + 4 := rfl
      simp only [Element.taken, Control.name, Control.taken, Reference.behind, List.length_append,
        List.length_cons, hjoint]
      omega
    · have hlabel : labelOf m = String.ofList l := labelOf_eq (by rw [hm]; rfl)
      simp only [callOf, hlabel, Element.item, Control.kind]

def fieldKind (w : String) : FactKind := if w = "SecureField" then .secureField else .textField

theorem finds_textInput : Finds Grammar.textInput (fun m => callOf (fieldKind (m.string .control)) m)
    ["TextField".toList, "SecureField".toList] where
  starts _ _ := Grammar.starts_textInput
  stop _ := rfl
  finds e hname b o r hb := by
    obtain ⟨ref, w, hw, hname, htail, htaken, hkind⟩ : ∃ (ref : Reference) (w : String),
        (w = "TextField" ∨ w = "SecureField") ∧ e.control.name = w ∧
          e.control.tail = ", text: $".toList ++ (ref.text ++ ")".toList) ∧
          e.control.taken = ref.behind ", text: $" ∧ e.control.kind = fieldKind w := by
      obtain ⟨k, l, hl, hv⟩ := e
      cases k with
      | textField ref => exact ⟨ref, _, .inl rfl, rfl, rfl, rfl, rfl⟩
      | secureField ref => exact ⟨ref, _, .inr rfl, rfl, rfl, rfl, rfl⟩
      | _ => simp [Control.name] at hname
    have htext : e.call ++ r = w.toList ++ '(' :: '"' :: (e.label ++ '"' :: ',' :: ' ' ::
        ("text:".toList ++ ' ' :: '$' :: (ref.text ++ ')' :: r))) := by
      simp [Element.call, hname, htail]
    obtain ⟨x, y, hp⟩ :=
      Grammar.prefers_textInput (o := o) (k := []) (r := r) hw hb e.literal ref
    rw [← htext] at hp
    refine ⟨_, hp, ?_, fun m hm => ?_⟩
    · have hjoint : ", text: $".toList.length = "text:".toList.length + 4 := rfl
      simp only [Element.taken, hname, htaken, Reference.behind, List.length_append,
        List.length_cons, hjoint]
      omega
    · have hlabel : labelOf m = String.ofList e.label := labelOf_eq (by rw [hm]; rfl)
      have hfield : m.string .control = w := by
        rw [Found.string_eq (by rw [hm]; rfl), String.ofList_toList]
      simp only [callOf, hlabel, hfield, Element.item, hkind]

end TestScaffold.Swift
