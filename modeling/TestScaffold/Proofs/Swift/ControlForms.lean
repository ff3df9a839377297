import TestScaffold.Proofs.Pattern.Takes
import TestScaffold.Proofs.Swift.PrintedElements

namespace TestScaffold.Swift

open Text Pattern

structure Gap where
  text : List Char
  blank : ∀ c ∈ text, isBlank c = true

def spread : List (List Char) → (Nat → Gap) → List Char
  | [], _ => []
  | piece :: pieces, gaps => piece ++ ((gaps 0).text ++ spread pieces fun i => gaps (i + 1))

theorem Gap.not_mem {c : Char} (g : Gap) (hc : isBlank c = false) : c ∉ g.text := fun hmem => by
  simp [g.blank c hmem] at hc

structure Unbraced where
  text : List Char
  opening : '\x7b' ∉ text
  closing : '\x7d' ∉ text

theorem Unbraced.not_brace_of_mem (u : Unbraced) (g : Gap) :
    ∀ c ∈ g.text ++ u.text, c ≠ '\x7b' ∧ c ≠ '\x7d' := by
  intro c hc
  rcases List.mem_append.1 hc with hc | hc
  · have hgap {d : Char} (hd : isBlank d = false) : c ≠ d := ne_of_mem_of_not_mem hc (g.not_mem hd)
    exact ⟨hgap (by decide), hgap (by decide)⟩
  · exact ⟨ne_of_mem_of_not_mem hc u.opening, ne_of_mem_of_not_mem hc u.closing⟩

inductive Handler where
  | closure (body : Unbraced)
  | function (name : Reference)

def Handler.pieces : Handler → List (List Char)
  | .closure body => ["action:".toList, ['\x7b'], body.text ++ ['\x7d'], [')']]
  | .function name => ["action:".toList, name.text ++ [')']]

structure Destination where
  text : List Char
  opening : '\x7b' ∉ text

def Destination.pieces (d : Destination) : List (List Char) :=
  ["destination:".toList, d.text ++ ['('], [')'], [')']]

inductive LabelView where
  | text | label

def LabelView.name : LabelView → String
  | .text => "Text"
  | .label => "Label"

def LabelView.opening (v : LabelView) : List (List Char) := [['\x7b'], v.name.toList ++ ['(']]

inductive Labelling (α : Type) where
  | argument
  | content (call : α) (view : LabelView)
  | trailing (action : Unbraced) (view : LabelView)

namespace Labelling

variable {α : Type}

def front (control : String) (pieces : α → List (List Char)) : Labelling α → List (List Char)
  | .argument => [control.toList ++ ['(']]
  | .content call view => (control.toList ++ ['(']) :: (pieces call ++ view.opening)
  | .trailing action view =>
    (control.toList ++ [' ', '\x7b']) :: (action.text ++ ['\x7d']) :: "label:".toList :: view.opening

def back : Labelling α → List (List Char)
  | .argument => [[')']]
  | _ => [[')'], ['\x7d']]

def slot : Labelling α → Slot
  | .argument => .label
  | .content _ _ => .content
  | .trailing _ _ => .trailing

end Labelling

inductive ControlForm where
  | button (labelling : Labelling Handler)
  | textField (binding : Reference)
  | secureField (binding : Reference)
  | text
  | toggle (binding : Reference)
  | navigationLink (labelling : Labelling Destination)

structure WrittenControl where
  form : ControlForm
  label : List Char
  literal : IsLiteral label
  gaps : Nat → Gap
  gapsBehind : Nat → Gap

namespace WrittenControl

def quoted (w : WrittenControl) : List Char := '"' :: (w.label ++ ['"'])

def front (w : WrittenControl) : List (List Char) :=
  match w.form with
  | .button l => l.front "Button" Handler.pieces
  | .textField _ => ["TextField(".toList, w.quoted ++ [','], "text:".toList]
  | .secureField _ => ["SecureField(".toList, w.quoted ++ [','], "text:".toList]
  | .text => ["Text(".toList]
  | .toggle _ => ["Toggle(".toList, w.quoted ++ [','], "isOn:".toList]
  | .navigationLink l => l.front "NavigationLink" Destination.pieces

def last (w : WrittenControl) : List Char :=
  match w.form with
  | .button _ | .navigationLink _ => w.quoted
  | .text => w.quoted ++ [')']
  | .textField b | .secureField b | .toggle b => '$' :: b.text

def back (w : WrittenControl) : List (List Char) :=
  match w.form with
  | .button l => l.back
  | .navigationLink l => l.back
  | .text => [[]]
  | .textField _ | .secureField _ | .toggle _ => [[')']]

def taken (w : WrittenControl) : List Char := spread w.front w.gaps ++ w.last

def text (w : WrittenControl) : List Char := w.taken ++ spread w.back w.gapsBehind

def kind (w : WrittenControl) : FactKind :=
  match w.form with
  | .button _ => .button
  | .textField _ => .textField
  | .secureField _ => .secureField
  | .text => .text
  | .toggle _ => .toggle
  | .navigationLink _ => .navigationLink

def binding (w : WrittenControl) : Option String :=
  match w.form with
  | .textField b | .secureField b | .toggle b => some (String.ofList ('$' :: b.text))
  | _ => none

def pass (w : WrittenControl) : List Char → List ElementCall :=
  match w.form with
  | .button _ => buttons
  | .textField _ | .secureField _ => textInputs
  | .text => staticTexts
  | .toggle _ => toggles
  | .navigationLink _ => navigationLinks

end WrittenControl

namespace Grammar

variable {s : Cursor Slot} {l r x : List Char} {g : Gap} {i : Slot}

theorem takes_blanks (g : Gap) (hr : ∀ c ∈ r.head?, isBlank c = false) : blanks.Takes g.text r [] :=
  takes_run g.blank hr

theorem takes_noBlanks (hr : ∀ c ∈ r.head?, isBlank c = false) : blanks.Takes [] r [] :=
  takes_run (by simp) hr

theorem takes_string (hl : IsLiteral l) (i : Slot) :
    (string i).Takes ('"' :: (l ++ ['"'])) r [(i, l)] := by
  rintro ⟨b, o, ahead, k⟩ rfl
  refine ⟨_, by simpa using prefers_string hl i, rfl, ?_⟩
  simp [captured, Stretch.text]

theorem takes_labelClosure (v : LabelView) (g₁ g₂ : Gap) (hl : IsLiteral l) (i : Slot) :
    (labelClosure i).Takes
      ('\x7b' :: (g₁.text ++ (v.name.toList ++ '(' :: (g₂.text ++ '"' :: (l ++ ['"']))))) r [(i, l)] := by
  have hview : (any [lit "Text", lit "Label"] : Grammar).Takes v.name.toList
      (['('] ++ (g₂.text ++ '"' :: (l ++ ['"'])) ++ r) [] := by
    cases v with
    | text => exact (takes_lit "Text").any_head
    | label =>
      refine Takes.any_tail (fun s hs => ?_) (takes_lit "Label")
      simp [ways_lit, hs, LabelView.name]
  have htext : (labelClosure i).Takes _ r _ :=
    (takes_char '\x7b').cons <| (takes_blanks g₁ ?_).cons <| hview.cons <|
      (takes_noBlanks ?_).cons <| (takes_char '(').cons <| (takes_blanks g₂ ?_).cons <| takes_string hl i
  · simpa using htext
  · cases v <;> (rintro c ⟨⟩; decide)
  all_goals
    rintro c ⟨⟩
    decide

theorem takes_closure (hx : ∀ c ∈ x, c ≠ '\x7b' ∧ c ≠ '\x7d') :
    closure.Takes ('\x7b' :: (x ++ ['\x7d'])) r [] := by
  have hbody : (star (except ['\x7b', '\x7d']) : Grammar).Takes x (['\x7d'] ++ r) [] := by
    refine takes_run (fun c hc => ?_) ?_
    · simpa using hx c hc
    · rintro c ⟨⟩
      decide
  have hclosure : closure.Takes _ r _ := (takes_char '\x7b').cons <| hbody.cons <| takes_char '\x7d'
  simpa using hclosure

theorem ways_eq_nil_of_head {p : Grammar} {c d : Char}
    (hp : ∀ {s t : Cursor Slot}, t ∈ p.ways s → ∃ r, s.ahead = c :: r) (hne : c ≠ d)
    (hs : s.ahead = d :: r) : p.ways s = [] := by
  refine List.eq_nil_iff_forall_not_mem.2 fun t ht => ?_
  obtain ⟨x, hx⟩ := hp ht
  rw [hs] at hx
  exact hne (List.cons.inj hx).1.symm

theorem takes_dotted (ref : Reference) (hr : ∀ c ∈ r.head?, isWord c = false ∧ c ≠ '.') :
    dotted.Takes ref.text r [] :=
  takes_plus ref.ne_nil (fun c hc => by simp [ref.word c hc]) fun c hc => by simp [hr c hc]

theorem ways_argument_eq_nil {c : Char} (hc : isBlank c = false) (hquote : c ≠ '"')
    (hs : s.ahead = '(' :: (g.text ++ c :: r)) :
    (all [Pattern.char '(', blanks, string i]).ways s = [] := by
  refine List.eq_nil_iff_forall_not_mem.2 fun t ht => ?_
  obtain ⟨m₁, h₁, ht⟩ := mem_all_cons.1 ht
  obtain ⟨m₂, h₂, ht⟩ := mem_all_cons.1 ht
  obtain ⟨v, hv, hvb⟩ := mem_blanks h₂
  obtain ⟨l, hl, -⟩ := mem_string ht
  have hahead : g.text ++ c :: r = v ++ '"' :: (l ++ '"' :: t.ahead) := by
    have hparen := mem_char h₁
    rw [hs, hv.ahead, hl] at hparen
    exact (List.cons.inj hparen).2
  obtain ⟨-, rfl, -⟩ := run_unique g.blank hvb hc (by decide) hahead
  exact hquote rfl

def labelText (pieces : List (List Char)) (gaps : Nat → Gap) (l : List Char) : List Char :=
  spread pieces gaps ++ '"' :: (l ++ ['"'])

def handlerParts : List Grammar :=
  [Pattern.char '(', blanks, lit "action:", blanks, .alt closure dotted, blanks, Pattern.char ')']

def destinationParts : List Grammar :=
  [Pattern.char '(', blanks, lit "destination:", starLazy (except ['\x7b']), Pattern.char ')']

theorem takes_handlerContent (h : Handler) (v : LabelView) (gaps : Nat → Gap) (hl : IsLiteral l) :
    (all [all handlerParts, blanks, labelClosure .content]).Takes
      (labelText (['('] :: (h.pieces ++ v.opening)) gaps l) r [(.content, l)] := by
  refine Takes.group ?_
  cases h with
  | closure body =>
    have hcall : (all (handlerParts ++ [blanks, labelClosure .content])).Takes _ r _ :=
      (takes_char '(').cons <| (takes_blanks (gaps 0) ?_).cons <| (takes_lit "action:").cons <|
        (takes_blanks (gaps 1) ?_).cons <|
          ((takes_closure (body.not_brace_of_mem (gaps 2))).left dotted).cons <|
          (takes_blanks (gaps 3) ?_).cons <| (takes_char ')').cons <| (takes_blanks (gaps 4) ?_).cons <|
            takes_labelClosure v (gaps 5) (gaps 6) hl .content
    · simpa [handlerParts, labelText, spread, Handler.pieces, LabelView.opening] using hcall
    all_goals
      rintro c ⟨⟩
      decide
  | function name =>
    obtain ⟨c, w, hname, hc⟩ := IsWordText.head ⟨name.ne_nil, name.word⟩
    have hclosure (s : Cursor Slot) {x : List Char} (hs : s.ahead = name.text ++ x) :
        closure.ways s = [] := by
      refine ways_eq_nil_of_head (c := '\x7b') (fun {s t} h => ?_) ?_ (hs.trans (by rw [hname]; rfl))
      · obtain ⟨m, hm, -⟩ := mem_all_cons.1 h
        exact ⟨_, mem_char hm⟩
      · rintro rfl
        exact absurd hc (by decide)
    have hcall : (all (handlerParts ++ [blanks, labelClosure .content])).Takes _ r _ :=
      (takes_char '(').cons <| (takes_blanks (gaps 0) ?_).cons <| (takes_lit "action:").cons <|
        (takes_blanks (gaps 1) ?_).cons <|
          (Takes.right (fun s hs => hclosure s hs) (takes_dotted name ?_)).cons <|
            (takes_noBlanks ?_).cons <| (takes_char ')').cons <| (takes_blanks (gaps 2) ?_).cons <|
              takes_labelClosure v (gaps 3) (gaps 4) hl .content
    · simpa [handlerParts, labelText, spread, Handler.pieces, LabelView.opening] using hcall
    on_goal 2 =>
      rw [hname]
      rintro d ⟨⟩
      exact isBlank_eq_false_of_isWord hc
    all_goals
      rintro d ⟨⟩
      decide

theorem takes_destinationContent (d : Destination) (v : LabelView) (gaps : Nat → Gap)
    (hl : IsLiteral l) :
    (all [all destinationParts, blanks, labelClosure .content]).Takes
      (labelText (['('] :: (d.pieces ++ v.opening)) gaps l) r [(.content, l)] := by
  refine Takes.group ?_
  let type := (gaps 1).text ++ (d.text ++ '(' :: ((gaps 2).text ++ ')' :: (gaps 3).text))
  have htype : '\x7b' ∉ type := by
    have hgap (i : Nat) : '\x7b' ∉ (gaps i).text := (gaps i).not_mem (by decide)
    simp [type, hgap, d.opening]
  -- Only behind the last parenthesis blanks lead to a brace.
  have hdead (a : List Char) (c : Char) (w x : List Char) (htext : type = a ++ c :: w)
      (m : Cursor Slot) (hm : m.ahead = c :: w ++ (')' :: ((gaps 4).text ++ '\x7b' :: x))) :
      (all [Pattern.char ')', blanks, labelClosure .content]).ways m = [] := by
    refine List.eq_nil_iff_forall_not_mem.2 fun t ht => ?_
    obtain ⟨m₁, h₁, ht⟩ := mem_all_cons.1 ht
    obtain ⟨m₂, h₂, ht⟩ := mem_all_cons.1 ht
    obtain ⟨m₃, h₃, -⟩ := mem_all_cons.1 ht
    obtain ⟨u, hu, hub⟩ := mem_blanks h₂
    have hahead : (w ++ ')' :: (gaps 4).text) ++ '\x7b' :: x = u ++ '\x7b' :: m₃.ahead := by
      have hparen := mem_char h₁
      rw [hm, hu.ahead, mem_char h₃] at hparen
      simpa using (List.cons.inj hparen).2
    have hw : '\x7b' ∉ w := fun hmem => htype (by simp [htext, hmem])
    have hgap : '\x7b' ∉ (gaps 4).text := (gaps 4).not_mem (by decide)
    have hblank : '\x7b' ∉ u := fun hmem => absurd (hub _ hmem) (by decide)
    obtain ⟨rfl, -⟩ := mark_unique (by simp [hw, hgap]) hblank hahead
    exact absurd (hub ')' (by simp)) (by decide)
  have hcall : (all (destinationParts ++ [blanks, labelClosure .content])).Takes _ r _ :=
    (takes_char '(').cons <| (takes_blanks (gaps 0) ?_).cons <| (takes_lit "destination:").cons <|
      Takes.lazy (u := type) ?_ ?_ <| (takes_char ')').cons <| (takes_blanks (gaps 4) ?_).cons <|
        takes_labelClosure v (gaps 5) (gaps 6) hl .content
  · simpa [destinationParts, labelText, spread, Destination.pieces, LabelView.opening, type] using hcall
  · rintro c ⟨⟩
    decide
  · intro c hc
    simpa using ne_of_mem_of_not_mem hc htype
  · intro a c w htext m hm
    exact hdead a c w _ htext m (by simpa using hm)
  · rintro c ⟨⟩
    decide

theorem takes_trailing (action : Unbraced) (v : LabelView) (gaps : Nat → Gap) (hl : IsLiteral l) :
    (all [closure, blanks, lit "label:", blanks, labelClosure .trailing]).Takes
      (labelText (['\x7b'] :: (action.text ++ ['\x7d']) :: "label:".toList :: v.opening) gaps l) r
      [(.trailing, l)] := by
  have hcall : (all [closure, blanks, lit "label:", blanks, labelClosure .trailing]).Takes _ r _ :=
    (takes_closure (action.not_brace_of_mem (gaps 0))).cons <| (takes_blanks (gaps 1) ?_).cons <|
      (takes_lit "label:").cons <| (takes_blanks (gaps 2) ?_).cons <|
        takes_labelClosure v (gaps 3) (gaps 4) hl .trailing
  · simpa [labelText, spread, LabelView.opening] using hcall
  all_goals
    rintro c ⟨⟩
    decide

theorem takesFrom_word {p : Grammar} {ps : List Grammar} {w : List Char} {ks : List (Slot × List Char)}
    (hw : IsWordText w) (h : (all (p :: ps)).Takes (w ++ x) r ks) :
    (all (wordEdge :: p :: ps)).TakesFrom ⟨none, 0, w ++ x ++ r, []⟩ r ks := by
  have hedge : wordEdge.Prefers ⟨none, 0, w ++ x ++ r, []⟩ ⟨none, 0, w ++ x ++ r, []⟩ := by
    rw [List.append_assoc]
    exact prefers_wordEdge hw rfl
  simpa using hedge.takesFrom.cons h

theorem labelled_takesFrom {α : Type} {control : String} {call : Grammar}
    (pieces : α → List (List Char)) (hw : IsWordText control.toList)
    (hcall : ∀ {s t : Cursor Slot}, t ∈ call.ways s → ∃ r, s.ahead = '(' :: r)
    (hpieces : ∀ a, ∃ c p ps, pieces a = (c :: p) :: ps ∧ isBlank c = false ∧ c ≠ '"')
    (hcontent : ∀ a (v : LabelView) gaps, (all [call, blanks, labelClosure .content]).Takes
      (labelText (['('] :: (pieces a ++ v.opening)) gaps l) r [(.content, l)])
    (labelling : Labelling α) (gaps : Nat → Gap) (hl : IsLiteral l) :
    (labelled control call).TakesFrom
      ⟨none, 0, labelText (labelling.front control pieces) gaps l ++ r, []⟩ r [(labelling.slot, l)] := by
  let ways : Grammar := any [
    all [Pattern.char '(', blanks, string .label],
    all [call, blanks, labelClosure .content],
    all [closure, blanks, lit "label:", blanks, labelClosure .trailing]]
  have hfront : ∃ space x, labelText (labelling.front control pieces) gaps l =
      control.toList ++ (space ++ x) ∧ blanks.Takes space (x ++ r) [] ∧
        ways.Takes x r [(labelling.slot, l)] := by
    cases labelling with
    | argument =>
      have hargument : (all [Pattern.char '(', blanks, string .label]).Takes _ r _ :=
        (takes_char '(').cons <| (takes_blanks (gaps 0) ?_).cons <| takes_string hl .label
      · refine ⟨[], _, ?_, takes_noBlanks ?_, hargument.any_head⟩
        · simp [labelText, spread, Labelling.front]
        · rintro c ⟨⟩
          decide
      · rintro c ⟨⟩
        decide
    | content a v =>
      obtain ⟨c, p, ps, hp, hblank, hquote⟩ := hpieces a
      refine ⟨[], labelText (['('] :: (pieces a ++ v.opening)) gaps l, ?_, takes_noBlanks ?_,
        Takes.any_tail (fun s hs => ?_) (hcontent a v gaps).any_head⟩
      · simp [labelText, spread, Labelling.front]
      · rintro c ⟨⟩
        decide
      · obtain ⟨x, hx⟩ : ∃ x, s.ahead = '(' :: ((gaps 0).text ++ c :: x) := by
          rw [hs, hp]
          exact ⟨_, by simp only [labelText, spread, List.cons_append, List.append_assoc]; rfl⟩
        exact ways_argument_eq_nil hblank hquote hx
    | trailing action v =>
      refine ⟨[' '], _, ?_, takes_run (by decide) ?_, Takes.any_tail (fun s hs => ?_) <|
        Takes.any_tail (fun s hs => ?_) (takes_trailing action v gaps hl)⟩
      · simp [labelText, spread, Labelling.front]
      · rintro c ⟨⟩
        decide
      · refine ways_eq_nil_of_head (c := '(') (fun {s t} h => ?_) (by decide) hs
        obtain ⟨m, hm, -⟩ := mem_all_cons.1 h
        exact ⟨_, mem_char hm⟩
      · refine ways_eq_nil_of_head (c := '(') (fun {s t} h => ?_) (by decide) hs
        obtain ⟨m, hm, -⟩ := mem_all_cons.1 h
        exact hcall hm
  obtain ⟨space, x, htext, hspace, hways⟩ := hfront
  have htail : (all [lit control, blanks, ways]).Takes (control.toList ++ (space ++ x)) r _ :=
    (takes_lit control).cons (hspace.cons hways)
  exact htext ▸ takesFrom_word hw htail

theorem takes_binding (ref : Reference) (hr : ∀ c ∈ r.head?, isWord c = false ∧ c ≠ '.') :
    binding.Takes ('$' :: ref.text) r [(.binding, '$' :: ref.text)] := by
  have hbinding : (all [optional (Pattern.char '$'), dotted] : Grammar).Takes _ r _ :=
    (takes_char '$').optional.cons (takes_dotted ref hr)
  exact Takes.capture hbinding Slot.binding

theorem takes_bound {w : String} (ref : Reference) (gaps : Nat → Gap) (hl : IsLiteral l)
    (hw : ∀ c ∈ w.toList.head?, isBlank c = false) (hne : w.toList ≠ [])
    (hr : ∀ c ∈ r.head?, isWord c = false ∧ c ≠ '.') :
    (all [blanks, Pattern.char '(', blanks, string .label, blanks, Pattern.char ',', blanks, lit w,
        blanks, binding]).Takes
      (spread [['('], '"' :: (l ++ ['"']) ++ [','], w.toList] gaps ++ '$' :: ref.text) r
      [(.binding, '$' :: ref.text), (.label, l)] := by
  have hcall : (all [blanks, Pattern.char '(', blanks, string .label, blanks, Pattern.char ',', blanks,
      lit w, blanks, binding]).Takes _ r _ :=
    (takes_noBlanks ?_).cons <| (takes_char '(').cons <| (takes_blanks (gaps 0) ?_).cons <|
      (takes_string hl .label).cons <| (takes_noBlanks ?_).cons <| (takes_char ',').cons <|
        (takes_blanks (gaps 1) ?_).cons <| (takes_lit w).cons <| (takes_blanks (gaps 2) ?_).cons <|
          takes_binding ref hr
  · simpa [spread] using hcall
  on_goal 4 => rwa [List.append_assoc, List.head?_append_of_ne_nil _ hne]
  all_goals
    rintro c ⟨⟩
    decide

theorem takes_fieldName {w : String} (hw : w = "TextField" ∨ w = "SecureField") :
    (Pattern.alt (lit "TextField") (lit "SecureField") : Grammar).Takes w.toList r [] := by
  rcases hw with rfl | rfl
  · exact (takes_lit _).left _
  · exact Takes.right (fun s hs => by simp [ways_lit, hs]) (takes_lit _)

theorem textInput_takesFrom {w : String} (hw : w = "TextField" ∨ w = "SecureField") (ref : Reference)
    (gaps : Nat → Gap) (hl : IsLiteral l) (hr : ∀ c ∈ r.head?, isWord c = false ∧ c ≠ '.') :
    textInput.TakesFrom ⟨none, 0, w.toList ++ (spread [['('], '"' :: (l ++ ['"']) ++ [','],
        "text:".toList] gaps ++ '$' :: ref.text) ++ r, []⟩ r
      [(.binding, '$' :: ref.text), (.label, l), (.control, w.toList)] := by
  have hword : IsWordText w.toList := by rcases hw with rfl | rfl <;> decide
  exact takesFrom_word hword <| ((takes_fieldName hw).capture .control).cons <|
    takes_bound ref gaps hl (by decide) (by decide) hr

theorem toggle_takesFrom (ref : Reference) (gaps : Nat → Gap) (hl : IsLiteral l)
    (hr : ∀ c ∈ r.head?, isWord c = false ∧ c ≠ '.') :
    toggle.TakesFrom ⟨none, 0, "Toggle".toList ++ (spread [['('], '"' :: (l ++ ['"']) ++ [','],
        "isOn:".toList] gaps ++ '$' :: ref.text) ++ r, []⟩ r
      [(.binding, '$' :: ref.text), (.label, l)] :=
  takesFrom_word (by decide) <| (takes_lit "Toggle").cons <|
    takes_bound ref gaps hl (by decide) (by decide) hr

theorem staticText_takesFrom (gaps : Nat → Gap) (hl : IsLiteral l) :
    staticText.TakesFrom ⟨none, 0, labelText ["Text(".toList] gaps l ++ [')'] ++ r, []⟩ r
      [(.label, l)] := by
  have hcall : (all [lit "Text", blanks, Pattern.char '(', blanks, string .label, blanks,
      Pattern.char ')']).Takes _ r _ :=
    (takes_lit "Text").cons <| (takes_noBlanks ?_).cons <| (takes_char '(').cons <|
      (takes_blanks (gaps 0) ?_).cons <| (takes_string hl .label).cons <| (takes_noBlanks ?_).cons <|
        takes_char ')'
  · have htext : (all [lit "Text", blanks, Pattern.char '(', blanks, string .label, blanks,
        Pattern.char ')']).Takes (labelText ["Text(".toList] gaps l ++ [')']) r [(.label, l)] := by
      simpa [labelText, spread] using hcall
    have hfree : freeStanding.Prefers
        ⟨none, 0, labelText ["Text(".toList] gaps l ++ [')'] ++ r, []⟩ _ := prefers_place rfl
    exact hfree.takesFrom.cons htext
  all_goals
    rintro c ⟨⟩
    decide

end Grammar

section

variable {p : Grammar} {names : List (List Char)} {u r l : List Char} {ks : List (Slot × List Char)}

theorem Starts.isWord_head {s : Cursor Slot} (h : Starts names s) : s.ahead.head?.any isWord = true := by
  obtain ⟨w, -, hw, c, r, hahead, -⟩ := h.name
  obtain ⟨d, v, rfl, hd⟩ := hw.head
  simp [hahead, hd]

theorem scan_takes (hstarts : ∀ s, ∀ t ∈ p.ways s, Starts names s)
    (h : p.TakesFrom ⟨none, 0, u ++ r, []⟩ r ks) (hne : u ≠ []) (hr : ∀ c ∈ r, isWord c = false) :
    ∃ m, p.scan (u ++ r) = [m] ∧ m.start = 0 ∧ m.stop = u.length ∧ captured m.captures = ks := by
  have hnone (s : Cursor Slot) (hs : s.ahead.head?.any isWord = false) : p.ways s = [] := by
    refine List.eq_nil_iff_forall_not_mem.2 fun t ht => ?_
    have hword := (hstarts s t ht).isWord_head
    rw [hs] at hword
    cases hword
  refine h.scan hne ?_ fun s hs => hnone s (by simp [hs])
  rintro a c v rfl o
  exact hnone _ (by simpa using hr c (by simp))

end

namespace WrittenControl

variable (w : WrittenControl)

def grammar : Grammar :=
  match w.form with
  | .button _ => .button
  | .textField _ | .secureField _ => .textInput
  | .text => .staticText
  | .toggle _ => .toggle
  | .navigationLink _ => .navigationLink

def captures : List (Slot × List Char) :=
  match w.form with
  | .button l => [(l.slot, w.label)]
  | .textField b => [(.binding, '$' :: b.text), (.label, w.label), (.control, "TextField".toList)]
  | .secureField b => [(.binding, '$' :: b.text), (.label, w.label), (.control, "SecureField".toList)]
  | .text => [(.label, w.label)]
  | .toggle b => [(.binding, '$' :: b.text), (.label, w.label)]
  | .navigationLink l => [(l.slot, w.label)]

theorem exists_starts : ∃ names, ∀ s, ∀ t ∈ w.grammar.ways s, Starts names s := by
  unfold grammar
  cases w.form with
  | button l => exact ⟨_, fun _ _ => Grammar.starts_button⟩
  | textField b => exact ⟨_, fun _ _ => Grammar.starts_textInput⟩
  | secureField b => exact ⟨_, fun _ _ => Grammar.starts_textInput⟩
  | text => exact ⟨_, fun _ _ => Grammar.starts_staticText⟩
  | toggle b => exact ⟨_, fun _ _ => Grammar.starts_toggle⟩
  | navigationLink l => exact ⟨_, fun _ _ => Grammar.starts_navigationLink⟩

theorem taken_ne_nil : w.taken ≠ [] := by
  have hlast : w.last ≠ [] := by
    unfold last
    cases w.form <;> simp [quoted]
  simp [taken, hlast]

theorem isWord_spread {pieces : List (List Char)} (gaps : Nat → Gap)
    (h : ∀ piece ∈ pieces, ∀ c ∈ piece, isWord c = false) :
    ∀ c ∈ spread pieces gaps, isWord c = false := by
  induction pieces generalizing gaps with
  | nil => simp [spread]
  | cons piece pieces ih =>
    intro c hc
    simp only [spread, List.mem_append] at hc
    rcases hc with hc | hc | hc
    · exact h piece List.mem_cons_self c hc
    · exact isWord_eq_false_of_isBlank ((gaps 0).blank c hc)
    · exact ih _ (fun x hx => h x (List.mem_cons_of_mem _ hx)) c hc

theorem isWord_back : ∀ c ∈ spread w.back w.gapsBehind, isWord c = false := by
  apply isWord_spread
  have hlabelling {α : Type} (l : Labelling α) : ∀ piece ∈ l.back, ∀ c ∈ piece, isWord c = false := by
    cases l <;> simp only [Labelling.back] <;> decide
  have hparen : isWord ')' = false := by decide
  unfold back
  cases w.form with
  | button l => exact hlabelling l
  | navigationLink l => exact hlabelling l
  | _ => simp [hparen]

theorem takesFrom :
    w.grammar.TakesFrom ⟨none, 0, w.text, []⟩ (spread w.back w.gapsBehind) w.captures := by
  obtain ⟨form, label, literal, gaps, behind⟩ := w
  cases form with
  | button l =>
    refine Grammar.labelled_takesFrom Handler.pieces (by decide) ?_ ?_ ?_ l gaps literal
    · intro s t h
      obtain ⟨m, hm, -⟩ := mem_all_cons.1 h
      exact ⟨_, Grammar.mem_char hm⟩
    · intro h
      cases h <;> exact ⟨'a', "ction:".toList, _, rfl, by decide, by decide⟩
    · exact fun h v gaps => Grammar.takes_handlerContent h v gaps literal
  | textField b =>
    have h := Grammar.textInput_takesFrom (.inl rfl) b gaps literal (r := spread [[')']] behind)
      (by rintro c ⟨⟩; decide)
    simpa [grammar, text, taken, front, last, back, captures, quoted, spread] using h
  | secureField b =>
    have h := Grammar.textInput_takesFrom (.inr rfl) b gaps literal (r := spread [[')']] behind)
      (by rintro c ⟨⟩; decide)
    simpa [grammar, text, taken, front, last, back, captures, quoted, spread] using h
  | text =>
    have h := Grammar.staticText_takesFrom gaps literal (r := spread [[]] behind)
    simpa [grammar, text, taken, front, last, back, captures, quoted, spread, Grammar.labelText] using h
  | toggle b =>
    have h := Grammar.toggle_takesFrom b gaps literal (r := spread [[')']] behind)
      (by rintro c ⟨⟩; decide)
    simpa [grammar, text, taken, front, last, back, captures, quoted, spread] using h
  | navigationLink l =>
    refine Grammar.labelled_takesFrom Destination.pieces (by decide) ?_ ?_ ?_ l gaps literal
    · intro s t h
      obtain ⟨m, hm, -⟩ := mem_all_cons.1 h
      exact ⟨_, Grammar.mem_char hm⟩
    · exact fun d => ⟨'d', "estination:".toList, _, rfl, by decide, by decide⟩
    · exact fun d v gaps => Grammar.takes_destinationContent d v gaps literal

theorem pass_writtenControl : w.pass w.text =
    [{ kind := w.kind, label := String.ofList w.label, start := 0, stop := w.taken.length,
       binding := w.binding }] := by
  obtain ⟨names, hstarts⟩ := w.exists_starts
  obtain ⟨m, hscan, hstart, hstop, hks⟩ :=
    scan_takes hstarts w.takesFrom w.taken_ne_nil w.isWord_back
  have hfound (call : Found Slot → ElementCall) : (w.grammar.scan w.text).map call = [call m] :=
    congrArg (List.map call) hscan
  have hcall (kind : FactKind) :
      callOf kind m = ⟨kind, labelOf m, 0, w.taken.length, m.string? .binding⟩ := by
    rw [callOf, hstart, hstop]
  have hcaptured (i : Slot) :
      m.string? i = ((w.captures.find? (·.1 = i)).map (·.2)).map String.ofList := by
    rw [Found.string?, Found.text?_captured, hks]
  obtain ⟨form, label, literal, gaps, behind⟩ := w
  cases form with
  | button l =>
    refine (hfound (callOf .button)).trans ?_
    rw [hcall]
    cases l <;> simp [labelOf, hcaptured, captures, kind, binding, Labelling.slot]
  | textField b =>
    have hcontrol : m.string .control = "TextField" := by
      simp [Found.string, Found.text, Found.text?_captured, hks, captures]
    refine (hfound _).trans ?_
    rw [hcall]
    simp [labelOf, hcaptured, captures, kind, binding, hcontrol]
  | secureField b =>
    have hcontrol : m.string .control = "SecureField" := by
      simp [Found.string, Found.text, Found.text?_captured, hks, captures]
    refine (hfound _).trans ?_
    rw [hcall]
    simp [labelOf, hcaptured, captures, kind, binding, hcontrol]
  | text =>
    refine (hfound (callOf .text)).trans ?_
    rw [hcall]
    simp [labelOf, hcaptured, captures, kind, binding]
  | toggle b =>
    refine (hfound (callOf .toggle)).trans ?_
    rw [hcall]
    simp [labelOf, hcaptured, captures, kind, binding]
  | navigationLink l =>
    refine (hfound (callOf .navigationLink)).trans ?_
    rw [hcall]
    cases l <;> simp [labelOf, hcaptured, captures, kind, binding, Labelling.slot]

example : text
    { form := .button (.content (.function ⟨"submit".toList, by decide, by decide⟩) .label)
      label := "Sign In".toList
      literal := isLiteral_of_plain (by decide)
      gaps := fun i => if i = 1 then ⟨[], by decide⟩ else ⟨[' '], by decide⟩
      gapsBehind := fun _ => ⟨['\n'], by decide⟩ } =
    "Button( action:submit) \x7b Label( \"Sign In\")\n\x7d\n".toList := by decide

end WrittenControl

end TestScaffold.Swift
