import TestScaffold.Extraction
import TestScaffold.Proofs.Swift.Body
import TestScaffold.Proofs.Swift.ElementPasses

namespace TestScaffold.Swift

open Text Pattern

variable {d : Nat} {r : List Char}

theorem isPlain_of_isWord {c : Char} (h : isWord c = true) : isPlain c = true := by
  simp only [isPlain, Bool.not_eq_true', List.contains_eq_mem, decide_eq_false_iff_not]
  intro hmem
  simp only [List.mem_cons, List.not_mem_nil, or_false] at hmem
  rcases hmem with rfl | rfl | rfl | rfl <;> exact absurd h (by decide)

theorem upToClose_tail (k : Control) : upToClose .code d (k.tail ++ '\n' :: r) =
    (upToClose .code d r).map fun x => k.tail ++ '\n' :: x := by
  have plain {u : List Char} (hu : ∀ c ∈ u, isPlain c = true) :
      upToClose .code d (u ++ '\n' :: r) = (upToClose .code d r).map fun x => u ++ '\n' :: x := by
    rw [upToClose_plains hu, upToClose_plain (by decide), Option.map_map]
    rfl
  have href (ref : Reference) : ∀ c ∈ ref.text, isPlain c = true :=
    fun c hc => isPlain_of_isWord (ref.word c hc)
  cases k with
  | button =>
    have htail : Control.button.tail = [')', ' ', '\x7b', '\x7d'] := by decide
    simp only [htail, List.cons_append, List.nil_append]
    rw [upToClose_plain (by decide), upToClose_plain (by decide), upToClose_braces,
      upToClose_plain (by decide)]
    simp only [Option.map_map]
    rfl
  | text => exact plain (by decide)
  | _ ref =>
    refine plain ?_
    rintro c hc
    simp only [Control.tail, List.mem_append, Control.reference] at hc
    rcases hc with hc | hc | hc
    · revert c
      simp only [Control.joint]
      decide
    · exact href ref c hc
    · revert c
      simp only [Control.ending]
      decide

theorem Element.label_ne_nil (e : Element) : e.label ≠ [] := by
  intro h
  have hvisible := e.visible
  simp [h, allBlank] at hvisible

theorem upToClose_line (e : Element) :
    upToClose .code d (e.line ++ r) = (upToClose .code d r).map (e.line ++ ·) := by
  have hhead : ∀ c ∈ e.control.name.toList ++ ['('], isPlain c = true := by
    rintro c hc
    rcases List.mem_append.1 hc with hc | hc
    · exact isPlain_of_isWord ((isWordText_name e.control).2 c hc)
    · obtain rfl := List.mem_singleton.1 hc
      decide
  have hline (x : List Char) : e.line ++ x = (e.control.name.toList ++ ['(']) ++
      '"' :: (e.label ++ '"' :: (e.control.tail ++ '\n' :: x)) := by
    simp [Element.line, Element.inside]
  simp only [hline]
  rw [upToClose_plains hhead, upToClose_literal e.literal e.label_ne_nil, upToClose_tail]
  simp only [Option.map_map]
  rfl

theorem upToClose_lines (es : List Element) : upToClose .code d (es.flatMap Element.line ++ r) =
    (upToClose .code d r).map (es.flatMap Element.line ++ ·) := by
  induction es with
  | nil => simp
  | cons e es ih =>
    rw [List.flatMap_cons, List.append_assoc, upToClose_line, ih, Option.map_map]
    simp [Function.comp_def]

def viewHead (name : List Char) : List Char :=
  "import SwiftUI\n".toList ++ ("struct ".toList ++ (name ++ ": View \x7b\n".toList))

def bodyLines (es : List Element) : List Char := '\n' :: es.flatMap Element.line

def bodyText (es : List Element) : List Char :=
  "var body: some View \x7b".toList ++ (bodyLines es ++ "\x7d\n\x7d".toList)

def printedView (name : List Char) (es : List Element) : List Char := viewHead name ++ bodyText es

namespace Grammar

theorem ledBy_bodyOpening : LedBy "var".toList bodyOpening := fun _ _ h =>
  keyword_of_mem (by decide) h

theorem ledBy_bodyDeclaration : LedBy "var".toList bodyDeclaration := fun _ _ h =>
  keyword_of_mem (by decide) h

theorem ledBy_viewDeclaration : LedBy "struct".toList viewDeclaration := fun _ _ h =>
  keyword_of_mem (by decide) h

theorem silent_viewHead {p : Grammar} (h : LedBy "var".toList p) (name : Identifier) :
    p.Silent none (viewHead name.text) r := by
  refine (h.silent_text (by decide) (by decide)).append <|
    (h.silent_text (by decide) (by decide)).append <| Silent.append ?_ ?_
  · exact h.silent_word (by decide) name.isWordText.2 (by decide) (by decide)
  · exact h.silent_text (by decide) (by decide)

theorem prefers_bodyOpening {o : Nat} : bodyOpening.Prefers
    ⟨some '\n', o, "var body: some View \x7b".toList ++ r, []⟩
    ⟨some '\x7b', o + "var body: some View \x7b".toList.length, r, []⟩ :=
  (prefers_wordEdge (w := "var".toList) (by decide) (by decide)).cons <| (prefers_lit "var").cons <|
    (prefers_someSpace (by simp; decide)).cons <| (prefers_lit "body").cons <|
    (prefers_noBlanks (by simp; decide)).cons <| (prefers_char ':').cons <|
    (prefers_space (by simp; decide)).cons <| (prefers_lit "some").cons <|
    (prefers_someSpace (by simp; decide)).cons <| (prefers_lit "View").cons <|
    (prefers_space (by simp; decide)).cons (prefers_char '\x7b')

theorem prefers_bodyDeclaration {o : Nat} : ∃ t, bodyDeclaration.Prefers
    ⟨some '\n', o, "var body: some View \x7b".toList ++ r, []⟩ t :=
  ⟨_, (prefers_wordEdge (w := "var".toList) (by decide) (by decide)).cons <|
    (prefers_lit "var").cons <| (prefers_someSpace (by simp; decide)).cons <|
    (prefers_lit "body").cons (prefers_place (by rfl))⟩

theorem prefers_frameworkImport : ∃ t, frameworkImport.Prefers
    (.ofText ("import SwiftUI\n".toList ++ r)) t :=
  ⟨_, (prefers_place (by rfl)).cons <| (prefers_noBlanks (by simp; decide)).cons <|
    (prefers_skip (by simp [ways, ways_lit])).cons <| (prefers_lit "import").cons <|
    (prefers_someSpace (by simp; decide)).cons <| (prefers_lit "SwiftUI").cons
      (prefers_place (by rfl))⟩

theorem ways_protocol {s : Cursor Slot} (hs : s.ahead = "View \x7b\n".toList ++ r) :
    (all [dotted, blanks, Pattern.char ',', blanks]).ways s = [] := by
  refine List.eq_nil_iff_forall_not_mem.2 fun t ht => ?_
  obtain ⟨m₁, h₁, ht⟩ := mem_all_cons.1 ht
  obtain ⟨m₂, h₂, ht⟩ := mem_all_cons.1 ht
  obtain ⟨m₃, h₃, -⟩ := mem_all_cons.1 ht
  have hover : dotted.Over fun c => isWord c = true ∨ c = '.' := by
    simp [dotted, dottedChar, plus, Pattern.star, Over]
  obtain ⟨u, hu, huw⟩ := hover.reads h₁
  obtain ⟨v, hv, hvb⟩ := mem_blanks h₂
  let p : Char → Bool := fun c => isWord c || c == '.' || isBlank c
  have hcomma : "View ".toList ++ '\x7b' :: ('\n' :: r) = (u ++ v) ++ ',' :: m₃.ahead := by
    rw [List.append_assoc, ← mem_char h₃, ← hv.ahead, ← hu.ahead, hs]
    simp
  have hp : ∀ c ∈ u ++ v, p c = true := by
    rintro c hc
    rcases List.mem_append.1 hc with hc | hc
    · rcases huw c hc with hword | rfl
      · simp [p, hword]
      · rfl
    · simp [p, hvb c hc]
  have hbrace := (run_unique (p := p) (by decide) hp (by decide) (by decide) hcomma).2.1
  exact absurd hbrace (by decide)

theorem prefers_viewDeclaration {o : Nat} (name : Identifier) :
    ∃ b' o' r', viewDeclaration.Prefers
      ⟨some '\n', o, "struct ".toList ++ (name.text ++ (": View \x7b\n".toList ++ r)), []⟩
      ⟨b', o', r', [(.name, ⟨o + "struct".toList.length + 1,
        name.text ++ (": View \x7b\n".toList ++ r), name.text.length⟩)]⟩ := by
  exact ⟨_, _, _, (prefers_wordEdge (w := "struct".toList) (by decide) (by decide)).cons <|
    (prefers_lit "struct").cons <| (prefers_someSpace (name.not_isBlank_head? _)).cons <|
    ((prefers_name name (by simp; decide)).capture rfl .name).cons <|
    (prefers_noBlanks (by simp; decide)).cons <| (prefers_char ':').cons <|
    (prefers_space (by simp; decide)).cons <| (prefers_star_stop (ways_protocol rfl)).cons <|
    (prefers_lit "View").cons (prefers_place (by rfl))⟩

end Grammar

variable {name : Identifier} {es : List Element}

theorem getLast?_viewHead : (viewHead name.text).getLast? = some '\n' := by
  unfold viewHead
  rw [List.getLast?_append, List.getLast?_append, List.getLast?_append]
  rfl

theorem printedView_eq : printedView name.text es = "import SwiftUI\n".toList ++
    ("struct ".toList ++ (name.text ++ (": View \x7b\n".toList ++ bodyText es))) := by
  unfold printedView viewHead
  simp only [List.append_assoc]

theorem body?_printedView : body? (printedView name.text es) = some (bodyLines es) := by
  have hsearch := search?_eq (r := bodyText es) (Grammar.silent_viewHead Grammar.ledBy_bodyOpening name)
    getLast?_viewHead Grammar.prefers_bodyOpening
  have hdrop : (printedView name.text es).drop
      ((viewHead name.text).length + "var body: some View \x7b".toList.length) =
        '\n' :: (es.flatMap Element.line ++ "\x7d\n\x7d".toList) := by
    rw [printedView, ← List.drop_drop, List.drop_left]
    unfold bodyText
    rw [List.drop_left]
    rfl
  have hclose : upToClose .code 0 "\x7d\n\x7d".toList = some [] := by decide
  rw [body?, printedView, hsearch]
  simp only
  rw [← printedView, hdrop, upToClose_plain (by decide), upToClose_lines, hclose]
  simp [bodyLines]

theorem viewName?_printedView : viewName? (printedView name.text es) = some (String.ofList name.text) := by
  obtain ⟨b, o, r, hp⟩ := Grammar.prefers_viewDeclaration (o := "import SwiftUI\n".toList.length)
    (r := bodyText es) name
  have hsearch := search?_eq
    (Grammar.ledBy_viewDeclaration.silent_text (u := "import SwiftUI\n".toList) (by decide) (by decide))
    (by decide) hp
  rw [viewName?, printedView_eq, hsearch, Option.map_some, Found.string_eq rfl]

theorem importsFramework_printedView : importsFramework (printedView name.text es) = true := by
  obtain ⟨t, hp⟩ := Grammar.prefers_frameworkImport
    (r := "struct ".toList ++ (name.text ++ (": View \x7b\n".toList ++ bodyText es)))
  rw [importsFramework, Pattern.occurs, printedView_eq, search?, hp.searchFrom]
  rfl

theorem declaresBody_printedView : declaresBody (printedView name.text es) = true := by
  obtain ⟨t, hp⟩ := Grammar.prefers_bodyDeclaration (o := (viewHead name.text).length)
    (r := bodyLines es ++ "\x7d\n\x7d".toList)
  have hsearch := search?_eq (r := bodyText es)
    (Grammar.silent_viewHead Grammar.ledBy_bodyDeclaration name) getLast?_viewHead hp
  rw [declaresBody, Pattern.occurs, printedView, hsearch]
  rfl

def passKinds : List (List FactKind) :=
  [[.button], [.textField, .secureField], [.text], [.toggle], [.navigationLink]]

def grouped (es : List Element) : List (FactKind × String) :=
  passKinds.flatMap fun kinds => (es.filter (kinds.contains ·.control.kind)).map Element.item

def visible (calls : List ElementCall) : List (FactKind × String × Nat) :=
  (calls.filter (!blankText ·.label)).map fun c => (c.kind, c.label, c.stop)

theorem elementFacts_told (window : Int) (span : List Char) :
    (elementFacts window span).map (fun f => (f.kind, f.label, f.identifier)) =
      elementPasses.flatMap fun pass => (visible (pass span)).map fun t =>
        (t.1, t.2.1, identifier? (slice t.2.2 (t.2.2 + window) span)) := by
  simp only [elementFacts, List.map_flatMap, List.map_map, visible]
  rfl

def toldOf (kinds : List FactKind) (ws : List Row) : List (FactKind × String × Nat) :=
  placed Row.text (fun o w => if w.element.control.kind ∈ kinds then [w.told o] else []) 0 ws

theorem visible_told {ws : List Row} {kinds : List FactKind} {t : FactKind × String × Nat}
    (h : t ∈ toldOf kinds ws) : blankText t.2.1 = false := by
  unfold toldOf at h
  generalize 0 = o at h
  induction ws generalizing o with
  | nil => simp [placed] at h
  | cons w ws ih =>
    rcases List.mem_append.1 h with h | h
    · obtain ⟨-, rfl⟩ : w.element.control.kind ∈ kinds ∧ t = w.told o := by simpa using h
      simp [Row.told, blankText, w.element.visible]
    · exact ih _ h

namespace Finds

variable {p : Grammar} {call : Found Slot → ElementCall} {names : List (List Char)}

theorem visible_rows (h : Finds p call names) (kinds : List FactKind)
    (hkinds : ∀ k : Control, k.name.toList ∈ names ↔ k.kind ∈ kinds) {ws : List Row}
    {post : List Char} (hrows : IsRows ws post) :
    visible ((p.scan (ws.flatMap Row.text ++ post)).map call) = toldOf kinds ws := by
  have hscan : (p.scan (ws.flatMap Row.text ++ post)).map (told call) = toldOf kinds ws := by
    rw [h.scan_rows hrows]
    simp only [hkinds]
    rfl
  have hall : ((p.scan (ws.flatMap Row.text ++ post)).map call).filter (!blankText ·.label) =
      (p.scan (ws.flatMap Row.text ++ post)).map call := by
    refine List.filter_eq_self.2 fun c hc => ?_
    obtain ⟨m, hm, rfl⟩ := List.mem_map.1 hc
    have hmem : told call m ∈ toldOf kinds ws := hscan ▸ List.mem_map_of_mem hm
    have hlabel : blankText (call m).label = false := visible_told hmem
    simp [hlabel]
  rw [visible, hall, List.map_map]
  exact hscan

theorem scan_quoteless (h : Finds p call names) {cs : List Char} (hcs : '"' ∉ cs) :
    p.scan cs = [] := by
  have hquote {s : Cursor Slot} (hs : Starts names s) : '"' ∈ s.ahead := by
    rcases hs.opens with hopens | ⟨r, hr, hopens⟩
    · obtain ⟨u, q, l, r, heq, -⟩ := hopens.literal
      simp [heq]
    · obtain ⟨u, q, l, r, heq, -⟩ := hopens.literal
      exact hr.subset (by simp [heq])
  have hsilent : p.Silent none cs [] := by
    rintro a c v rfl o
    exact h.ways_eq_nil fun hs => hcs (List.mem_append_right a (by simpa using hquote hs))
  have hscan := (hsilent.scans (f := id)).scan
    (h.ways_eq_nil fun hs => by simpa using hquote hs)
  simpa using hscan

end Finds

theorem flatMap_passes {β : Type} {ws : List Row} {post : List Char} (hrows : IsRows ws post)
    (g : FactKind × String × Nat → β) :
    (elementPasses.flatMap fun pass => (visible (pass (ws.flatMap Row.text ++ post))).map g) =
      passKinds.flatMap fun kinds => (toldOf kinds ws).map g := by
  have hbutton := finds_button.visible_rows [.button]
    (fun k => by cases k <;> simp [Control.name, Control.kind]) hrows
  have hinput := finds_textInput.visible_rows [.textField, .secureField]
    (fun k => by cases k <;> simp [Control.name, Control.kind]) hrows
  have htext := finds_staticText.visible_rows [.text]
    (fun k => by cases k <;> simp [Control.name, Control.kind]) hrows
  have htoggle := finds_toggle.visible_rows [.toggle]
    (fun k => by cases k <;> simp [Control.name, Control.kind]) hrows
  have hlink := finds_navigationLink.visible_rows [.navigationLink]
    (fun k => by cases k <;> simp [Control.name, Control.kind]) hrows
  simp only [elementPasses, passKinds, List.flatMap_cons, List.flatMap_nil, ← hbutton, ← hinput,
    ← htext, ← htoggle, ← hlink]
  rfl

def lineRow (e : Element) : Row := ⟨['\n'], by decide, e, none⟩

theorem isRows_lines (es : List Element) : IsRows (es.map lineRow) ['\n'] where
  lines w hw := by
    obtain ⟨e, -, rfl⟩ := List.mem_map.1 (List.mem_of_mem_tail hw)
    exact List.mem_singleton_self _
  post := by decide
  labels w hw a ha := by
    obtain ⟨e, -, rfl⟩ := List.mem_map.1 hw
    cases ha

theorem flatMap_lineRow (es : List Element) :
    (es.map lineRow).flatMap Row.text ++ ['\n'] = bodyLines es := by
  induction es with
  | nil => rfl
  | cons e es ih =>
    have hline : (lineRow e).text ++ '\n' :: es.flatMap Element.line =
        '\n' :: (e.line ++ es.flatMap Element.line) := by
      rw [e.line_eq]
      simp [lineRow, Row.text, Row.attached]
    rw [bodyLines, List.map_cons, List.flatMap_cons, List.append_assoc, ih, bodyLines, hline,
      List.flatMap_cons]

theorem elementFacts_bodyLines (window : Int) (es : List Element) :
    (elementFacts window (bodyLines es)).map (fun f => (f.kind, f.label)) = grouped es := by
  have hitems (kinds : List FactKind) : (toldOf kinds (es.map lineRow)).map (fun t => (t.1, t.2.1)) =
      (es.filter (kinds.contains ·.control.kind)).map Element.item := by
    have hitem (o : Nat) (w : Row) : (if w.element.control.kind ∈ kinds then [w.told o] else []).map
        (fun t => (t.1, t.2.1)) = if w.element.control.kind ∈ kinds then [w.element.item] else [] := by
      split <;> rfl
    have hfilter := flatMap_filter (fun e : Element => e.control.kind ∈ kinds) Element.item es
    simp only [toldOf, map_placed, hitem]
    rw [placed_eq_flatMap, List.flatMap_map]
    simp only [List.contains_eq_mem]
    exact hfilter
  have hfacts := congrArg (List.map fun t : FactKind × String × Option String => (t.1, t.2.1))
    (elementFacts_told window ((es.map lineRow).flatMap Row.text ++ ['\n']))
  rw [flatMap_passes (isRows_lines es), List.map_map, List.map_flatMap] at hfacts
  simp only [List.map_map, Function.comp_def] at hfacts
  rw [flatMap_lineRow] at hfacts
  rw [hfacts]
  simp only [grouped, ← hitems]

theorem mem_grouped {e : Element} (he : e ∈ es) : e.item ∈ grouped es := by
  have hpass : ∃ kinds ∈ passKinds, e.control.kind ∈ kinds := by
    cases e.control <;> simp [passKinds, Control.kind]
  obtain ⟨kinds, hkinds, hkind⟩ := hpass
  refine List.mem_flatMap.2 ⟨kinds, hkinds, List.mem_map.2 ⟨e, ?_, rfl⟩⟩
  simp [he, hkind]

theorem eq_nil_of_grouped (h : grouped es = []) : es = [] := by
  refine List.eq_nil_iff_forall_not_mem.2 fun e he => ?_
  have hmem := mem_grouped he
  simp [h] at hmem

theorem elementFacts_quoteless (window : Int) {cs : List Char} (hcs : '"' ∉ cs) :
    elementFacts window cs = [] := by
  simp [elementFacts, elementPasses, buttons, textInputs, staticTexts, toggles, navigationLinks,
    finds_button.scan_quoteless hcs, finds_textInput.scan_quoteless hcs,
    finds_staticText.scan_quoteless hcs, finds_toggle.scan_quoteless hcs,
    finds_navigationLink.scan_quoteless hcs]

theorem quote_not_mem_emptyView : '"' ∉ printedView name.text [] := by
  have hname : '"' ∉ name.text := fun h => absurd (name.isWordText.2 _ h) (by decide)
  rw [printedView_eq]
  unfold bodyText
  simp [hname, bodyLines]

theorem scanElements_printedView (window : Int) :
    (scanElements window (String.ofList (printedView name.text es))).elements.map
      (fun f => (f.kind, f.label)) = grouped es := by
  rw [scanElements]
  simp only [String.toList_ofList, body?_printedView]
  split
  · rename_i hnone
    have hitems := elementFacts_bodyLines window es
    rw [hnone] at hitems
    obtain rfl := eq_nil_of_grouped hitems.symm
    simp only [elementFacts_quoteless window quote_not_mem_emptyView]
    exact hitems
  · exact elementFacts_bodyLines window es

theorem buildView_eq (window : Int) {source view : String} (h : requireView source = .ok view) :
    buildView window source = .ok (assembleView view source (scanElements window source).elements
      (scanElements window source).span) := by
  rw [buildView, inspectView, h]
  rfl

theorem buildView_printedView (window : Int) (name : Identifier) (es : List Element) :
    ∃ m, buildView window (String.ofList (printedView name.text es)) = .ok m ∧
      m.name = String.ofList name.text ∧
      m.elements.map (fun f => (f.kind, f.label)) = grouped es := by
  have htext : blankText (String.ofList (printedView name.text es)) = false := by
    rw [blankText, String.toList_ofList, printedView_eq]
    rfl
  have hview : requireView (String.ofList (printedView name.text es)) = .ok (String.ofList name.text) := by
    simp [requireView, requireText, htext, importsFramework_printedView, viewName?_printedView,
      declaresBody_printedView]
  exact ⟨_, buildView_eq window hview, rfl, scanElements_printedView window⟩

def umlautName : List Char := "Gr\u00f6\u00dfe".toList

theorem buildView_umlautName : (∀ c ∈ umlautName, isWord c = true) ∧
    buildView 100 (String.ofList (printedView umlautName [])) = .error nameNotFound := by
  have htext : blankText (String.ofList (printedView umlautName [])) = false := by decide +kernel
  have himport : importsFramework (printedView umlautName []) = true := by decide +kernel
  have hname : viewName? (printedView umlautName []) = none := by decide +kernel
  refine ⟨by decide, ?_⟩
  rw [buildView, inspectView, requireView, requireText, htext]
  simp only [String.toList_ofList, himport, hname]
  rfl

end TestScaffold.Swift
