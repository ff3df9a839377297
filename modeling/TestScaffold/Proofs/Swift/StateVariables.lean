import TestScaffold.Proofs.Model.Variables
import TestScaffold.Proofs.Swift.LiteralTypes

namespace TestScaffold.Swift

open Text Pattern

def wrappers : List String := ["State", "Binding", "ObservedObject", "StateObject", "Published"]

structure AccessMark where
  level : String
  known : level ∈ Grammar.access
  ofSetter : Bool

structure TypeText where
  text : List Char
  ne_nil : text ≠ []
  stripped : strip text = text
  free : ∀ c ∈ ['=', '\n', '/', '\x7b'], c ∉ text

structure InitialText where
  text : List Char
  ne_nil : text ≠ []
  stripped : strip text = text
  line : '\n' ∉ text

structure VariableLine where
  wrapper : String
  wrapped : wrapper ∈ wrappers
  access : Option AccessMark
  name : Identifier
  declared : Option TypeText
  initial : Option InitialText

def accessText : Option AccessMark → List Char
  | none => []
  | some a => a.level.toList ++ ((if a.ofSetter then "(set)".toList else []) ++ [' '])

def declaredText : Option TypeText → List Char
  | none => []
  | some t => ':' :: ' ' :: t.text

def initialText : Option InitialText → List Char
  | none => []
  | some e => ' ' :: '=' :: ' ' :: e.text

namespace VariableLine

def rest (l : VariableLine) : List Char := declaredText l.declared ++ initialText l.initial

def text (l : VariableLine) : List Char :=
  '@' :: (l.wrapper.toList ++ ' ' :: (accessText l.access ++ ("var".toList ++ ' ' ::
    (l.name.text ++ l.rest))))

def type (l : VariableLine) : String :=
  match l.declared with
  | some t => String.ofList t.text
  | none => (l.initial.bind fun e => literalType? e.text).getD "Any"

def entry (l : VariableLine) : String × String := (String.ofList l.name.text, l.type)

def kept (l : VariableLine) : List (Slot × List Char) :=
  (match l.initial with
    | none => []
    | some e => [(.initial, e.text)]) ++
  match l.declared with
    | none => []
    | some t => [(.type, t.text ++ if l.initial.isSome then [' '] else [])]

def captures (l : VariableLine) : List (Slot × List Char) :=
  l.kept ++ [(.name, l.name.text), (.wrapper, l.wrapper.toList)]

end VariableLine

namespace Grammar

variable {s t : Cursor Slot} {u v r : List Char} {ks : List (Slot × List Char)} {l : VariableLine}

theorem takes_someSpace (hr : ∀ c ∈ r.head?, isBlank c = false) : someBlanks.Takes [' '] r [] :=
  takes_plus (by simp) (by decide) hr

theorem isPrefixOf_append_eq_false {w : List Char} (h : ¬ v <+: w) (h' : ¬ w <+: v) (r : List Char) :
    v.isPrefixOf (w ++ r) = false := by
  rw [Bool.eq_false_iff]
  intro hprefix
  have hv : v <+: w ++ r := List.isPrefixOf_iff_prefix.1 hprefix
  rcases List.prefix_or_prefix_of_prefix hv (List.prefix_append w r) with hw | hw
  · exact h hw
  · exact h' hw

theorem ways_someBlanks_eq_nil {ps : List Grammar} {c : Char} (hs : s.ahead = c :: r)
    (hc : isBlank c = false) : (all (someBlanks :: ps)).ways s = [] := by
  refine List.eq_nil_iff_forall_not_mem.2 fun t ht => ?_
  obtain ⟨m, hm⟩ := mem_all_head ht
  obtain ⟨d, u, hread, hd, -⟩ := mem_someBlanks hm
  obtain ⟨rfl, -⟩ := List.cons.inj (hs.symm.trans hread.ahead)
  simp [hc] at hd

theorem ways_access_eq_nil (hs : s.ahead = 'v' :: r) : (any (access.map lit) : Grammar).ways s = [] := by
  have hapart : ∀ w ∈ access, ¬ w.toList <+: ['v'] ∧ ¬ ['v'] <+: w.toList := by decide
  refine ways_any_lit fun w hw => ?_
  rw [hs]
  exact isPrefixOf_append_eq_false (hapart w hw).1 (hapart w hw).2 r

theorem takes_level (a : AccessMark) : (any (access.map lit) : Grammar).Takes a.level.toList r [] := by
  have hapart : ∀ v ∈ access, ∀ w ∈ access, v ≠ w → ¬ v.toList <+: w.toList := by decide
  refine takes_any_lit a.known fun w hw hne => ?_
  exact isPrefixOf_append_eq_false (hapart w hw _ a.known hne) (hapart _ a.known w hw hne.symm) r

theorem takes_setterMark (ofSetter : Bool) :
    setterMark.Takes (if ofSetter then "(set)".toList else []) (' ' :: r) [] := by
  cases ofSetter with
  | true => exact (takes_lit "(set)").optional
  | false => exact .right (fun s hs => by simp [ways_lit, hs]) takes_empty

theorem takes_access (a : Option AccessMark) (hr : r.head? = some 'v') :
    (optional (all [any (access.map lit), setterMark, someBlanks])).Takes (accessText a) r [] := by
  obtain ⟨r, rfl⟩ := List.head?_eq_some_iff.1 hr
  cases a with
  | none =>
    refine Takes.right (fun s hs => List.eq_nil_iff_forall_not_mem.2 fun t ht => ?_) takes_empty
    obtain ⟨m, hm, -⟩ := mem_all_cons.1 ht
    simp [ways_access_eq_nil hs] at hm
  | some a =>
    have haccess : (all [any (access.map lit), setterMark, someBlanks]).Takes _ ('v' :: r) _ :=
      (takes_level a).cons <| (takes_setterMark a.ofSetter).cons <|
        takes_someSpace (by rintro c ⟨⟩; decide)
    exact haccess.optional

theorem not_isBlank_head?_access (a : Option AccessMark) :
    ∀ c ∈ (accessText a ++ ("var".toList ++ u) ++ r).head?, isBlank c = false := by
  cases a with
  | none =>
    rintro c ⟨⟩
    decide
  | some a =>
    have hlevels : ∀ w ∈ access, w.toList ≠ [] ∧ ∀ c ∈ w.toList.head?, isBlank c = false := by decide
    obtain ⟨hne, hhead⟩ := hlevels a.level a.known
    rw [accessText, List.append_assoc, List.append_assoc, List.head?_append_of_ne_nil _ hne]
    exact hhead

theorem takes_wrapper {w : String} {ps : List Grammar} (hw : w ∈ wrappers)
    (h : (all (someBlanks :: ps)).Takes (' ' :: v) r ks) :
    (all (.capture .wrapper (any (wrappers.map lit)) :: someBlanks :: ps)).Takes
      (w.toList ++ ' ' :: v) r (ks ++ [(.wrapper, w.toList)]) := by
  intro s hs
  rw [List.append_assoc] at hs
  have hreads : s.Reads w.toList (s.move w.toList) := Cursor.reads_move hs
  have hreach : (any (wrappers.map lit) : Grammar).Reaches
      (fun m => (all (someBlanks :: ps)).ways (m.capture .wrapper s) = []) s (s.move w.toList) := by
    refine reaches_any_lit hw hs fun x hx hne hprefix => ?_
    -- Of two different wrappers only the first starts the second, and no blank follows it there.
    have hpairs : ∀ x ∈ wrappers, ∀ w ∈ wrappers, x ≠ w → ¬ w.toList ++ [' '] <+: x.toList ∧
        (x.toList <+: w.toList ++ [' '] → x = "State" ∧ w = "StateObject") := by decide
    obtain ⟨hlong, hshort⟩ := hpairs x hx w hw hne
    have hspace : s.ahead = w.toList ++ [' '] ++ (v ++ r) := by simp [hs]
    have hword : x.toList <+: w.toList ++ [' '] := by
      refine (List.prefix_or_prefix_of_prefix (List.isPrefixOf_iff_prefix.1 hprefix) ?_).resolve_right
        hlong
      rw [hspace]
      exact List.prefix_append _ _
    obtain ⟨rfl, rfl⟩ := hshort hword
    exact ways_someBlanks_eq_nil (c := 'O') (r := "bject".toList ++ (' ' :: v ++ r))
      (by simp [Cursor.move, Cursor.capture, hs]) (by decide)
  obtain ⟨t, ht, hr, hks⟩ := h ((s.move w.toList).capture .wrapper s)
    (by simp [Cursor.move, Cursor.capture, hs])
  refine ⟨t, hreach.capture.seq ht, hr, ?_⟩
  have hkept : captured ((s.move w.toList).capture .wrapper s).captures =
      (.wrapper, w.toList) :: captured s.captures :=
    congrArg (fun x => (Slot.wrapper, x) :: captured s.captures) hreads.text_upTo
  rw [hks, hkept]
  simp

def typePart : Grammar :=
  optional (all [Pattern.char ':', blanks, .capture .type (plus (except ['=', '\n', '/', '\x7b']))])

def initialPart : Grammar :=
  optional (all [Pattern.char '=', blanks, .capture .initial (plus (except ['\n']))])

def Ends (l : VariableLine) (u r : List Char) : Prop :=
  if l.rest = [] then (∀ c ∈ u, isBlank c = true) ∧ ∀ c ∈ r.head?, c = '@'
  else u = [] ∧ ∀ c ∈ r.head?, c = '\n'

theorem takes_initial (e : InitialText) (hr : ∀ c ∈ r.head?, c = '\n') :
    initialPart.Takes ('=' :: ' ' :: e.text) r [(.initial, e.text)] := by
  have hvalue : (plus (except ['\n']) : Grammar).Takes e.text r [] := by
    refine takes_plus e.ne_nil (fun c hc => ?_) fun c hc => ?_
    · have hne : c ≠ '\n' := ne_of_mem_of_not_mem hc e.line
      simpa using hne
    · simp [hr c hc]
  have hblank : ∀ c ∈ (e.text ++ r).head?, isBlank c = false := by
    rw [List.head?_append_of_ne_nil _ e.ne_nil]
    exact not_isBlank_head?_strip e.stripped
  have hpart : (all [Pattern.char '=', blanks, .capture .initial (plus (except ['\n']))] :
      Grammar).Takes _ r _ :=
    (takes_char '=').cons <| (takes_blanks ⟨[' '], by decide⟩ hblank).cons (hvalue.capture .initial)
  exact hpart.optional

theorem takes_type (a : TypeText) {u : List Char} (hu : ∀ c ∈ u, c = ' ')
    (hr : ∀ c ∈ r.head?, c = '=' ∨ c = '\n') :
    typePart.Takes (':' :: ' ' :: (a.text ++ u)) r [(.type, a.text ++ u)] := by
  have htype : (plus (except ['=', '\n', '/', '\x7b']) : Grammar).Takes (a.text ++ u) r [] := by
    refine takes_plus (by simp [a.ne_nil]) (fun c hc => ?_) fun c hc => ?_
    · rcases List.mem_append.1 hc with hc | hc
      · have hne : ∀ d ∈ ['=', '\n', '/', '\x7b'], c ≠ d := fun d hd =>
          ne_of_mem_of_not_mem hc (a.free d hd)
        simpa using hne
      · obtain rfl := hu c hc
        decide
    · rcases hr c hc with rfl | rfl <;> decide
  have hblank : ∀ c ∈ (a.text ++ u ++ r).head?, isBlank c = false := by
    rw [List.append_assoc, List.head?_append_of_ne_nil _ a.ne_nil]
    exact not_isBlank_head?_strip a.stripped
  have hpart : (all [Pattern.char ':', blanks,
      .capture .type (plus (except ['=', '\n', '/', '\x7b']))] : Grammar).Takes _ r _ :=
    (takes_char ':').cons <| (takes_blanks ⟨[' '], by decide⟩ hblank).cons (htype.capture .type)
  exact hpart.optional

theorem takes_noType (hr : ∀ c ∈ r.head?, c ≠ ':') : typePart.Takes [] r [] := takes_skip hr

theorem takes_noInitial (hr : ∀ c ∈ r.head?, c ≠ '=') : initialPart.Takes [] r [] := takes_skip hr

theorem takes_rest (h : Ends l u r) :
    (all [blanks, typePart, initialPart]).Takes (l.rest ++ u) r l.kept := by
  obtain ⟨w, hw, access, name, declared, initial⟩ := l
  have hspace : ∀ c ∈ [' '], isBlank c = true := by decide
  cases declared with
  | none =>
    cases initial with
    | none =>
      obtain ⟨hblank, hr⟩ : (∀ c ∈ u, isBlank c = true) ∧ ∀ c ∈ r.head?, c = '@' := h
      have hrest : (all [blanks, typePart, initialPart]).Takes (u ++ ([] ++ [])) r _ :=
        (takes_blanks ⟨u, hblank⟩ fun c hc => by rw [hr c hc]; decide).cons <|
          (takes_noType fun c hc => by rw [hr c hc]; decide).cons
            (takes_noInitial fun c hc => by rw [hr c hc]; decide)
      simpa [VariableLine.rest, VariableLine.kept, declaredText, initialText] using hrest
    | some e =>
      obtain ⟨rfl, hr⟩ : u = [] ∧ ∀ c ∈ r.head?, c = '\n' := h
      have hrest : (all [blanks, typePart, initialPart]).Takes _ r _ :=
        (takes_blanks ⟨[' '], hspace⟩ (by rintro c ⟨⟩; decide)).cons <|
          (takes_noType (by rintro c ⟨⟩; decide)).cons (takes_initial e hr)
      simpa [VariableLine.rest, VariableLine.kept, declaredText, initialText] using hrest
  | some a =>
    cases initial with
    | none =>
      obtain ⟨rfl, hr⟩ : u = [] ∧ ∀ c ∈ r.head?, c = '\n' := h
      have hrest : (all [blanks, typePart, initialPart]).Takes _ r _ :=
        (takes_noBlanks (by rintro c ⟨⟩; decide)).cons <|
          (takes_type (u := []) a (by simp) fun c hc => .inr (hr c hc)).cons
            (takes_noInitial fun c hc => by rw [hr c hc]; decide)
      simpa [VariableLine.rest, VariableLine.kept, declaredText, initialText] using hrest
    | some e =>
      obtain ⟨rfl, hr⟩ : u = [] ∧ ∀ c ∈ r.head?, c = '\n' := h
      have hrest : (all [blanks, typePart, initialPart]).Takes _ r _ :=
        (takes_noBlanks (by rintro c ⟨⟩; decide)).cons <|
          (takes_type (u := [' ']) a (by simp) (by rintro c ⟨⟩; exact .inl rfl)).cons
            (takes_initial e hr)
      simpa [VariableLine.rest, VariableLine.kept, declaredText, initialText] using hrest

theorem isNameChar_head?_rest (h : Ends l u r) :
    ∀ c ∈ (l.rest ++ u ++ r).head?, isNameChar c = false := by
  obtain ⟨w, hw, access, name, declared, initial⟩ := l
  cases declared with
  | some a =>
    rintro c ⟨⟩
    decide
  | none =>
    cases initial with
    | some e =>
      rintro c ⟨⟩
      decide
    | none =>
      obtain ⟨hblank, hr⟩ : (∀ c ∈ u, isBlank c = true) ∧ ∀ c ∈ r.head?, c = '@' := h
      cases u with
      | nil =>
        intro c hc
        rw [hr c hc]
        decide
      | cons d u =>
        rintro c ⟨⟩
        exact isNameChar_eq_false_of_isBlank (hblank d List.mem_cons_self)

theorem takes_stateVariable (h : Ends l u r) : stateVariable.Takes (l.text ++ u) r l.captures := by
  have hname : name.Takes l.name.text (l.rest ++ u ++ r) [] := by
    rintro ⟨b, o, ahead, k⟩ rfl
    exact ⟨_, prefers_name l.name (isNameChar_head?_rest h), rfl, rfl⟩
  have hfront : ∀ c ∈ (l.name.text ++ (l.rest ++ u) ++ r).head?, isBlank c = false := by
    rw [List.append_assoc]
    exact l.name.not_isBlank_head? _
  have hbehind : (all [someBlanks, .capture .name name, blanks, typePart, initialPart]).Takes
      _ r _ := (takes_someSpace hfront).cons <| (hname.capture .name).cons (takes_rest h)
  have hvar : (all [optional (all [any (access.map lit), setterMark, someBlanks]), lit "var",
      someBlanks, .capture .name name, blanks, typePart, initialPart]).Takes _ r _ :=
    (takes_access l.access rfl).cons <| (takes_lit "var").cons hbehind
  have hline : stateVariable.Takes _ r _ :=
    (takes_char '@').cons <| takes_wrapper l.wrapped <|
      (takes_someSpace (not_isBlank_head?_access l.access)).cons hvar
  simpa [VariableLine.text, VariableLine.captures] using hline

end Grammar

section

variable {l : VariableLine} {m : Found Slot} {u r : List Char} {b : Option Char} {o : Nat}

def foundVariable (m : Found Slot) : String × String := (m.string .name, stateType m)

theorem foundVariable_eq (h : captured m.captures = l.captures) : foundVariable m = l.entry := by
  have htext (i : Slot) : m.text? i = (l.captures.find? (·.1 = i)).map (·.2) := by
    rw [Found.text?_captured, h]
  obtain ⟨w, hw, access, name, declared, initial⟩ := l
  have hname : m.string .name = String.ofList name.text := by
    rw [Found.string, Found.text, htext]
    cases declared <;> cases initial <;> rfl
  have htype : stateType m = VariableLine.type ⟨w, hw, access, name, declared, initial⟩ := by
    rw [stateType, Found.text, htext, htext]
    cases declared with
    | none => cases initial <;> rfl
    | some a =>
      have hfound : ((VariableLine.captures ⟨w, hw, access, name, some a, initial⟩).find?
          (·.1 = Slot.type)).map (·.2) = some (a.text ++ if initial.isSome then [' '] else []) := by
        cases initial <;> rfl
      have hstrip : strip (a.text ++ if initial.isSome then [' '] else []) = a.text := by
        have hblank : ∀ c ∈ (if initial.isSome then [' '] else []), isBlank c = true := by
          cases initial with
          | none => simp
          | some e => exact (by decide : ∀ c ∈ [' '], isBlank c = true)
        exact (strip_append (u := []) (by simp) hblank).trans a.stripped
      rw [hfound, Option.getD_some, hstrip]
      simp [VariableLine.type, a.ne_nil]
  rw [foundVariable, VariableLine.entry, hname, htype]

theorem ways_stateVariable_eq_nil {s : Cursor Slot} (h : ∀ c ∈ s.ahead.head?, c ≠ '@') :
    Grammar.stateVariable.ways s = [] := by
  refine List.eq_nil_iff_forall_not_mem.2 fun t ht => ?_
  obtain ⟨m, hm, -⟩ := mem_all_cons.1 ht
  have hat := Grammar.mem_char hm
  exact h '@' (by rw [hat]; rfl) rfl

theorem scans_line (h : Grammar.Ends l u r) :
    Grammar.stateVariable.Scans foundVariable b o (l.text ++ u) r [l.entry] := by
  have htakes := Grammar.takes_stateVariable h ⟨b, o, l.text ++ u ++ r, []⟩ rfl
  obtain ⟨m, -, -, hm, hscans⟩ := htakes.scans (by simp [VariableLine.text]) foundVariable
  rwa [foundVariable_eq hm] at hscans

theorem scans_line_newline (l : VariableLine) (hr : ∀ c ∈ r.head?, c = '@') :
    Grammar.stateVariable.Scans foundVariable b o (l.text ++ ['\n']) r [l.entry] := by
  by_cases hrest : l.rest = []
  · refine scans_line ?_
    rw [Grammar.Ends, if_pos hrest]
    exact ⟨by decide, hr⟩
  · have hline : Grammar.stateVariable.Scans foundVariable b o l.text ('\n' :: r) [l.entry] := by
      have hends : Grammar.Ends l [] ('\n' :: r) := by
        rw [Grammar.Ends, if_neg hrest]
        exact ⟨rfl, by simp⟩
      simpa using scans_line hends
    have hsilent : Grammar.stateVariable.Silent (l.text.getLast?.or b) ['\n'] r := by
      intro a c v heq o
      obtain rfl : c = '\n' := List.mem_singleton.1 (heq ▸ List.mem_append_right a List.mem_cons_self)
      exact ways_stateVariable_eq_nil (by simp)
    simpa using hline.append hsilent.scans

def variableLines (ls : List VariableLine) : List Char := ['\n'].intercalate (ls.map VariableLine.text)

theorem scans_variableLines (ls : List VariableLine) :
    Grammar.stateVariable.Scans foundVariable b o (variableLines ls) [] (ls.map VariableLine.entry) := by
  induction ls generalizing b o with
  | nil => simp [Scans, variableLines]
  | cons l ls ih =>
    cases ls with
    | nil =>
      have hends : Grammar.Ends l [] [] := by
        unfold Grammar.Ends
        split <;> simp
      simpa [variableLines, List.intercalate] using scans_line (b := b) (o := o) hends
    | cons l' ls =>
      have hsplit : variableLines (l :: l' :: ls) = l.text ++ ['\n'] ++ variableLines (l' :: ls) :=
        List.intercalate_cons_cons
      rw [hsplit]
      refine (scans_line_newline l ?_).append ih
      rw [List.append_nil]
      cases ls <;> (rintro c ⟨⟩; rfl)

theorem scan_variableLines (ls : List VariableLine) :
    stateVariables (variableLines ls) = Entries.ofList (ls.map VariableLine.entry) := by
  have hscan := (scans_variableLines ls).scan (ways_stateVariable_eq_nil (by simp))
  exact congrArg Entries.ofList hscan

end

/-- The variable is declared as a truth value, or its value is one or a call of their type. -/
inductive SaysBool (l : VariableLine) : Prop
  | declared {a : TypeText} (h : l.declared = some a) (ha : a.text = "Bool".toList)
  | literal {e : InitialText} {b : Bool} (h : l.declared = none) (he : l.initial = some e)
      (hb : strip (upTo ['/', '/'] e.text) = (if b then "true" else "false").toList)
  | call {e : InitialText} {g : Gap} {a : Option TypeArguments} {u : List Char}
      (h : l.declared = none) (he : l.initial = some e)
      (hcall : strip (upTo ['/', '/'] e.text) =
        "Bool".toList ++ (g.text ++ (argumentsText a ++ '(' :: u)))

theorem hasType_bool_iff {cs : List Char} : HasType cs "Bool" ↔
    (∃ b : Bool, cs = (if b then "true" else "false").toList) ∨
    ∃ (g : Gap) (a : Option TypeArguments) (u : List Char),
      cs = "Bool".toList ++ (g.text ++ (argumentsText a ++ '(' :: u)) := by
  constructor
  · generalize hx : "Bool" = x
    intro h
    cases h with
    | truth b => exact .inl ⟨b, rfl⟩
    | call n g a u =>
      exact .inr ⟨g, a, u, by rw [String.toList_ofList]⟩
    | string u => exact absurd hx (by decide)
    | double negative n m => exact absurd hx (by decide)
    | int negative n => exact absurd hx (by decide)
  · rintro (⟨b, rfl⟩ | ⟨g, a, u, rfl⟩)
    · exact .truth b
    · exact .call ⟨'B', "ool".toList, by decide, by decide⟩ g a u

theorem type_eq_bool_iff {l : VariableLine} : l.type = "Bool" ↔ SaysBool l := by
  constructor
  · intro h
    rw [VariableLine.type] at h
    cases hdeclared : l.declared with
    | some a =>
      rw [hdeclared] at h
      exact .declared hdeclared (by rw [← h, String.toList_ofList])
    | none =>
      rw [hdeclared] at h
      cases hinitial : l.initial with
      | none =>
        rw [hinitial] at h
        exact absurd h (by decide)
      | some e =>
        rw [hinitial, Option.bind_some] at h
        cases hliteral : literalType? e.text with
        | none =>
          rw [hliteral] at h
          exact absurd h (by decide)
        | some x =>
          rw [hliteral] at h
          obtain rfl : x = "Bool" := h
          rcases hasType_bool_iff.1 (literalType?_eq_some_iff.1 hliteral) with ⟨b, hb⟩ | ⟨g, a, u, hcall⟩
          · exact .literal hdeclared hinitial hb
          · exact .call hdeclared hinitial hcall
  · have hliteral {e : InitialText} (h : l.declared = none) (he : l.initial = some e)
        (hbool : HasType (strip (upTo ['/', '/'] e.text)) "Bool") : l.type = "Bool" := by
      rw [VariableLine.type, h, he, Option.bind_some, literalType?_eq_some_iff.2 hbool]
      rfl
    rintro (⟨h, ha⟩ | ⟨h, he, hb⟩ | ⟨h, he, hcall⟩)
    · rw [VariableLine.type, h]
      exact congrArg String.ofList ha
    · exact hliteral h he (hasType_bool_iff.2 (.inl ⟨_, hb⟩))
    · exact hliteral h he (hasType_bool_iff.2 (.inr ⟨_, _, _, hcall⟩))

/-- Variables declared line by line are read back: each name stands where it is declared first, with the type
that is declared last. A declaration without a type has that of its value, if the value has one of the forms
that tell it, and any otherwise. So the truth values are the names that are last declared as such. -/
theorem stateVariables_variableLines (ls : List VariableLine) :
    stateVariables (variableLines ls) = Entries.ofList (ls.map VariableLine.entry) ∧
    Entries.keys (stateVariables (variableLines ls)) =
      (ls.map fun l => String.ofList l.name.text).eraseDups ∧
    (∀ n, (stateVariables (variableLines ls)).get? n =
      Entries.get? (ls.map VariableLine.entry).reverse n) ∧
    (∀ e x, literalType? e = some x ↔ HasType (strip (upTo ['/', '/'] e)) x) ∧
    ∀ m : ViewModel,
      ({ m with stateVariables := stateVariables (variableLines ls) } : ViewModel).booleanState =
        (ls.map fun l => String.ofList l.name.text).eraseDups.filter (fun n =>
          Entries.get? (ls.map VariableLine.entry).reverse n == some "Bool") ∧
      ∀ n, n ∈ ({ m with stateVariables := stateVariables (variableLines ls) } : ViewModel).booleanState ↔
        ∃ before l after, ls = before ++ l :: after ∧ String.ofList l.name.text = n ∧
          (∀ l' ∈ after, l'.name.text ≠ l.name.text) ∧ SaysBool l := by
  have hread := scan_variableLines ls
  have hnames : (ls.map VariableLine.entry).map (·.1) = ls.map fun l => String.ofList l.name.text := by
    rw [List.map_map]
    rfl
  refine ⟨hread, ?_, fun n => ?_, fun e x => literalType?_eq_some_iff, fun m => ⟨?_, fun n => ?_⟩⟩
  · rw [hread, Entries.keys_ofList, hnames]
  · rw [hread, Entries.get?_ofList]
  · rw [ViewModel.booleanState_eq hread, hnames]
  · rw [ViewModel.mem_booleanState_iff hread]
    constructor
    · rintro ⟨before, after, hls, hafter⟩
      obtain ⟨before, rest, rfl, rfl, hrest⟩ := List.map_eq_append_iff.1 hls
      obtain ⟨l, after, rfl, hl, rfl⟩ := List.map_eq_cons_iff.1 hrest
      obtain ⟨hname, htype⟩ := Prod.mk.inj hl
      refine ⟨before, l, after, rfl, hname, fun l' hl' heq => ?_, type_eq_bool_iff.1 htype⟩
      exact hafter _ (List.mem_map_of_mem hl') (by rw [VariableLine.entry, heq, hname])
    · rintro ⟨before, l, after, rfl, rfl, hafter, hbool⟩
      refine ⟨before.map VariableLine.entry, after.map VariableLine.entry, ?_, ?_⟩
      · rw [List.map_append, List.map_cons, VariableLine.entry, type_eq_bool_iff.2 hbool]
      · intro e he heq
        obtain ⟨l', hl', rfl⟩ := List.mem_map.1 he
        exact hafter l' hl' (String.ofList_injective heq)

def nestedLine : VariableLine where
  wrapper := "State"
  wrapped := by decide
  access := none
  name := ⟨'s', "een".toList, by decide, by decide⟩
  declared := none
  initial := some ⟨"Set<Array<Int>>()".toList, by decide, by decide +kernel, by decide⟩

theorem stateVariables_nestedLine :
    variableLines [nestedLine] = "@State var seen = Set<Array<Int>>()".toList ∧
    stateVariables (variableLines [nestedLine]) = [("seen", "Any")] ∧
    stateVariables "@State var größe: Int".toList = [("gr", "Any")] ∧
    literalType? "Éclair()".toList = none ∧ literalType? "Bool(1)".toList = some "Bool" := by
  refine ⟨?_, ?_, ?_, ?_, ?_⟩ <;> decide +kernel

end TestScaffold.Swift
