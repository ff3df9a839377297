import TestScaffold.Proofs.Pattern.Captures
import TestScaffold.Proofs.Swift.ControlForms
import TestScaffold.Swift.View

namespace TestScaffold.Swift

open Text Pattern

def isDigitOrUnderscore (c : Char) : Bool := isDigit c || c == '_'

def isDotted (c : Char) : Bool := isWord c || c == '.'

structure Digits where
  first : Char
  rest : List Char
  first_digit : isDigit first = true
  rest_digit : ∀ c ∈ rest, isDigitOrUnderscore c = true

def Digits.text (n : Digits) : List Char := n.first :: n.rest

def signText (negative : Bool) : List Char := if negative then ['-'] else []

structure CapitalName where
  first : Char
  rest : List Char
  capital : 'A' ≤ first ∧ first ≤ 'Z'
  dotted : ∀ c ∈ rest, isDotted c = true

def CapitalName.text (n : CapitalName) : List Char := n.first :: n.rest

/-- Arguments of a type in angle brackets, which end at the first that closes, and blanks behind them. -/
structure TypeArguments where
  inside : List Char
  behind : Gap
  closing : '>' ∉ inside

def argumentsText : Option TypeArguments → List Char
  | none => []
  | some a => '<' :: (a.inside ++ '>' :: a.behind.text)

inductive HasType : List Char → String → Prop
  | string (u : List Char) : HasType ('"' :: u) "String"
  | truth (b : Bool) : HasType (if b then "true" else "false").toList "Bool"
  | double (negative : Bool) (n m : Digits) :
      HasType (signText negative ++ (n.text ++ '.' :: m.text)) "Double"
  | int (negative : Bool) (n : Digits) : HasType (signText negative ++ n.text) "Int"
  | call (n : CapitalName) (g : Gap) (a : Option TypeArguments) (u : List Char) :
      HasType (n.text ++ (g.text ++ (argumentsText a ++ '(' :: u))) (String.ofList n.text)

namespace Grammar

variable {s t : Cursor Slot} {r : List Char}

theorem mem_digits (h : t ∈ digits.ways s) : ∃ n : Digits, s.Reads n.text t := by
  obtain ⟨m, hm, ht⟩ := mem_seq.1 h
  obtain ⟨c, hc, hfirst⟩ := reads_one hm
  have hover : (star (.one isDigitOrUnderscore) : Grammar).Over
      fun c => isDigitOrUnderscore c = true := fun _ h => h
  obtain ⟨u, hu, hrest⟩ := hover.reads ht
  exact ⟨⟨c, u, hc, hrest⟩, hfirst.trans hu⟩

theorem mem_intLiteral (h : t ∈ intLiteral.ways s) :
    ∃ (negative : Bool) (n : Digits), s.Reads (signText negative ++ n.text) t := by
  obtain ⟨m, hm, ht⟩ := mem_seq.1 h
  obtain ⟨n, hn⟩ := mem_digits ht
  rcases mem_alt.1 hm with hm | hm
  · exact ⟨true, n, (reads_char hm).trans hn⟩
  · obtain rfl := List.mem_singleton.1 hm
    exact ⟨false, n, hn⟩

theorem mem_floatLiteral (h : t ∈ floatLiteral.ways s) : ∃ (negative : Bool) (n m : Digits),
    s.Reads (signText negative ++ (n.text ++ '.' :: m.text)) t := by
  obtain ⟨m₁, h₁, h⟩ := mem_all_cons.1 h
  obtain ⟨m₂, h₂, h⟩ := mem_all_cons.1 h
  obtain ⟨negative, n, hn⟩ := mem_intLiteral h₁
  obtain ⟨m, hm⟩ := mem_digits h
  have hread := hn.trans ((reads_char h₂).trans hm)
  exact ⟨negative, n, m, by simpa using hread⟩

theorem takes_digits (n : Digits) (hr : ∀ c ∈ r.head?, isDigitOrUnderscore c = false) :
    digits.Takes n.text r [] := by
  have hrest : (star (.one isDigitOrUnderscore) : Grammar).Takes n.rest r [] := takes_run n.rest_digit hr
  have hdigits : (all [.one isDigit, star (.one isDigitOrUnderscore)] : Grammar).Takes _ r _ :=
    (takes_one n.first_digit).cons hrest
  exact hdigits

theorem takes_intLiteral (negative : Bool) (n : Digits)
    (hr : ∀ c ∈ r.head?, isDigitOrUnderscore c = false) :
    intLiteral.Takes (signText negative ++ n.text) r [] := by
  have hsign : (optional (Pattern.char '-') : Grammar).Takes (signText negative) (n.text ++ r) [] := by
    cases negative with
    | true => exact (takes_char '-').optional
    | false =>
      refine Takes.right (fun s hs => ?_) takes_empty
      have hne : n.first ≠ '-' := fun heq => absurd n.first_digit (by rw [heq]; decide)
      simp [Pattern.char, ways, hs, signText, Digits.text, hne]
  have hint : (all [optional (Pattern.char '-'), digits] : Grammar).Takes _ r _ :=
    hsign.cons (takes_digits n hr)
  exact hint

theorem takes_floatLiteral (negative : Bool) (n m : Digits)
    (hr : ∀ c ∈ r.head?, isDigitOrUnderscore c = false) :
    floatLiteral.Takes (signText negative ++ (n.text ++ '.' :: m.text)) r [] := by
  have hfloat : floatLiteral.Takes _ r _ :=
    (takes_intLiteral negative n (by rintro c ⟨⟩; decide)).cons <|
      (takes_char '.').cons (takes_digits m hr)
  simpa using hfloat

theorem covers_intLiteral_iff {cs : List Char} : intLiteral.covers cs = true ↔
    ∃ (negative : Bool) (n : Digits), cs = signText negative ++ n.text := by
  constructor
  · intro h
    obtain ⟨t, ht, hend⟩ := covers_iff.1 h
    obtain ⟨negative, n, hread⟩ := mem_intLiteral ht
    exact ⟨negative, n, by simpa [hend, Cursor.ofText] using hread.ahead⟩
  · rintro ⟨negative, n, rfl⟩
    exact (takes_intLiteral negative n (by simp)).covers

theorem covers_floatLiteral_iff {cs : List Char} : floatLiteral.covers cs = true ↔
    ∃ (negative : Bool) (n m : Digits), cs = signText negative ++ (n.text ++ '.' :: m.text) := by
  constructor
  · intro h
    obtain ⟨t, ht, hend⟩ := covers_iff.1 h
    obtain ⟨negative, n, m, hread⟩ := mem_floatLiteral ht
    exact ⟨negative, n, m, by simpa [hend, Cursor.ofText] using hread.ahead⟩
  · rintro ⟨negative, n, m, rfl⟩
    exact (takes_floatLiteral negative n m (by simp)).covers

def isCapital (c : Char) : Bool := 'A' ≤ c && c ≤ 'Z'

theorem isDotted_eq_false_of_isBlank {c : Char} (h : isBlank c = true) : isDotted c = false := by
  have hpoint : c ≠ '.' := fun heq => absurd h (by rw [heq]; decide)
  simp [isDotted, isWord_eq_false_of_isBlank h, hpoint]

def opening : Grammar :=
  all [blanks, optional (all [Pattern.char '<', star (except ['>']), Pattern.char '>']), blanks,
    Pattern.char '(']

theorem mem_opening (h : t ∈ opening.ways s) :
    ∃ (g : Gap) (a : Option TypeArguments), s.Reads (g.text ++ (argumentsText a ++ ['('])) t := by
  obtain ⟨m₁, hfront, htail⟩ := mem_all_cons.1 h
  obtain ⟨m₂, harguments, hbehind⟩ := mem_all_cons.1 htail
  obtain ⟨m₃, hblanks, hparenthesis⟩ := mem_all_cons.1 hbehind
  obtain ⟨g, hg, hblank⟩ := mem_blanks hfront
  obtain ⟨g', hg', hblank'⟩ := mem_blanks hblanks
  have hend := hg'.trans (reads_char hparenthesis)
  rcases mem_alt.1 harguments with harguments | hnone
  · obtain ⟨m₄, hless, hrest⟩ := mem_all_cons.1 harguments
    obtain ⟨m₅, hstar, hgreater⟩ := mem_all_cons.1 hrest
    have hover : (star (except ['>']) : Grammar).Over (· ≠ '>') := fun c hc => by simpa using hc
    obtain ⟨u, hu, hinside⟩ := hover.reads hstar
    refine ⟨⟨g, hblank⟩, some ⟨u, ⟨g', hblank'⟩, fun hmem => hinside _ hmem rfl⟩, ?_⟩
    have hread := hg.trans (((reads_char hless).trans (hu.trans (reads_char hgreater))).trans hend)
    simpa [argumentsText] using hread
  · -- Without arguments the blanks on both of their sides are one gap.
    obtain rfl := List.mem_singleton.1 hnone
    refine ⟨⟨g ++ g', fun c hc => (List.mem_append.1 hc).elim (hblank c) (hblank' c)⟩, none, ?_⟩
    simpa [argumentsText] using hg.trans hend

theorem takes_opening (g : Gap) (a : Option TypeArguments) :
    opening.Takes (g.text ++ (argumentsText a ++ ['('])) r [] := by
  have hparenthesis : ∀ c ∈ (['('] ++ r).head?, isBlank c = false := by
    rintro c ⟨⟩
    decide
  cases a with
  | none =>
    have hskip : (optional (all [Pattern.char '<', star (except ['>']), Pattern.char '>']) :
        Grammar).Takes [] ([] ++ ['('] ++ r) [] := takes_skip (by rintro c ⟨⟩; decide)
    have hopening : opening.Takes _ r _ :=
      (takes_blanks g hparenthesis).cons <| hskip.cons <|
        (takes_noBlanks hparenthesis).cons (takes_char '(')
    simpa [argumentsText] using hopening
  | some a =>
    have hinside : (star (except ['>']) : Grammar).Takes a.inside
        (['>'] ++ (a.behind.text ++ ['('] ++ r)) [] := by
      refine takes_run (fun c hc => ?_) ?_
      · have hne : c ≠ '>' := ne_of_mem_of_not_mem hc a.closing
        simpa using hne
      · rintro c ⟨⟩
        decide
    have harguments : (all [Pattern.char '<', star (except ['>']), Pattern.char '>'] : Grammar).Takes
        _ (a.behind.text ++ ['('] ++ r) _ :=
      (takes_char '<').cons <| hinside.cons (takes_char '>')
    have hopening : opening.Takes _ r _ :=
      (takes_blanks g (by rintro c ⟨⟩; decide)).cons <| harguments.optional.cons <|
        (takes_blanks a.behind hparenthesis).cons (takes_char '(')
    simpa [argumentsText] using hopening

theorem mem_initializer (h : t ∈ initializer.ways s) :
    ∃ (n : CapitalName) (g : Gap) (a : Option TypeArguments) (u : List Char) (y : Stretch),
      s.ahead = n.text ++ (g.text ++ (argumentsText a ++ '(' :: u)) ∧
      t.captures.find? (·.1 = .type) = some (.type, y) ∧ y.text = n.text := by
  obtain ⟨m, hm, h⟩ := mem_all_cons.1 h
  obtain ⟨m₁, h₁, rfl⟩ := mem_capture.1 hm
  obtain ⟨m₂, h₂, h₃⟩ := mem_seq.1 h₁
  obtain ⟨c, hc, hfirst⟩ := reads_one h₂
  have hover : dottedChar.star.Over fun c => isDotted c = true := fun c hc => hc
  obtain ⟨u, hu, hrest⟩ := hover.reads h₃
  have hname := hfirst.trans hu
  obtain ⟨g, a, hread⟩ := mem_opening h
  refine ⟨⟨c, u, by simpa using hc, hrest⟩, g, a, t.ahead, s.upTo m₁, ?_, ?_, hname.text_upTo⟩
  · have hahead := (hname.capture.trans hread).ahead
    simpa [CapitalName.text] using hahead
  · have hnone : opening.Captures .type fun _ => False :=
      ⟨trivial, ⟨⟨trivial, trivial, trivial⟩, trivial⟩, trivial, trivial⟩
    rw [hnone.find?_eq h]
    rfl

theorem isDotted_head?_opening (g : Gap) (a : Option TypeArguments) :
    ∀ c ∈ (g.text ++ (argumentsText a ++ ['(']) ++ r).head?, isDotted c = false := by
  intro c hc
  rw [List.append_assoc] at hc
  cases hg : g.text with
  | nil =>
    rw [hg] at hc
    cases a <;> (obtain rfl := Option.some.inj hc; decide)
  | cons d u =>
    rw [hg] at hc
    obtain rfl := Option.some.inj hc
    exact isDotted_eq_false_of_isBlank (g.blank d (by simp [hg]))

theorem takes_initializer (n : CapitalName) (g : Gap) (a : Option TypeArguments) :
    initializer.Takes (n.text ++ (g.text ++ (argumentsText a ++ ['(']))) r [(.type, n.text)] := by
  have hcapital : isCapital n.first = true := by simpa [isCapital] using n.capital
  have hrest : dottedChar.star.Takes n.rest (g.text ++ (argumentsText a ++ ['(']) ++ r) [] :=
    takes_run n.dotted (isDotted_head?_opening g a)
  have hname : (all [.one isCapital, dottedChar.star] : Grammar).Takes n.text _ _ :=
    (takes_one hcapital).cons hrest
  have hcall : (all [.capture .type (all [.one isCapital, dottedChar.star]), opening] : Grammar).Takes
      _ r _ := (hname.capture .type).cons (takes_opening g a)
  exact hcall

theorem match?_initializer_iff {cs : List Char} {x : String} :
    (initializer.match? cs).map (·.string .type) = some x ↔
      ∃ (n : CapitalName) (g : Gap) (a : Option TypeArguments) (u : List Char),
        cs = n.text ++ (g.text ++ (argumentsText a ++ '(' :: u)) ∧ x = String.ofList n.text := by
  constructor
  · intro h
    obtain ⟨m, hm, rfl⟩ := Option.map_eq_some_iff.1 h
    rw [Pattern.match?, here?_eq] at hm
    obtain ⟨t, ht, rfl⟩ := Option.map_eq_some_iff.1 hm
    obtain ⟨n, g, a, u, y, hcs, hfind, hy⟩ := mem_initializer (List.mem_of_head? ht)
    refine ⟨n, g, a, u, hcs, ?_⟩
    simp [Found.string, Found.text, Found.text?, Found.stretch?, hfind, hy]
  · rintro ⟨n, g, a, u, rfl, rfl⟩
    obtain ⟨m, hm, hcaptured⟩ := (takes_initializer (r := u) n g a).match?
    have htext : m.text? .type = some n.text := by
      rw [Found.text?_captured, hcaptured]
      rfl
    have hcs : n.text ++ (g.text ++ (argumentsText a ++ '(' :: u)) =
        n.text ++ (g.text ++ (argumentsText a ++ ['('])) ++ u := by simp
    rw [hcs, hm, Option.map_some, Found.string, Found.text, htext]
    rfl

end Grammar

variable {e : List Char} {c : Char} {x : String}

theorem isDigit_eq_false_of_capital (h : 'A' ≤ c ∧ c ≤ 'Z') : isDigit c = false := by
  have hsmall : c.toNat < 128 := Nat.lt_of_le_of_lt ((char_le_iff _ _).1 h.2) (by decide)
  exact forall_ascii (P := fun c => 'A' ≤ c ∧ c ≤ 'Z' → isDigit c = false) (by decide +kernel) hsmall h

theorem head_number (negative : Bool) (n : Digits) (u : List Char) :
    ∃ c, (signText negative ++ (n.text ++ u)).head? = some c ∧ (c = '-' ∨ isDigit c = true) := by
  cases negative with
  | true => exact ⟨'-', rfl, .inl rfl⟩
  | false => exact ⟨n.first, rfl, .inr n.first_digit⟩

theorem not_opening_of_number (h : c = '-' ∨ isDigit c = true) : c ∉ ['"', 't', 'f'] := by
  intro hmem
  simp only [List.mem_cons, List.not_mem_nil, or_false] at hmem
  rcases h with rfl | h
  · revert hmem
    decide
  · rcases hmem with rfl | rfl | rfl <;> exact absurd h (by decide)

namespace CapitalName

variable (n : CapitalName)

theorem not_opening : n.first ∉ ['"', 't', 'f'] := by
  intro hmem
  simp only [List.mem_cons, List.not_mem_nil, or_false] at hmem
  rcases hmem with hc | hc | hc <;> exact absurd n.capital (by rw [hc]; decide)

theorem ne_number (negative : Bool) (m : Digits) (u v : List Char) :
    n.text ++ u ≠ signText negative ++ (m.text ++ v) := by
  intro heq
  obtain ⟨c, hhead, hc⟩ := head_number negative m v
  rw [← heq] at hhead
  obtain rfl : n.first = c := Option.some.inj hhead
  rcases hc with hc | hc
  · exact absurd n.capital (by rw [hc]; decide)
  · rw [isDigit_eq_false_of_capital n.capital] at hc
    cases hc

end CapitalName

theorem point_not_mem_int (negative : Bool) (n : Digits) : '.' ∉ signText negative ++ n.text := by
  have hdigits : '.' ∉ n.text := by
    intro hmem
    rcases List.mem_cons.1 hmem with hfirst | hrest
    · exact absurd n.first_digit (by rw [← hfirst]; decide)
    · exact absurd (n.rest_digit _ hrest) (by decide)
  cases negative with
  | true => simpa [signText] using hdigits
  | false => exact hdigits

theorem literalType?_of_head {cs : List Char} (he : strip (upTo ['/', '/'] e) = cs)
    (hhead : cs.head? = some c) (hc : c ∉ ['"', 't', 'f']) : literalType? e =
      if Grammar.floatLiteral.covers cs then some "Double"
      else if Grammar.intLiteral.covers cs then some "Int"
      else (Grammar.initializer.match? cs).map (·.string .type) := by
  obtain ⟨u, rfl⟩ := List.head?_eq_some_iff.1 hhead
  simp only [List.mem_cons, List.not_mem_nil, or_false, not_or] at hc
  simp [literalType?, he, hc]

theorem hasType_of_literalType? (h : literalType? e = some x) :
    HasType (strip (upTo ['/', '/'] e)) x := by
  unfold literalType? at h
  generalize strip (upTo ['/', '/'] e) = cs at h
  dsimp only at h
  split at h
  · cases h
  split at h
  · rename_i hquote
    cases h
    obtain ⟨u, rfl⟩ := List.head?_eq_some_iff.1 hquote
    exact .string u
  split at h
  · rename_i htruth
    cases h
    simp only [Bool.or_eq_true, decide_eq_true_eq] at htruth
    rcases htruth with rfl | rfl
    · exact .truth true
    · exact .truth false
  split at h
  · rename_i hfloat
    cases h
    obtain ⟨negative, n, m, rfl⟩ := Grammar.covers_floatLiteral_iff.1 hfloat
    exact .double negative n m
  split at h
  · rename_i hint
    cases h
    obtain ⟨negative, n, rfl⟩ := Grammar.covers_intLiteral_iff.1 hint
    exact .int negative n
  · obtain ⟨n, g, a, u, rfl, rfl⟩ := Grammar.match?_initializer_iff.1 h
    exact .call n g a u

theorem literalType?_eq_some_iff :
    literalType? e = some x ↔ HasType (strip (upTo ['/', '/'] e)) x := by
  refine ⟨hasType_of_literalType?, fun h => ?_⟩
  generalize he : strip (upTo ['/', '/'] e) = cs at h
  cases h with
  | string u => simp [literalType?, he]
  | truth b => cases b <;> (simp only [literalType?, he]; rfl)
  | double negative n m =>
    obtain ⟨c, hhead, hc⟩ := head_number negative n ('.' :: m.text)
    rw [literalType?_of_head he hhead (not_opening_of_number hc),
      if_pos (Grammar.covers_floatLiteral_iff.2 ⟨negative, n, m, rfl⟩)]
  | int negative n =>
    obtain ⟨c, hhead, hc⟩ := head_number negative n []
    rw [List.append_nil] at hhead
    have hfloat : Grammar.floatLiteral.covers (signText negative ++ n.text) ≠ true := by
      intro hfloat
      obtain ⟨negative', n', m', htext⟩ := Grammar.covers_floatLiteral_iff.1 hfloat
      exact point_not_mem_int negative n (by simp [htext])
    rw [literalType?_of_head he hhead (not_opening_of_number hc), if_neg hfloat,
      if_pos (Grammar.covers_intLiteral_iff.2 ⟨negative, n, rfl⟩)]
  | call n g a u =>
    have hcall := Grammar.match?_initializer_iff.2 ⟨n, g, a, u, rfl, rfl⟩
    rw [literalType?_of_head he rfl n.not_opening, if_neg, if_neg, hcall]
    · intro hint
      obtain ⟨negative, m, htext⟩ := Grammar.covers_intLiteral_iff.1 hint
      exact n.ne_number negative m _ [] (by rw [htext, List.append_nil])
    · intro hfloat
      obtain ⟨negative, m, m', htext⟩ := Grammar.covers_floatLiteral_iff.1 hfloat
      exact n.ne_number negative m _ _ htext

end TestScaffold.Swift
