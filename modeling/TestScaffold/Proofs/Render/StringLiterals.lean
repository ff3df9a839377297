import TestScaffold.Proofs.Pattern.Captures
import TestScaffold.Proofs.Render.Forms
import TestScaffold.Proofs.Swift.BodyGrammar
import TestScaffold.Proofs.Swift.ElementPasses

namespace TestScaffold.Swift

open Pattern

variable {b : Option Char} {o : Nat} {k : List (Slot × Stretch)} {s t : Cursor Slot}
  {e e' : Char} {l r r' u v x y : List Char} {i : Slot}

theorem StringUnits.unique (hu : StringUnits u) (hv : StringUnits v) (he : e = '"' ∨ e = '\n')
    (he' : e' = '"' ∨ e' = '\n') (h : u ++ e :: r = v ++ e' :: r') : u = v ∧ r = r' := by
  induction hu generalizing v with
  | nil =>
    cases hv with
    | nil => exact ⟨rfl, (List.cons.inj h).2⟩
    | escape =>
      obtain rfl := (List.cons.inj h).1
      rcases he with he | he <;> exact absurd he (by decide)
    | plain quote slash line =>
      obtain rfl := (List.cons.inj h).1
      exact (he.elim quote line).elim
  | @escape c u rest ih =>
    cases hv with
    | nil =>
      obtain rfl := (List.cons.inj h).1
      rcases he' with he' | he' <;> exact absurd he' (by decide)
    | @escape d v rest' =>
      obtain ⟨rfl, htail⟩ := List.cons.inj (List.cons.inj h).2
      obtain ⟨rfl, hr⟩ := ih rest' htail
      exact ⟨rfl, hr⟩
    | plain quote slash => exact absurd (List.cons.inj h).1.symm slash
  | @plain c u quote slash line rest ih =>
    cases hv with
    | nil =>
      obtain rfl := (List.cons.inj h).1
      exact (he'.elim quote line).elim
    | escape => exact absurd (List.cons.inj h).1 slash
    | plain quote' slash' line' rest' =>
      obtain ⟨rfl, htail⟩ := List.cons.inj h
      obtain ⟨rfl, hr⟩ := ih rest' htail
      exact ⟨rfl, hr⟩

theorem not_tripleQuote_literal (hl : IsLiteral l) (hr : r.head? ≠ some '"') :
    ¬ tripleQuote <+: '"' :: (l ++ '"' :: r) := by
  rintro ⟨x, hx⟩
  cases l with
  | nil =>
    have htail : '"' :: x = r := (List.cons.inj (List.cons.inj hx).2).2
    rw [← htail] at hr
    exact hr rfl
  | cons c l => exact hl.head_ne (List.cons.inj (List.cons.inj hx).2).1.symm

theorem lexeme_literal (hl : IsLiteral l) (hr : r.head? ≠ some '"') :
    Lexeme ('"' :: (l ++ ['"'])) r :=
  .string hl.stringUnits (.inl rfl) (not_tripleQuote_literal hl hr)

theorem eq_literal_of_lexeme (hl : IsLiteral l) (hr : r.head? ≠ some '"') (h : Lexeme x y)
    (heq : x ++ y = '"' :: (l ++ '"' :: r)) : x = '"' :: (l ++ ['"']) := by
  cases h with
  | block first =>
    refine absurd ?_ (not_tripleQuote_literal hl hr)
    rw [← heq, List.append_assoc]
    exact List.prefix_append _ _
  | @string u _ e units ending single =>
    have htail : u ++ e :: y = l ++ '"' :: r := by simpa using heq
    obtain ⟨rfl, rfl⟩ := units.unique hl.stringUnits ending (.inl rfl) htail
    obtain rfl : e = '"' := (List.cons.inj (List.append_cancel_left htail)).1
    rfl
  | comment => exact absurd (List.cons.inj heq).1 (by decide)
  | other quote => exact absurd (List.cons.inj heq).1 quote

theorem IsLiteral.append (hu : IsLiteral u) (hv : IsLiteral v) : IsLiteral (u ++ v) := by
  induction hu with
  | nil => exact hv
  | plain quote slash line rest ih => exact .plain quote slash line ih
  | escape line rest ih => exact .escape line ih

namespace Grammar

theorem mem_stringUnit (h : t ∈ stringUnit.ways s) :
    ∃ u, IsLiteral u ∧ s.ahead = u ++ t.ahead ∧ t = s.move u := by
  rcases mem_alt.1 h with h | h
  · obtain ⟨c, r, hs, hc, rfl⟩ := mem_one.1 h
    obtain ⟨quote, slash, line⟩ : c ≠ '"' ∧ c ≠ '\\' ∧ c ≠ '\n' := by simpa using hc
    exact ⟨[c], .plain quote slash line .nil, by simp [hs, Cursor.move], rfl⟩
  · obtain ⟨m, hm, h⟩ := mem_seq.1 h
    obtain ⟨d, x, hd, hslash, rfl⟩ := mem_one.1 hm
    obtain ⟨c, r, hs, hc, rfl⟩ := mem_one.1 h
    obtain rfl := eq_of_beq hslash
    have hahead : s.ahead = '\\' :: c :: r := by
      rw [hd]
      simpa [Cursor.move, hd] using hs
    exact ⟨['\\', c], .escape (by simpa using hc) .nil, by simp [hahead, Cursor.move], s.move_move _ _⟩

theorem mem_stringBody (h : t ∈ stringBody.ways s) :
    ∃ u, IsLiteral u ∧ s.ahead = u ++ t.ahead ∧ t = s.move u := by
  refine repeats_rel (R := fun s t => ∃ u, IsLiteral u ∧ s.ahead = u ++ t.ahead ∧ t = s.move u)
    (fun s => ⟨[], .nil, rfl, s.move_nil.symm⟩) ?_ (fun _ _ => mem_stringUnit) true s.ahead h
  rintro s m t ⟨u, hu, hsu, rfl⟩ ⟨v, hv, hsv, rfl⟩
  exact ⟨u ++ v, hu.append hv, by rw [hsu, hsv, List.append_assoc], s.move_move u v⟩

theorem mem_string_iff (hl : IsLiteral l) : t ∈ (string i).ways ⟨b, o, '"' :: (l ++ '"' :: r), k⟩ ↔
    t = ⟨some '"', o + 1 + l.length + 1, r, (i, ⟨o + 1, l ++ '"' :: r, l.length⟩) :: k⟩ := by
  constructor
  · intro h
    obtain ⟨m, hm, h⟩ := mem_all_cons.1 h
    obtain ⟨n', hn', h⟩ := mem_all_cons.1 h
    obtain ⟨n, hn, rfl⟩ := mem_capture.1 hn'
    obtain ⟨c, x, hc, hquote, rfl⟩ := mem_one.1 hm
    obtain ⟨u, hu, hahead, rfl⟩ := mem_stringBody hn
    obtain ⟨d, y, hd, hend, rfl⟩ := mem_one.1 h
    obtain rfl := eq_of_beq hend
    obtain ⟨rfl, rfl⟩ := List.cons.inj hc
    have hopen : Cursor.move ⟨b, o, '"' :: (l ++ '"' :: r), k⟩ ['"'] =
        ⟨some '"', o + 1, l ++ '"' :: r, k⟩ := rfl
    rw [hopen] at hahead hd ⊢
    have hnext : l ++ '"' :: r = u ++ '"' :: y := hahead.trans (congrArg (u ++ ·) hd)
    obtain ⟨rfl, rfl⟩ := hl.stringUnits.unique hu.stringUnits (.inl rfl) (.inl rfl) hnext
    simp [Cursor.move, Cursor.capture, Cursor.upTo]
  · rintro rfl
    exact List.mem_of_head? (prefers_string hl i)

end Grammar

end TestScaffold.Swift

namespace TestScaffold.Render

open Pattern Swift

variable {c : Char} {cs : List Char} {v w : String}

def replaced (c : Char) (w cs : List Char) : List Char := cs.flatMap fun d => if d = c then w else [d]

def unescaped : List Char → List Char
  | '\\' :: '\\' :: cs => '\\' :: unescaped cs
  | '\\' :: '"' :: cs => '"' :: unescaped cs
  | '\\' :: 'n' :: cs => '\n' :: unescaped cs
  | c :: cs => c :: unescaped cs
  | [] => []

def literalOf (v : String) : List Char := '"' :: ((swiftString v).toList ++ ['"'])

theorem toList_swiftString (v : String) : (swiftString v).toList = v.toList.flatMap escapedChar :=
  String.toList_ofList

theorem escapedChar_eq_replaced (c : Char) : escapedChar c =
    replaced '\n' ['\\', 'n'] (replaced '"' ['\\', '"'] (replaced '\\' ['\\', '\\'] [c])) := by
  rcases escapedChar_cases c with ⟨hc, hplain⟩ | ⟨x, -, -, hc⟩
  · simp only [List.mem_cons, List.not_mem_nil, or_false, not_or] at hplain
    simp [hc, replaced, hplain.1, hplain.2.1, hplain.2.2]
  · simp only [List.mem_cons, List.not_mem_nil, or_false] at hc
    rcases hc with rfl | rfl | rfl <;> rfl

theorem replaced_append (c : Char) (w u v : List Char) :
    replaced c w (u ++ v) = replaced c w u ++ replaced c w v := List.flatMap_append

theorem swiftString_eq_replaced (v : String) : (swiftString v).toList =
    replaced '\n' ['\\', 'n'] (replaced '"' ['\\', '"'] (replaced '\\' ['\\', '\\'] v.toList)) := by
  rw [toList_swiftString]
  generalize v.toList = cs
  induction cs with
  | nil => rfl
  | cons c cs ih =>
    rw [List.flatMap_cons, ih, escapedChar_eq_replaced, ← List.singleton_append (x := c) (l := cs)]
    simp only [replaced_append]

theorem unescaped_escapedChar (c : Char) (cs : List Char) :
    unescaped (escapedChar c ++ cs) = c :: unescaped cs := by
  rcases escapedChar_cases c with ⟨hc, hplain⟩ | ⟨x, -, -, hc⟩
  · simp only [List.mem_cons, List.not_mem_nil, or_false, not_or] at hplain
    rw [hc, List.singleton_append, unescaped] <;> exact fun _ h => absurd h hplain.1
  · simp only [List.mem_cons, List.not_mem_nil, or_false] at hc
    rcases hc with rfl | rfl | rfl <;> rfl

theorem unescaped_swiftString (v : String) : unescaped (swiftString v).toList = v.toList := by
  rw [toList_swiftString]
  induction v.toList with
  | nil => rfl
  | cons c cs ih => rw [List.flatMap_cons, unescaped_escapedChar, ih]

theorem swiftString_injective : Function.Injective swiftString := by
  intro v w h
  rw [← String.toList_inj, ← unescaped_swiftString v, h, unescaped_swiftString]

theorem staticTexts_literal {l : List Char} (hl : IsLiteral l) :
    staticTexts ("Text".toList ++ '(' :: '"' :: (l ++ ['"', ')'])) = [{
      kind := .text
      label := String.ofList l
      start := 0
      stop := l.length + 8
      binding := none }] := by
  generalize htext : "Text".toList ++ '(' :: '"' :: (l ++ ['"', ')']) = text
  have hlength : text.length = l.length + 8 := by
    rw [← htext]
    simp
  obtain ⟨t, hp, hoffset, hcaptures⟩ : ∃ t, Grammar.staticText.Prefers ⟨none, 0, text ++ [], []⟩ t ∧
      t.offset = l.length + 8 ∧ t.captures = [(.label, ⟨6, l ++ ['"', ')'], l.length⟩)] := by
    rw [List.append_nil, ← htext]
    refine ⟨_, Grammar.prefers_staticText rfl hl, ?_, rfl⟩
    simp
    omega
  have hne : text ≠ [] := by
    rintro rfl
    simp at hlength
  have hfound := hp.scans (f := callOf .text) hne (by omega)
  have hlabel (m : Found Slot) (hm : m.captures = t.captures) : labelOf m = String.ofList l :=
    labelOf_eq (by rw [hm, hcaptures]; rfl)
  have hbinding (m : Found Slot) (hm : m.captures = t.captures) : m.string? .binding = none := by
    simp [Found.string?, Found.text?, Found.stretch?, hm, hcaptures]
  have hend : Grammar.staticText.ways ⟨text.getLast?, text.length, [], []⟩ = [] := by
    refine finds_staticText.ways_eq_nil fun hs => ?_
    obtain ⟨w, -, -, d, r, hahead, -⟩ := hs.name
    simp at hahead
  refine (hfound.scan hend).trans ?_
  simp [callOf, hlabel, hbinding, hlength]

theorem staticTexts_literalOf (v : String) :
    staticTexts ("Text(".toList ++ (literalOf v ++ [')'])) = [{
      kind := .text
      label := swiftString v
      start := 0
      stop := ("Text(".toList ++ (literalOf v ++ [')'])).length
      binding := none }] := by
  have htext : "Text(".toList ++ (literalOf v ++ [')']) =
      "Text".toList ++ '(' :: '"' :: ((swiftString v).toList ++ ['"', ')']) := by
    simp [literalOf]
  rw [htext, staticTexts_literal (isLiteral_swiftString v), String.ofList_toList]
  simp

/-- A literal for a text is taken as a whole by the pattern of literals and by the search for the end of
a body, and from the label that is read of it the text is told. -/
theorem literalOf_read_back (v : String) :
    (swiftString v).toList =
      replaced '\n' ['\\', 'n'] (replaced '"' ['\\', '"'] (replaced '\\' ['\\', '\\'] v.toList)) ∧
    '\n' ∉ (swiftString v).toList ∧
    (∀ i b o k r t, t ∈ (Grammar.string i).ways ⟨b, o, literalOf v ++ r, k⟩ ↔
      t = ⟨some '"', o + (literalOf v).length, r,
        (i, ⟨o + 1, (swiftString v).toList ++ '"' :: r, (swiftString v).toList.length⟩) :: k⟩) ∧
    (∀ r : List Char, r.head? ≠ some '"' → Lexeme (literalOf v) r ∧
      (∀ x y, Lexeme x y → x ++ y = literalOf v ++ r → x = literalOf v) ∧
      ∀ d, upToClose .code d (literalOf v ++ r) = (upToClose .code d r).map (literalOf v ++ ·)) ∧
    unescaped (swiftString v).toList = v.toList ∧
    (∀ w, swiftString w = swiftString v ↔ w = v) ∧
    staticTexts ("Text(".toList ++ (literalOf v ++ [')'])) = [{
      kind := .text
      label := swiftString v
      start := 0
      stop := ("Text(".toList ++ (literalOf v ++ [')'])).length
      binding := none }] := by
  have hl := isLiteral_swiftString v
  have hread (r : List Char) : literalOf v ++ r = '"' :: ((swiftString v).toList ++ '"' :: r) := by
    simp [literalOf]
  refine ⟨swiftString_eq_replaced v, fun hmem => hl.inline _ hmem rfl, fun i b o k r t => ?_,
    fun r hr => ⟨lexeme_literal hl hr, fun x y hx heq => ?_, fun d => ?_⟩, unescaped_swiftString v,
    fun w => swiftString_injective.eq_iff, staticTexts_literalOf v⟩
  · rw [hread, Grammar.mem_string_iff hl]
    have hlength : o + 1 + (swiftString v).toList.length + 1 = o + (literalOf v).length := by
      simp [literalOf]
      omega
    rw [hlength]
  · exact eq_literal_of_lexeme hl hr hx (heq.trans (hread r))
  · exact upToClose_lexeme (lexeme_literal hl hr)

theorem literalOf_read_back_hostile :
    swiftString "\\\"\x7d\n" = "\\\\\\\"\x7d\\n" ∧
    unescaped "\\\\\\\"\x7d\\n".toList = "\\\"\x7d\n".toList ∧
    upToClose .code 0 (literalOf "\\\"\x7d\n" ++ ['\x7d']) = some (literalOf "\\\"\x7d\n") := by
  have hescaped : swiftString "\\\"\x7d\n" = "\\\\\\\"\x7d\\n" := by decide +kernel
  obtain ⟨-, -, -, hscanned, hunescaped, -⟩ := literalOf_read_back "\\\"\x7d\n"
  obtain ⟨-, -, hclose⟩ := hscanned ['\x7d'] (by decide)
  rw [hescaped] at hunescaped
  refine ⟨hescaped, hunescaped, ?_⟩
  rw [hclose 0, upToClose]
  simp

end TestScaffold.Render
