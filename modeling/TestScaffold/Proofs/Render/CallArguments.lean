import TestScaffold.Proofs.Render.ParameterLists
import TestScaffold.Proofs.Swift.Lexemes

namespace TestScaffold.Swift.Grammar

open Text Pattern

theorem mem_typeAttribute {s t : Cursor Slot} (h : t ∈ typeAttribute.ways s) :
    (∃ c r, s.ahead = '@' :: c :: r ∧ isWord c = true) ∨ Keyword "inout".toList s := by
  rcases mem_alt.1 h with h | h
  · obtain ⟨m, hm, h⟩ := mem_all_cons.1 h
    obtain ⟨n, hn, -⟩ := mem_all_cons.1 h
    obtain ⟨n', hn', -⟩ := mem_seq.1 hn
    obtain ⟨c, hc, hword⟩ := reads_one hn'
    refine .inl ⟨c, n'.ahead, ?_, hc⟩
    rw [mem_char hm, hword.ahead]
    rfl
  · have hword : t ∈ (all [wordEdge, lit "inout", someBlanks]).ways s := h
    exact .inr (keyword_of_mem (by decide) hword)

theorem erase_eq_self {u : List Char} (h : ∀ a v, u = a ++ '@' :: v → v.head?.any isWord = false)
    (hinout : ¬ Stands "inout".toList u) : typeAttribute.erase u = u := by
  have hnone {s : Cursor Slot} {a : List Char} (hu : u = a ++ s.ahead) (ha : s.before = a.getLast?) :
      typeAttribute.ways s = [] := by
    refine List.eq_nil_iff_forall_not_mem.2 fun t ht => ?_
    rcases mem_typeAttribute ht with ⟨c, r, hs, hc⟩ | ⟨hfree, c, r, hs, hc⟩
    · have hnext := h a (c :: r) (by rw [hu, hs])
      simp [hc] at hnext
    · refine hinout ⟨a, c, r, ?_, ha ▸ hfree, hc⟩
      rw [hu, hs, List.append_assoc]
  have hsilent : typeAttribute.Silent none u [] := by
    rintro a c v hu o
    exact hnone (a := a) (by simpa using hu) (by simp)
  have hscan : typeAttribute.scan u = [] := by
    have hmap := hsilent.scans.scan (f := id) (hnone (a := u) (by simp) rfl)
    simpa using hmap
  simp only [erase, hscan, List.any_nil, Bool.not_false, List.filter_true]
  exact List.zipIdx_map_fst 0 u

end TestScaffold.Swift.Grammar

namespace TestScaffold.Render

open Text Swift

def isPlain (c : Char) : Bool := !isBlank c && !isBracket c && c != ',' && c != ':'

structure PlainWord where
  text : List Char
  ne_nil : text ≠ []
  plain : ∀ c ∈ text, isPlain c = true

structure ParameterName extends PlainWord where
  named : text ≠ ['_']

structure ParameterType extends Segment where
  unmarked : ∀ u v, text = u ++ '@' :: v → v.head?.any isWord = false
  byValue : ¬ HasWord "inout".toList text
  equals : '=' ∉ text

inductive DefaultValue where
  | plain (value : PlainWord)
  | literal (inside : List Char)

/-- How a parameter is written: with its name for a label, with a label of its own, or with none. -/
inductive Naming where
  | bare (name : ParameterName)
  | labelled (label name : ParameterName)
  | unlabelled (name : ParameterName)

structure Parameter where
  naming : Naming
  type : ParameterType
  default? : Option DefaultValue

def DefaultValue.text : DefaultValue → List Char
  | .plain v => v.text
  | .literal l => '"' :: (l ++ ['"'])

def Naming.text : Naming → List Char
  | .bare n => n.text
  | .labelled l n => l.text ++ ' ' :: n.text
  | .unlabelled n => '_' :: ' ' :: n.text

def Naming.label? : Naming → Option (List Char)
  | .bare n => some n.text
  | .labelled l _ => some l.text
  | .unlabelled _ => none

def defaultText : Option DefaultValue → List Char
  | none => []
  | some d => [' ', '=', ' '] ++ d.text

namespace Parameter

def text (p : Parameter) : List Char :=
  p.naming.text ++ ':' :: ' ' :: (p.type.text ++ defaultText p.default?)

def argument (p : Parameter) : List Char :=
  let placeholder := ['<', '#'] ++ p.type.text ++ ['#', '>']
  match p.naming.label? with
  | none => placeholder
  | some l => l ++ [':', ' '] ++ placeholder

end Parameter

def printedParameters (ps : List Parameter) : List Char := [',', ' '].intercalate (ps.map Parameter.text)

/-- The commas of defaults stand inside of brackets that the default itself opens, and the brackets of each
default but the last cancel out. -/
structure Undisturbed (ps : List Parameter) : Prop where
  commas : ∀ p ∈ ps, ∀ d ∈ p.default?, CommasInside none 0 d.text
  level : ∀ p ∈ ps.dropLast, ∀ d ∈ p.default?, depth d.text = 0

variable {c : Char} {u v : List Char}

theorem isPlain_iff : isPlain c = true ↔
    isBlank c = false ∧ isBracket c = false ∧ c ≠ ',' ∧ c ≠ ':' := by
  simp [isPlain, and_assoc]

namespace DefaultValue

theorem ne_nil (d : DefaultValue) : d.text ≠ [] := by
  cases d with
  | plain v => exact v.ne_nil
  | literal l => exact List.cons_ne_nil _ _

theorem last (d : DefaultValue) : ∀ c ∈ d.text.getLast?, isBlank c = false := by
  cases d with
  | plain v => exact fun c hc => (isPlain_iff.1 (v.plain c (List.mem_of_getLast? hc))).1
  | literal l =>
    rw [text, ← List.cons_append, List.getLast?_concat]
    decide

end DefaultValue

namespace Naming

theorem mem_text (n : Naming) (h : c ∈ n.text) : c = ' ' ∨ isPlain c = true := by
  cases n with
  | bare n => exact .inr (n.plain c h)
  | labelled l n =>
    rcases List.mem_append.1 h with h | h
    · exact .inr (l.plain c h)
    · exact (List.mem_cons.1 h).imp_right (n.plain c)
  | unlabelled n =>
    rcases List.mem_cons.1 h with rfl | h
    · exact .inr (by decide)
    · exact (List.mem_cons.1 h).imp_right (n.plain c)

theorem colon_notMem (n : Naming) : ':' ∉ n.text := fun h => by
  rcases n.mem_text h with h | h <;> revert h <;> decide

theorem comma_notMem (n : Naming) : ',' ∉ n.text := fun h => by
  rcases n.mem_text h with h | h <;> revert h <;> decide

theorem isBracket_eq_false (n : Naming) (h : c ∈ n.text) : isBracket c = false := by
  rcases n.mem_text h with rfl | h
  · decide
  · exact (isPlain_iff.1 h).2.1

theorem head_text (n : Naming) : ∃ c u, n.text = c :: u ∧ isPlain c = true := by
  have hhead (w : PlainWord) : ∃ c u, w.text = c :: u ∧ isPlain c = true := by
    obtain ⟨c, u, hw⟩ := List.exists_cons_of_ne_nil w.ne_nil
    exact ⟨c, u, hw, w.plain c (hw ▸ List.mem_cons_self)⟩
  cases n with
  | bare n => exact hhead n.toPlainWord
  | labelled l n =>
    obtain ⟨c, u, hl, hc⟩ := hhead l.toPlainWord
    exact ⟨c, u ++ ' ' :: n.text, by rw [text, hl]; rfl, hc⟩
  | unlabelled n => exact ⟨'_', ' ' :: n.text, rfl, by decide⟩

theorem words_text (n : Naming) : (words n.text).head? = some (n.label?.getD ['_']) := by
  have hblank (w : PlainWord) : ∀ c ∈ w.text, isBlank c = false := fun c hc =>
    (isPlain_iff.1 (w.plain c hc)).1
  cases n with
  | bare n =>
    rw [text, words, pieces_eq_self (hblank n.toPlainWord)]
    simp [n.ne_nil, label?]
  | labelled l n =>
    rw [text, words, pieces_append (hblank l.toPlainWord) (by decide)]
    simp [l.ne_nil, label?]
  | unlabelled n =>
    rw [text, words, ← List.singleton_append, pieces_append (by decide) (by decide)]
    simp [label?]

theorem label?_ne (n : Naming) : n.label? ≠ some ['_'] := by
  cases n with
  | bare n => simpa [label?] using n.named
  | labelled l n => simpa [label?] using l.named
  | unlabelled n => simp [label?]

end Naming

theorem ParameterType.unmarked_append (t : ParameterType) {tail a : List Char}
    (htail : ∀ c ∈ tail, isBlank c = true) (h : t.text ++ tail = a ++ '@' :: v) :
    v.head?.any isWord = false := by
  have hat : '@' ∉ tail := fun hmem => by
    have hblank := htail '@' hmem
    revert hblank
    decide
  rcases List.append_eq_append_iff.1 h with ⟨x, -, rfl⟩ | ⟨x, hx, hv⟩
  · simp at hat
  · cases x with
    | nil =>
      rw [List.nil_append] at hv
      exact absurd (hv ▸ List.mem_cons_self) hat
    | cons e x =>
      obtain ⟨rfl, rfl⟩ := List.cons.inj hv
      cases x with
      | nil =>
        change tail.head?.any isWord = false
        rw [Option.any_eq_false]
        intro c hc
        simp [isWord_eq_false_of_isBlank (htail c (List.mem_of_head? hc))]
      | cons e x => exact t.unmarked a (e :: x) hx

namespace Parameter

variable (p : Parameter)

theorem typeText : p.type.text ++ (if p.default?.isSome then [' '] else []) =
    (p.type.text ++ defaultText p.default?).takeWhile (· != '=') := by
  have hplain : ∀ c ∈ p.type.text, (c != '=') = true := fun c hc => by
    simpa using ne_of_mem_of_not_mem hc p.type.equals
  rw [List.takeWhile_append_of_pos hplain]
  cases p.default? <;> rfl

theorem parameterType_text :
    parameterType (' ' :: (p.type.text ++ defaultText p.default?)) = p.type.text := by
  let tail := if p.default?.isSome then [' '] else []
  have htail : ∀ c ∈ tail, isBlank c = true := by
    simp only [tail]
    split <;> decide
  have htake : (' ' :: (p.type.text ++ defaultText p.default?)).takeWhile (· != '=') =
      ' ' :: (p.type.text ++ tail) := by
    rw [List.takeWhile_cons_of_pos (by decide), ← typeText]
  have hattribute : ∀ a v, ' ' :: (p.type.text ++ tail) = a ++ '@' :: v → v.head?.any isWord = false := by
    rintro (_ | ⟨e, a⟩) v heq
    · cases heq
    · exact p.type.unmarked_append htail (List.cons.inj heq).2
  have hinout : ¬ Stands "inout".toList (' ' :: (p.type.text ++ tail)) := by
    refine not_stands_cons (by decide) (by decide) ?_
    simp only [tail]
    split
    · exact not_stands_text (by decide) (by decide) p.type.byValue (not_stands_of_word (by simp))
    · rw [List.append_nil]
      exact fun h => p.type.byValue h.hasWord
  have hstrip : strip (' ' :: (p.type.text ++ tail)) = p.type.text :=
    p.type.part.strip_eq (x := [' ']) (by decide) htail
  rw [parameterType, htake, Grammar.erase_eq_self hattribute hinout, hstrip]
  simp [p.type.part.ne_nil]

theorem argument_text : Render.argument p.text = p.argument := by
  have hplain : ∀ c ∈ p.naming.text, (c != ':') = true := fun c hc => by
    simpa using ne_of_mem_of_not_mem hc p.naming.colon_notMem
  have hnames : p.text.takeWhile (· != ':') = p.naming.text := by
    rw [text, List.takeWhile_append_of_pos hplain]
    simp
  have htype : (p.text.dropWhile (· != ':')).drop 1 =
      ' ' :: (p.type.text ++ defaultText p.default?) := by
    rw [text, List.dropWhile_append_of_pos hplain]
    simp
  obtain ⟨ws, hwords⟩ := List.head?_eq_some_iff.1 p.naming.words_text
  have hlabel := p.naming.label?_ne
  simp only [Render.argument, hnames, htype, hwords, parameterType_text, argument]
  cases hl : p.naming.label? with
  | none => simp
  | some l =>
    have hne : l ≠ ['_'] := by
      rintro rfl
      exact hlabel hl
    simp [hne]

theorem level_naming : CommasInside none 0 (p.naming.text ++ [':']) ∧ depth (p.naming.text ++ [':']) = 0 := by
  refine ⟨commasInside_of_notMem (by simp [p.naming.comma_notMem]), depthFrom_eq_self fun c hc => ?_⟩
  rcases List.mem_append.1 hc with hc | hc
  · exact p.naming.isBracket_eq_false hc
  · obtain rfl := List.mem_singleton.1 hc
    decide

theorem level_text : (CommasInside none 0 p.text ↔ ∀ d ∈ p.default?, CommasInside none 0 d.text) ∧
    (depth p.text = 0 ↔ ∀ d ∈ p.default?, depth d.text = 0) := by
  have htext : p.text = (p.naming.text ++ [':']) ++ ' ' :: (p.type.text ++ defaultText p.default?) := by
    simp [text]
  obtain ⟨hin, hlevel⟩ := p.level_naming
  rw [htext, commasInside_behind_space hin hlevel, depth_behind_space hlevel]
  cases p.default? with
  | none => simp [defaultText, p.type.commas, p.type.level]
  | some d =>
    have hequals : defaultText (some d) = ' ' :: (['='] ++ ' ' :: d.text) := rfl
    rw [hequals, commasInside_behind_space p.type.commas p.type.level,
      depth_behind_space p.type.level, commasInside_behind_space (by decide) (by decide),
      depth_behind_space (by decide)]
    simp

theorem isPart_text : IsPart p.text := by
  obtain ⟨c, u, hname, hc⟩ := p.naming.head_text
  refine ⟨by simp [text], ?_, ?_⟩
  · rw [text, hname]
    rintro d ⟨⟩
    exact (isPlain_iff.1 hc).1
  · rw [text]
    cases p.default? with
    | none =>
      have htext : p.naming.text ++ ':' :: ' ' :: (p.type.text ++ defaultText none) =
          (p.naming.text ++ [':', ' ']) ++ p.type.text := by simp [defaultText]
      rw [htext, List.getLast?_append_of_ne_nil _ p.type.part.ne_nil]
      exact p.type.part.last
    | some d =>
      have htext : p.naming.text ++ ':' :: ' ' :: (p.type.text ++ defaultText (some d)) =
          (p.naming.text ++ ':' :: ' ' :: (p.type.text ++ [' ', '=', ' '])) ++ d.text := by
        simp [defaultText]
      rw [htext, List.getLast?_append_of_ne_nil _ d.ne_nil]
      exact d.last

theorem head?_text : p.text.head? ≠ some ',' := by
  obtain ⟨c, u, hname, hc⟩ := p.naming.head_text
  rw [text, hname]
  rintro ⟨⟩
  revert hc
  decide

end Parameter

/-- The list falls into its parameters exactly if the defaults leave brackets and commas in order, and then
there is one argument for each parameter, with no trace of its default. -/
theorem callArguments_printedParameters (ps : List Parameter) :
    (splitParameters (printedParameters ps) = ps.map Parameter.text ↔ Undisturbed ps) ∧
    (Undisturbed ps →
      callArguments (printedParameters ps) = [',', ' '].intercalate (ps.map Parameter.argument)) := by
  have hsplit : splitParameters (printedParameters ps) = ps.map Parameter.text ↔ Undisturbed ps := by
    rw [printedParameters, splitParameters_intercalate_iff
      (List.forall_mem_map.2 fun p _ => p.isPart_text) (List.forall_mem_map.2 fun p _ => p.head?_text),
      ← List.map_dropLast, List.forall_mem_map, List.forall_mem_map]
    simp only [fun p : Parameter => p.level_text.1, fun p : Parameter => p.level_text.2]
    exact ⟨fun h => ⟨h.1, h.2⟩, fun h => ⟨h.commas, h.level⟩⟩
  refine ⟨hsplit, fun h => ?_⟩
  rw [callArguments, hsplit.2 h, List.map_map]
  exact congrArg _ (List.map_congr_left fun p _ => p.argument_text)

def simpleType (text : List Char) (part : IsPart text) (level : depth text = 0)
    (commas : CommasInside none 0 text) (equals : '=' ∉ text) (at' : '@' ∉ text) (u : 'u' ∉ text) :
    ParameterType where
  text := text
  part := part
  level := level
  commas := commas
  equals := equals
  unmarked := by
    rintro v w rfl
    simp at at'
  byValue := not_hasWord_of_notMem (c := 'u') (by decide) u

def stringType : ParameterType :=
  simpleType "String".toList ⟨by decide, by decide, by decide⟩ (by decide) (by decide) (by decide)
    (by decide) (by decide)

def closureType : ParameterType :=
  simpleType "(Int, [Int]) -> Void".toList ⟨by decide, by decide, by decide⟩ (by decide) (by decide)
    (by decide) (by decide) (by decide)

def nameOf (text : List Char) (ne_nil : text ≠ []) (plain : ∀ c ∈ text, isPlain c = true)
    (named : text ≠ ['_']) : ParameterName := ⟨⟨text, ne_nil, plain⟩, named⟩

def literalParameters : List Parameter :=
  [⟨.labelled (nameOf "by".toList (by decide) (by decide) (by decide))
      (nameOf "mark".toList (by decide) (by decide) (by decide)), stringType,
      some (.literal "(, =)".toList)⟩,
    ⟨.unlabelled (nameOf "body".toList (by decide) (by decide) (by decide)), closureType, none⟩,
    ⟨.bare (nameOf "end".toList (by decide) (by decide) (by decide)), stringType,
      some (.literal "[,".toList)⟩]

theorem callArguments_printedParameters_literals : Undisturbed literalParameters ∧
    printedParameters literalParameters =
      "by mark: String = \"(, =)\", _ body: (Int, [Int]) -> Void, end: String = \"[,\"".toList ∧
    callArguments (printedParameters literalParameters) =
      "by: <#String#>, <#(Int, [Int]) -> Void#>, end: <#String#>".toList := by
  have h : Undisturbed literalParameters := ⟨by decide, by decide⟩
  exact ⟨h, by decide, (callArguments_printedParameters literalParameters).2 h⟩

theorem callArguments_commaLiteral :
    let p : Parameter := ⟨.bare (nameOf "separator".toList (by decide) (by decide) (by decide)),
      stringType, some (.literal ", ".toList)⟩
    p.text = "separator: String = \", \"".toList ∧ p.argument = "separator: <#String#>".toList ∧
      callArguments (printedParameters [p]) = "separator: <#String#>, \": <#Any#>".toList := by
  decide +kernel

end TestScaffold.Render
