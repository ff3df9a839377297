import TestScaffold.Proofs.Json.Grammar
import TestScaffold.Proofs.Reply.Blocks
import TestScaffold.Proofs.Service.BrokenReplies

namespace TestScaffold.Reply

open Text Pattern FencePattern

variable {d : Nat} {j tag v : List Char} {c : Char}

theorem wholeBlock?_unfenced {u : List Char} (hu : ∀ c ∈ u, isBlank c = true) (hc : isBlank c = false)
    (hquote : c ≠ '\x60') : wholeBlock? (u ++ c :: v) = none := by
  have hnone : whole.ways (.ofText (u ++ c :: v)) = [] := by
    refine List.eq_nil_iff_forall_not_mem.2 fun t ht => ?_
    obtain ⟨m₁, h₁, ht⟩ := mem_all_cons.1 ht
    obtain ⟨m₂, h₂, -⟩ := mem_all_cons.1 ht
    obtain ⟨x, hx, hblank⟩ := mem_stretch h₁
    have htext := (hx.trans (reads_lit h₂)).ahead
    rw [show "```".toList = '\x60' :: "``".toList from rfl, List.append_assoc] at htext
    exact hquote (run_unique hu hblank hc (by decide) htext).2.1
  rw [wholeBlock?, match?, here?_eq_none hnone]

theorem isBlank_of_isSpace (h : Json.isSpace c = true) : isBlank c = true := by
  simp only [Json.isSpace, Bool.or_eq_true, beq_iff_eq] at h
  rcases h with ((rfl | rfl) | rfl) | rfl <;> decide

theorem not_isBlank_of_isVisible (h : Json.isVisible c = true) : isBlank c = false := by
  by_contra hblank
  simp only [Json.isVisible, Bool.and_eq_true, decide_eq_true_eq] at h
  simp only [isBlank, blankRanges, Ranges.has, List.any_cons, List.any_nil, Bool.or_false,
    Bool.not_eq_false, Bool.or_eq_true, Bool.and_eq_true, decide_eq_true_eq] at hblank
  omega

variable {w : Json}

theorem wholeBlock?_json (h : Json.IsText d j w) : wholeBlock? j = none := by
  obtain ⟨u, t, v, rfl, hu, hwritten, hv⟩ := h
  obtain ⟨c, x, rfl, hvisible, -, -⟩ := hwritten.exists_first
  have hquote : c ≠ '\x60' := by
    rintro rfl
    exact absurd hvisible (by decide)
  exact wholeBlock?_unfenced (fun c hc => isBlank_of_isSpace (hu c hc))
    (not_isBlank_of_isVisible hvisible) hquote

theorem written_strip (h : Json.IsText d j w) : Json.Written d (strip j) (.value w) := by
  obtain ⟨u, t, v, rfl, hu, hwritten, hv⟩ := h
  obtain ⟨c, x, hfirst, hc, -, -⟩ := hwritten.exists_first
  obtain ⟨y, e, hlast, he⟩ := hwritten.exists_last
  have hhead : ∀ a ∈ t.head?, isBlank a = false := by
    rw [hfirst]
    rintro a ⟨⟩
    exact not_isBlank_of_isVisible hc
  have hend : ∀ a ∈ t.getLast?, isBlank a = false := by
    rw [hlast]
    intro a ha
    rw [List.getLast?_append] at ha
    cases ha
    exact not_isBlank_of_isVisible he
  rw [strip_append (fun a ha => isBlank_of_isSpace (hu a ha))
    (fun a ha => isBlank_of_isSpace (hv a ha)), strip_eq_self hhead hend]
  exact hwritten

theorem exists_block (h : Json.IsText d j w) (htag : ∀ c ∈ tag, isTagChar c = true) :
    ∃ language, wholeBlock? (fencedText tag j) = some ⟨String.ofList (strip j), language⟩ := by
  obtain ⟨c, u, hfirst, -⟩ := (written_strip h).exists_first
  exact ⟨languageOf tag, wholeBlock?_fencedText_self htag (by simp [hfirst])⟩

def fenced (tag j : String) : String := "```" ++ tag ++ "\n" ++ j ++ "\n```"

def inObject (j : String) : String := "\x7b\"declarations\": " ++ j ++ "\x7d"

theorem toList_fenced (tag j : String) : (fenced tag j).toList = fencedText tag.toList j.toList := by
  simp [fenced, fencedText]

theorem toList_inObject (j : String) : (inObject j).toList =
    '\x7b' :: '"' :: ("declarations\"".toList ++ ':' :: ' ' :: (j.toList ++ ['\x7d'])) := by
  have hopening : "\x7b\"declarations\": ".toList =
      '\x7b' :: '"' :: ("declarations\"".toList ++ [':', ' ']) := by decide +kernel
  have happend (a b c : String) : (a ++ b ++ c).toList = a.toList ++ (b.toList ++ c.toList) := by
    rw [String.toList_append, String.toList_append, List.append_assoc]
  have htext := happend "\x7b\"declarations\": " j "\x7d"
  rw [hopening] at htext
  -- The key is a name from here on, since unification would compute it again and again.
  generalize "declarations\"".toList = key at *
  exact htext.trans (by simp)

theorem isText_inObject {j : String} (h : Json.IsText d j.toList w) :
    Json.IsText (d + 1) (inObject j).toList (.object [("declarations", w)]) := by
  obtain ⟨u, t, v, htext, hu, hwritten, hv⟩ := h
  have hspace : Json.Blanks (' ' :: u) := by
    intro c hc
    rcases List.mem_cons.1 hc with rfl | hc
    · rfl
    · exact hu c hc
  have hkey : Json.stringRest "declarations\"".toList = .ok ("declarations", []) := by
    decide +kernel
  have hone : Entries.ofList [("declarations", w)] = [("declarations", w)] := rfl
  rw [toList_inObject, htext]
  generalize "declarations\"".toList = key at *
  have hmember := Json.Written.lastMember hkey Json.blanks_nil hspace hwritten hv
  have hobject := (Json.Written.object Json.blanks_nil hmember).isText
  rw [hone] at hobject
  simpa using hobject

end TestScaffold.Reply

namespace TestScaffold

open Reply FencePattern

variable {d limit : Nat} {provider tag j reply reply' : String} {v : Json} {ms : List (String × Json)}

theorem ofText_jsonText (hj : Json.ofText limit j = .ok v) : Json.ofText limit (jsonText j) = .ok v := by
  obtain ⟨d, hd, htext⟩ := Json.read_eq_ok_iff.1 hj
  rw [jsonText, wholeBlock?_json htext]
  exact hj

theorem ofText_jsonText_fenced (hj : Json.ofText limit j = .ok v)
    (htag : ∀ c ∈ tag.toList, isTagChar c = true) :
    Json.ofText limit (jsonText (fenced tag j)) = .ok v := by
  obtain ⟨d, hd, htext⟩ := Json.read_eq_ok_iff.1 hj
  obtain ⟨language, hblock⟩ := exists_block htext htag
  rw [jsonText, toList_fenced, hblock, Option.map_some, Option.getD_some, Json.ofText,
    String.toList_ofList, (written_strip htext).isText.read_eq, if_pos hd]

theorem ofText_inObject (htext : Json.IsText d j.toList v) : Json.ofText limit (inObject j) =
    if d < limit then .ok (.object [("declarations", v)]) else .error .tooDeep :=
  (isText_inObject htext).read_eq

section

variable {α : Type} {agent : String} {dec : Decoder α} {unusable : Json → Bool}

theorem parseJson_eq (h : Json.ofText limit (jsonText reply) = .ok v) :
    parseJson limit agent provider dec unusable reply =
      if unusable v then .error .compoundName
      else
        match dec v with
        | .valid a => .ok a
        | .invalid _ => .error (.known (malformed agent provider "Failed to validate output")) := by
  unfold jsonText at h
  cases hdec : dec v <;> simp [parseJson, h, hdec]

theorem parseJson_fenced (hj : Json.ofText limit j = .ok v)
    (htag : ∀ c ∈ tag.toList, isTagChar c = true) :
    parseJson limit agent provider dec unusable (fenced tag j) =
      parseJson limit agent provider dec unusable j := by
  rw [parseJson_eq (ofText_jsonText_fenced hj htag), parseJson_eq (ofText_jsonText hj)]

end

theorem declarationsAgent_parse (limit : Nat) (provider reply : String) :
    declarationsAgent.parse limit provider reply =
    parseJson limit "declaration_extraction" provider DeclarationsReply.decode (fun _ => false) reply := rfl

theorem decode_inObject (items : List Json) :
    DeclarationsReply.decode (.object [("declarations", .list items)]) =
      DeclarationsReply.decode (.list items) := rfl

theorem declarationsAgent_parse_inObject {w : String} {items : List Json}
    (hj : Json.ofText limit j = .ok (.list items))
    (hw : Json.ofText limit w = .ok (.object [("declarations", .list items)])) :
    declarationsAgent.parse limit provider w = declarationsAgent.parse limit provider j := by
  rw [declarationsAgent_parse, declarationsAgent_parse, parseJson_eq (ofText_jsonText hw),
    parseJson_eq (ofText_jsonText hj), decode_inObject]

theorem getD_languageOf (tag : List Char) : (languageOf tag).getD "" = String.ofList tag := by
  rw [languageOf]
  split
  · rename_i hnil
    rw [List.isEmpty_iff.1 hnil]
    rfl
  · rfl

theorem looksLikeJson_eq {code : List Char} (h : ∀ c ∈ code.head?, Text.isBlank c = false)
    (language : Option String) : looksLikeJson ⟨String.ofList code, language⟩ =
      (Text.lowercased (language.getD "") == "json" || code.head? == some '\x7b') := by
  have hstart : code.dropWhile Text.isBlank = code := by
    cases code with
    | nil => rfl
    | cons c rest => exact List.dropWhile_cons_of_neg (by simp [h c rfl])
  rw [looksLikeJson, String.toList_ofList, hstart]

theorem parseView_json (h : wholeBlock? j.toList = none) : parseView limit provider j =
    (parseJson limit "view_analysis" provider ViewReply.decode hasCompoundName j).map .view := by
  simp [parseView, h]

theorem parseView_fenced (hj : Json.ofText limit j = .ok (.object ms))
    (htag : ∀ c ∈ tag.toList, isTagChar c = true) :
    parseView limit provider (fenced tag j) =
      (parseJson limit "view_analysis" provider ViewReply.decode hasCompoundName (fenced tag j)).map
        .view := by
  obtain ⟨d, hd, htext⟩ := Json.read_eq_ok_iff.1 hj
  obtain ⟨language, hblock⟩ := exists_block htext htag
  obtain ⟨u, hbrace⟩ := (written_strip htext).object_first
  have hlooks : looksLikeJson ⟨String.ofList (Text.strip j.toList), language⟩ = true := by
    rw [hbrace, looksLikeJson_eq (by simp; decide)]
    simp
  have hcode : (some ⟨String.ofList (Text.strip j.toList), language⟩ : Option Code).filter
      (!looksLikeJson ·) = none := by
    rw [Option.filter_some, hlooks]
    rfl
  rw [parseView, toList_fenced, hblock, hcode]

theorem declarationsAgent_parse_inObject_eq {items : List Json} (hd : d ≤ limit)
    (htext : Json.IsText d j.toList (.list items)) :
    declarationsAgent.parse limit provider (inObject j) =
      if d < limit then declarationsAgent.parse limit provider j else .error .nestedTooDeep := by
  have hj : Json.ofText limit j = .ok (.list items) := Json.read_eq_ok_iff.2 ⟨d, hd, htext⟩
  have hread : Json.ofText limit (inObject j) =
      if d < limit then .ok (.object [("declarations", .list items)]) else .error .tooDeep :=
    ofText_inObject htext
  split
  · rename_i hroom
    rw [if_pos hroom] at hread
    exact declarationsAgent_parse_inObject hj hread
  · rename_i hroom
    rw [if_neg hroom] at hread
    have hblock : wholeBlock? (inObject j).toList = none := wholeBlock?_json (isText_inObject htext)
    rw [declarationsAgent_parse, parseJson, hblock]
    simp only [Option.map_none, Option.getD_none, hread]

theorem map_view_ne_code {x : Except Fault ViewReply} {c : Code} :
    x.map ViewAnswer.view ≠ .ok (.code c) := by
  cases x <;> rintro ⟨⟩

/-- A text that is read as JSON says the same to an agent in a block with any tag. A list says the same in
an object that holds it as its declarations, unless the list is nested as deep as can be read. -/
theorem formats_agree (hj : Json.ofText limit j = .ok v)
    (htag : ∀ c ∈ tag.toList, isTagChar c = true) :
    declarationsAgent.parse limit provider (fenced tag j) = declarationsAgent.parse limit provider j ∧
    (∀ items, v = .list items →
      (∀ w, Json.ofText limit w = .ok (.object [("declarations", v)]) →
        declarationsAgent.parse limit provider w = declarationsAgent.parse limit provider j) ∧
      ∃ d ≤ limit, Json.IsText d j.toList v ∧
        declarationsAgent.parse limit provider (inObject j) =
          if d < limit then declarationsAgent.parse limit provider j else .error .nestedTooDeep) ∧
    (∀ ms, v = .object ms →
      viewAgent.parse limit provider (fenced tag j) = viewAgent.parse limit provider j ∧
      ∀ c, viewAgent.parse limit provider j ≠ .ok (.code c)) := by
  obtain ⟨d, hd, htext⟩ := Json.read_eq_ok_iff.1 hj
  refine ⟨?_, ?_, ?_⟩
  · rw [declarationsAgent_parse, declarationsAgent_parse, parseJson_fenced hj htag]
  · rintro items rfl
    exact ⟨fun w => declarationsAgent_parse_inObject hj,
      d, hd, htext, declarationsAgent_parse_inObject_eq hd htext⟩
  · rintro ms rfl
    have hview : parseView limit provider j = _ := parseView_json (wholeBlock?_json htext)
    have hblock : parseView limit provider (fenced tag j) = _ := parseView_fenced hj htag
    rw [parseJson_fenced hj htag, ← hview] at hblock
    refine ⟨hblock, fun c hc => ?_⟩
    have hcode : parseView limit provider j = .ok (.code c) := hc
    rw [hview] at hcode
    exact map_view_ne_code hcode

theorem ofText_of_written {d : Nat} {t : List Char} {x : String} (hx : x.toList = t)
    (h : Json.Written d t (.value v)) (hd : d ≤ limit) : Json.ofText limit x = .ok v := by
  rw [Json.ofText, hx, h.isText.read_eq, if_pos hd]

theorem written_member {d : Nat} {q t : List Char} {k : String}
    (hk : Json.stringRest q = .ok (k, [])) (h : Json.Written d t (.value v)) :
    Json.Written (d + 1) ('\x7b' :: '"' :: (q ++ ':' :: ' ' :: (t ++ ['\x7d'])))
      (.value (.object [(k, v)])) := by
  have hspace : Json.Blanks [' '] := by simp [Json.Blanks, Json.isSpace]
  exact .object Json.blanks_nil (.lastMember hk Json.blanks_nil hspace h Json.blanks_nil)

theorem formats_agree_backquotes :
    Json.ofText 990 "[\x7b\"name\": \"```\"\x7d]" = .ok (.list [.object [("name", .string "```")]]) ∧
    declarationsAgent.parse 990 "stub" (fenced "json" "[\x7b\"name\": \"```\"\x7d]") =
      declarationsAgent.parse 990 "stub" "[\x7b\"name\": \"```\"\x7d]" ∧
    declarationsAgent.parse 990 "stub" (inObject "[\x7b\"name\": \"```\"\x7d]") =
      declarationsAgent.parse 990 "stub" "[\x7b\"name\": \"```\"\x7d]" ∧
    Json.ofText 990 "\x7b\"name\": \"\\n```\"\x7d" = .ok (.object [("name", .string "\n```")]) ∧
    viewAgent.parse 990 "stub" (fenced "swift" "\x7b\"name\": \"\\n```\"\x7d") =
      viewAgent.parse 990 "stub" "\x7b\"name\": \"\\n```\"\x7d" := by
  have hname : Json.stringRest "name\"".toList = .ok ("name", []) := rfl
  have hkey : Json.stringRest "declarations\"".toList = .ok ("declarations", []) := rfl
  have hitem := written_member hname (.string (t := "```\"".toList) (k := "```") rfl)
  have hitems := Json.Written.list Json.blanks_nil (.lastItem hitem Json.blanks_nil)
  have hlist : Json.ofText 990 "[\x7b\"name\": \"```\"\x7d]" =
      .ok (.list [.object [("name", .string "```")]]) :=
    ofText_of_written (by decide) hitems (by decide)
  have hobject : Json.ofText 990 "\x7b\"name\": \"\\n```\"\x7d" =
      .ok (.object [("name", .string "\n```")]) :=
    ofText_of_written (by decide)
      (written_member hname (.string (t := "\\n```\"".toList) (k := "\n```") rfl)) (by decide)
  have hin : Json.ofText 990 (inObject "[\x7b\"name\": \"```\"\x7d]") =
      .ok (.object [("declarations", .list [.object [("name", .string "```")]])]) :=
    ofText_of_written (by decide +kernel) (written_member hkey hitems) (by decide)
  obtain ⟨hfenced, hwrapped, -⟩ := @formats_agree 990 "stub" "json" _ _ hlist (by decide)
  obtain ⟨-, -, hview⟩ := @formats_agree 990 "stub" "swift" _ _ hobject (by decide)
  exact ⟨hlist, hfenced, (hwrapped _ rfl).1 _ hin, hobject, (hview _ rfl).1⟩

def nestedLists : Nat → Json
  | 0 => .list []
  | n + 1 => .list [nestedLists n]

def nestedText (n : Nat) : List Char := List.replicate (n + 1) '[' ++ List.replicate (n + 1) ']'

section

open Json

variable {d e : Nat} {q s t : List Char} {k : String} {j : Json} {js : List Json}

theorem written_compactMember (hk : stringRest q = .ok (k, [])) (h : Written d t (.value j))
    (hs : Written e s (.members ms)) :
    Written (max d e) ('"' :: (q ++ ':' :: (t ++ ',' :: s))) (.members ((k, j) :: ms)) :=
  .member hk blanks_nil blanks_nil h blanks_nil blanks_nil hs

theorem written_compactLast (hk : stringRest q = .ok (k, [])) (h : Written d t (.value j)) :
    Written d ('"' :: (q ++ ':' :: (t ++ ['\x7d']))) (.members [(k, j)]) :=
  .lastMember hk blanks_nil blanks_nil h blanks_nil

theorem written_nestedText (n : Nat) : Written (n + 1) (nestedText n) (.value (nestedLists n)) := by
  induction n with
  | zero => exact .noItems blanks_nil
  | succ n ih =>
    have htext : nestedText (n + 1) = '[' :: ([] ++ (nestedText n ++ ([] ++ [']']))) := by
      simp only [nestedText, List.replicate_succ' (n := n + 1) (a := ']'),
        List.replicate_succ (n := n + 1) (a := '['), List.nil_append, List.cons_append, List.append_assoc]
    rw [htext]
    exact .list blanks_nil (.lastItem ih blanks_nil)

end

def deepText (n : Nat) : List Char :=
  '[' :: ('\x7b' :: '"' :: ("name\"".toList ++ ':' :: ('"' :: "a\"".toList ++
    ',' :: '"' :: ("x\"".toList ++ ':' :: (nestedText n ++ ['\x7d'])))) ++ [']'])

theorem isText_deepText (n : Nat) : Json.IsText (n + 3) (deepText n)
    (.list [.object [("name", .string "a"), ("x", nestedLists n)]]) := by
  have hname : Json.stringRest "name\"".toList = .ok ("name", []) := rfl
  have hvalue : Json.stringRest "a\"".toList = .ok ("a", []) := rfl
  have hkey : Json.stringRest "x\"".toList = .ok ("x", []) := rfl
  unfold deepText
  generalize "name\"".toList = q at *
  generalize "a\"".toList = t at *
  generalize "x\"".toList = s at *
  have hmembers : Json.Written (n + 1) _ (.members _) := Nat.zero_max (n + 1) ▸
    written_compactMember hname (.string hvalue) (written_compactLast hkey (written_nestedText n))
  exact (Json.Written.list Json.blanks_nil
    (.lastItem (.object Json.blanks_nil hmembers) Json.blanks_nil)).isText

def deepReply (n : Nat) : String := String.ofList (deepText n)

theorem isText_deepReply (n : Nat) : Json.IsText (n + 3) (deepReply n).toList
    (.list [.object [("name", .string "a"), ("x", nestedLists n)]]) := by
  rw [deepReply, String.toList_ofList]
  exact isText_deepText n

theorem parse_deepReply (n : Nat) :
    declarationsAgent.parse (n + 3) "stub" (deepReply n) =
      .ok { declarations := [{ name := "a" }] } := by
  have hread : Json.ofText (n + 3) (deepReply n) = _ := (isText_deepReply n).read_eq
  rw [if_pos (Nat.le_refl _)] at hread
  rw [declarationsAgent_parse, parseJson_eq (ofText_jsonText hread)]
  rfl

theorem inObject_tooDeep :
    declarationsAgent.parse 990 "stub" (deepReply 987) = .ok { declarations := [{ name := "a" }] } ∧
    declarationsAgent.parse 990 "stub" (inObject (deepReply 987)) = .error .nestedTooDeep := by
  refine ⟨parse_deepReply 987, ?_⟩
  rw [declarationsAgent_parse_inObject_eq (Nat.le_refl _) (isText_deepReply 987), if_neg (Nat.lt_irrefl _)]

end TestScaffold
