import TestScaffold.Proofs.Reply.Fences

namespace TestScaffold

open Text Reply

variable {limit : Nat} {provider reply : String} {tag front code back : List Char} {v : Json}

inductive ReadAsJson (limit : Nat) (provider reply : String) : Except Fault ViewAnswer → Prop
  | view {v : Json} {answer : ViewReply} (text : Json.ofText limit (jsonText reply) = .ok v)
      (record : ViewReply.decode v = .valid answer) : ReadAsJson limit provider reply (.ok (.view answer))
  | unreadable (text : Json.ofText limit (jsonText reply) = .error .malformed) :
      ReadAsJson limit provider reply
        (.error (.known (malformed "view_analysis" provider "Failed to parse JSON response")))
  | invalid {v : Json} {paths : List (List String)} (text : Json.ofText limit (jsonText reply) = .ok v)
      (record : ViewReply.decode v = .invalid paths) :
      ReadAsJson limit provider reply
        (.error (.known (malformed "view_analysis" provider "Failed to validate output")))
  | broken {e : Fault} (h : Broken hasCompoundName limit reply e) : ReadAsJson limit provider reply (.error e)

theorem readAsJson_parseJson (limit : Nat) (provider reply : String) : ReadAsJson limit provider reply
    ((parseJson limit "view_analysis" provider ViewReply.decode hasCompoundName reply).map .view) := by
  cases hv : Json.ofText limit (jsonText reply) with
  | error r =>
    have htext : Json.ofText limit (((wholeBlock? reply.toList).map (·.code)).getD reply) = .error r := hv
    cases r <;> simp only [parseJson, htext, Except.map]
    · exact .unreadable hv
    · exact .broken (.digits hv)
    · exact .broken (.depth hv)
  | ok v =>
    rw [parseJson_eq hv]
    cases hname : hasCompoundName v with
    | true => exact .broken (.compound hv hname)
    | false =>
      cases hrecord : ViewReply.decode v with
      | valid answer => exact .view hv hrecord
      | invalid paths => exact .invalid hv hrecord

theorem parseView_of_block {c : Code} (h : wholeBlock? reply.toList = some c) :
    parseView limit provider reply = if looksLikeJson c then
      (parseJson limit "view_analysis" provider ViewReply.decode hasCompoundName reply).map .view
    else .ok (.code c) := by
  rw [parseView, h, Option.filter_some]
  cases looksLikeJson c <;> rfl

theorem parseView_code {c : Code} (h : parseView limit provider reply = .ok (.code c)) :
    wholeBlock? reply.toList = some c ∧ looksLikeJson c = false := by
  cases hblock : wholeBlock? reply.toList with
  | none =>
    rw [parseView_json hblock] at h
    exact absurd h map_view_ne_code
  | some b =>
    rw [parseView_of_block hblock] at h
    cases hlooks : looksLikeJson b with
    | true =>
      rw [hlooks, if_pos rfl] at h
      exact absurd h map_view_ne_code
    | false =>
      rw [hlooks] at h
      cases h
      exact ⟨rfl, hlooks⟩

section

variable (h : Layout reply.toList tag front code back)
include h

theorem looksLikeJson_layout (language : Option String) :
    looksLikeJson ⟨String.ofList code, language⟩ =
      (lowercased (language.getD "") == "json" || code.head? == some '\x7b') :=
  looksLikeJson_eq (not_isBlank_head?_strip h.stripped) language

theorem head?_eq_brace_iff (hv : Json.ofText limit (String.ofList code) = .ok v) :
    code.head? = some '\x7b' ↔ ∃ ms, v = .object ms := by
  obtain ⟨d, -, htext⟩ := Json.read_eq_ok_iff.1 hv
  rw [String.toList_ofList] at htext
  have hwritten := written_strip htext
  rw [h.stripped] at hwritten
  exact hwritten.head?_eq_brace_iff

theorem parseView_layout (limit : Nat) (provider : String) : parseView limit provider reply =
    if lowercased ((languageIn tag front code back).getD "") == "json" ||
        code.head? == some '\x7b' then
      (parseJson limit "view_analysis" provider ViewReply.decode hasCompoundName reply).map .view
    else .ok (.code ⟨String.ofList code, languageIn tag front code back⟩) := by
  rw [parseView_of_block h.wholeBlock?_eq, looksLikeJson_layout h]

end

theorem parseView_code_ne_object {c : Code} (h : parseView limit provider reply = .ok (.code c)) :
    lowercased (c.language.getD "") ≠ "json" ∧ ∀ ms, Json.ofText limit c.code ≠ .ok (.object ms) := by
  obtain ⟨hblock, hlooks⟩ := parseView_code h
  obtain ⟨tag, front, back, hlayout, -⟩ := exists_layout hblock
  have hsame := looksLikeJson_layout hlayout c.language
  rw [String.ofList_toList, hlooks, Eq.comm, Bool.or_eq_false_iff] at hsame
  obtain ⟨htag, hhead⟩ := hsame
  refine ⟨by simpa using htag, fun ms hms => ?_⟩
  rw [← String.ofList_toList (s := c.code)] at hms
  have hbrace := (head?_eq_brace_iff hlayout hms).2 ⟨ms, rfl⟩
  simp [hbrace] at hhead

/-- Code has neither the tag of JSON nor the text of an object. JSON in a block is read as such if it is
an object or if its tag says so on a line of its own, and is code if neither is the case. -/
theorem viewAgent_code_or_json (limit : Nat) (provider reply : String) :
    (∀ c, viewAgent.parse limit provider reply = .ok (.code c) →
      lowercased (c.language.getD "") ≠ "json" ∧ ∀ ms, Json.ofText limit c.code ≠ .ok (.object ms)) ∧
    ∀ tag front code back, Layout reply.toList tag front code back →
      ∀ v, Json.ofText limit (String.ofList code) = .ok v →
        ((∃ ms, v = .object ms) → ReadAsJson limit provider reply (viewAgent.parse limit provider reply)) ∧
        ('\n' ∈ front → lowercased (String.ofList tag) = "json" →
          ReadAsJson limit provider reply (viewAgent.parse limit provider reply)) ∧
        ('\n' ∈ front → lowercased (String.ofList tag) ≠ "json" → (∀ ms, v ≠ .object ms) →
          viewAgent.parse limit provider reply = .ok (.code ⟨String.ofList code, languageOf tag⟩)) := by
  have hparse : viewAgent.parse limit provider reply = parseView limit provider reply := rfl
  rw [hparse]
  refine ⟨fun c => parseView_code_ne_object, ?_⟩
  intro tag front code back h v hv
  rw [parseView_layout h]
  refine ⟨fun hobject => ?_, fun hline htag => ?_, fun hline htag hshape => ?_⟩
  · rw [(head?_eq_brace_iff h hv).2 hobject, if_pos (by simp)]
    exact readAsJson_parseJson limit provider reply
  · rw [h.languageIn_of_newline hline, getD_languageOf, if_pos (by simp [htag])]
    exact readAsJson_parseJson limit provider reply
  · have hhead : code.head? ≠ some '\x7b' := fun hbrace => by
      obtain ⟨ms, hms⟩ := (head?_eq_brace_iff h hv).1 hbrace
      exact hshape ms hms
    rw [h.languageIn_of_newline hline, getD_languageOf, if_neg (by simp [htag, hhead])]

def viewListText : String := "[\x7b\"name\": \"Save\"\x7d]"
def viewText : String := "\x7b\"name\": \"Save\"\x7d"

theorem written_viewText :
    Json.Written 1 viewText.toList (.value (.object [("name", .string "Save")])) := by
  have hname : Json.stringRest "name\"".toList = .ok ("name", []) := rfl
  have htext : viewText.toList =
      '\x7b' :: '"' :: ("name\"".toList ++ ':' :: ' ' :: ('"' :: "Save\"".toList ++ ['\x7d'])) := by
    decide
  rw [htext]
  exact written_member hname (.string rfl)

theorem ofText_viewText : Json.ofText 990 viewText = .ok (.object [("name", .string "Save")]) :=
  ofText_of_written rfl written_viewText (by decide)

theorem ofText_viewListText :
    Json.ofText 990 viewListText = .ok (.list [.object [("name", .string "Save")]]) :=
  ofText_of_written (by decide +kernel)
    (.list Json.blanks_nil (.lastItem written_viewText Json.blanks_nil)) (by decide)

theorem layout_fenced {tag j : String} (htag : ∀ c ∈ tag.toList, FencePattern.isTagChar c = true)
    (hj : Text.strip j.toList = j.toList) (hne : j.toList ≠ []) :
    Layout (fenced tag j).toList tag.toList ['\n'] j.toList ['\n'] := by
  rw [toList_fenced]
  exact layout_fencedText htag hj hne

theorem viewAgent_code_or_json_tags :
    ReadAsJson 990 "stub" (fenced "swift" viewText) (viewAgent.parse 990 "stub" (fenced "swift" viewText)) ∧
    ReadAsJson 990 "stub" (fenced "JSON" viewListText)
      (viewAgent.parse 990 "stub" (fenced "JSON" viewListText)) ∧
    viewAgent.parse 990 "stub" (fenced "swift" viewListText) =
      .ok (.code ⟨viewListText, some "swift"⟩) := by
  have hobject : Layout (fenced "swift" viewText).toList _ _ _ _ :=
    layout_fenced (by decide) (by decide +kernel) (by decide)
  have hjson : Layout (fenced "JSON" viewListText).toList _ _ _ _ :=
    layout_fenced (by decide) (by decide +kernel) (by decide)
  have hswift : Layout (fenced "swift" viewListText).toList _ _ _ _ :=
    layout_fenced (by decide) (by decide +kernel) (by decide)
  refine ⟨?_, ?_, ?_⟩
  · obtain ⟨-, hparse⟩ := viewAgent_code_or_json 990 "stub" (fenced "swift" viewText)
    obtain ⟨hdescription, -, -⟩ := hparse _ _ _ _ hobject _ (by simpa using ofText_viewText)
    exact hdescription ⟨_, rfl⟩
  · obtain ⟨-, hparse⟩ := viewAgent_code_or_json 990 "stub" (fenced "JSON" viewListText)
    obtain ⟨-, htagged, -⟩ := hparse _ _ _ _ hjson _ (by simpa using ofText_viewListText)
    exact htagged (by decide) (by decide +kernel)
  · obtain ⟨-, hparse⟩ := viewAgent_code_or_json 990 "stub" (fenced "swift" viewListText)
    obtain ⟨-, -, hcode⟩ := hparse _ _ _ _ hswift _ (by simpa using ofText_viewListText)
    simpa [languageOf] using hcode (by decide) (by decide +kernel) (by simp)

theorem viewListText_is_code :
    Json.ofText 990 viewListText = .ok (.list [.object [("name", .string "Save")]]) ∧
    viewAgent.parse 990 "stub" (fenced "" viewListText) = .ok (.code ⟨viewListText, none⟩) := by
  have hblock : wholeBlock? (fenced "" viewListText).toList = some ⟨viewListText, none⟩ := by
    decide +kernel
  have hlooks : looksLikeJson ⟨viewListText, none⟩ = false := by decide +kernel
  have hcode : parseView 990 "stub" (fenced "" viewListText) = .ok (.code ⟨viewListText, none⟩) := by
    rw [parseView_of_block hblock, hlooks]
    rfl
  exact ⟨ofText_viewListText, hcode⟩

end TestScaffold
