import TestScaffold.Proofs.Pattern.Captures
import TestScaffold.Proofs.Text.Words
import TestScaffold.Reply.Fence

/-!
Replies that are taken for one fenced block. A reply is one if it starts and ends with a fence and has
something in between; whatever stands between the fences is its code, and the language is what stands
behind the first fence on its line.
-/

namespace TestScaffold.Reply

open Text Pattern FencePattern

variable {cs tag inside z : List Char} {s t : Cursor Unit}

theorem mem_stretch {f : Char → Bool} (h : t ∈ (star (.one f) : FencePattern).ways s) :
    ∃ u, s.Reads u t ∧ ∀ c ∈ u, f c = true := by
  have hover : (star (.one f) : FencePattern).Over fun c => f c = true := fun _ hc => hc
  exact hover.reads h

theorem over_gap : gap.Over fun c => isBlank c = true := by
  intro c hc
  simp only [Bool.or_eq_true, beq_iff_eq] at hc
  rcases hc with rfl | rfl <;> decide

theorem over_newline : newline.Over fun c => isBlank c = true := by
  refine ⟨fun c hc => ?_, trivial⟩
  obtain rfl := eq_of_beq hc
  decide

def closing : FencePattern := all [newline, gap, fence, star (.one isBlank), textEnd]

def behindTag : FencePattern :=
  all [gap, newline, code, newline, gap, fence, star (.one isBlank), textEnd]

theorem mem_closing (h : t ∈ closing.ways s) : ∃ v z, s.ahead = v ++ ("```".toList ++ z) ∧
    (∀ c ∈ v, isBlank c = true) ∧ ∀ c ∈ z, isBlank c = true := by
  obtain ⟨m₁, h₁, h⟩ := mem_all_cons.1 h
  obtain ⟨m₂, h₂, h⟩ := mem_all_cons.1 h
  obtain ⟨m₃, h₃, h⟩ := mem_all_cons.1 h
  obtain ⟨m₄, h₄, h⟩ := mem_all_cons.1 h
  have hnil : m₄.ahead = [] := by simpa using (mem_place.1 h).1
  obtain ⟨x, hx, hxblank⟩ := over_newline.reads h₁
  obtain ⟨y, hy, hyblank⟩ := over_gap.reads h₂
  obtain ⟨z, hz, hzblank⟩ := mem_stretch h₄
  refine ⟨x ++ y, z, ?_, List.forall_mem_append.2 ⟨hxblank, hyblank⟩, hzblank⟩
  rw [hx.ahead, hy.ahead, (reads_lit h₃).ahead, hz.ahead, hnil, List.append_nil, List.append_assoc]

theorem captures_closing {P : List Char → Prop} : closing.Captures () P := by
  apply captures_all
  intro p hp
  simp only [List.mem_cons, List.not_mem_nil, or_false] at hp
  rcases hp with rfl | rfl | rfl | rfl | rfl
  · exact ⟨trivial, trivial⟩
  · trivial
  · exact captures_lit _
  · trivial
  · trivial

theorem mem_behindTag (h : t ∈ behindTag.ways s) :
    ∃ x c y z, s.ahead = x ++ (c ++ (y ++ ("```".toList ++ z))) ∧ (∀ d ∈ x, isBlank d = true) ∧
      (∀ d ∈ y, isBlank d = true) ∧ (∀ d ∈ z, isBlank d = true) ∧
      ∀ o o', (⟨o, o', t.captures⟩ : Found Unit).text () = c := by
  obtain ⟨m₁, h₁, h⟩ := mem_all_cons.1 h
  obtain ⟨m₂, h₂, h⟩ := mem_all_cons.1 h
  obtain ⟨m₃, h₃, h⟩ := mem_all_cons.1 h
  obtain ⟨n, hn, rfl⟩ := mem_capture.1 h₃
  have hclosing : t ∈ closing.ways (n.capture () m₂) := h
  obtain ⟨x, hx, hxblank⟩ := over_gap.reads h₁
  obtain ⟨x', hx', hxblank'⟩ := over_newline.reads h₂
  obtain ⟨c, hc⟩ := reads_of_mem hn
  obtain ⟨y, z, hahead, hyblank, hzblank⟩ := mem_closing hclosing
  have hnext : n.ahead = y ++ ("```".toList ++ z) := hahead
  refine ⟨x ++ x', c, y, z, ?_, List.forall_mem_append.2 ⟨hxblank, hxblank'⟩, hyblank, hzblank, ?_⟩
  · rw [hx.ahead, hx'.ahead, hc.ahead, hnext, List.append_assoc]
  · intro o o'
    have hfind : t.captures.find? (·.1 = ()) = some ((), m₂.upTo n) :=
      (captures_closing.find?_eq hclosing).trans rfl
    rw [Found.text, Found.text?, Found.stretch?, hfind]
    exact hc.text_upTo

theorem exists_mem_behindTag (hahead : s.ahead = inside ++ ("```".toList ++ z))
    (hz : ∀ c ∈ z, isBlank c = true) : ∃ t, t ∈ behindTag.ways s := by
  obtain ⟨b, o, ahead, k⟩ := s
  obtain rfl : ahead = inside ++ ("```".toList ++ z) := hahead
  let s : Cursor Unit := ⟨b, o, inside ++ ("```".toList ++ z), k⟩
  let n : Cursor Unit := ⟨inside.getLast?.or b, o + inside.length, "```".toList ++ z, k⟩
  let e : Cursor Unit := n.capture () s
  have hgap (m : Cursor Unit) : m ∈ gap.ways m := mem_star.2 (.inr rfl)
  have hnewline (m : Cursor Unit) : m ∈ newline.ways m := mem_alt.2 (.inr (List.mem_singleton_self m))
  have hcode : e ∈ code.ways s := by
    have hreach : (anyChar.starLazy : FencePattern).Reaches (fun _ => True) s n :=
      reaches_lazy (by simp) fun _ _ _ _ => trivial
    obtain ⟨before, after, hways, -⟩ := hreach
    exact mem_capture.2 ⟨n, by rw [hways]; simp, rfl⟩
  obtain ⟨t, ht⟩ : ∃ t, (all [fence, star (.one isBlank), textEnd] : FencePattern).Prefers e t := by
    have hblanks := prefers_run (ι := Unit) (b := some '\x60') (o := e.offset + 3) (k := e.captures)
      (r := []) hz (by simp)
    rw [List.append_nil] at hblanks
    exact ⟨_, (prefers_lit "```").cons (hblanks.cons (prefers_place rfl))⟩
  exact ⟨t, mem_all_cons.2 ⟨s, hgap s, mem_all_cons.2 ⟨s, hnewline s, mem_all_cons.2 ⟨e, hcode,
    mem_all_cons.2 ⟨e, hnewline e, mem_all_cons.2 ⟨e, hgap e, List.mem_of_mem_head? ht⟩⟩⟩⟩⟩⟩

theorem dropEndWhile_fence (y : List Char) (hz : ∀ c ∈ z, isBlank c = true) :
    dropEndWhile isBlank (y ++ ("```".toList ++ z)) = y ++ "```".toList := by
  have hsplit : y ++ ("```".toList ++ z) = y ++ ['\x60', '\x60'] ++ ['\x60'] ++ z := by simp
  rw [hsplit, dropEndWhile_append_of_pos hz, dropEndWhile_append_of_neg (by decide)]
  simp

theorem strip_fences {w : List Char} (y : List Char) (hw : ∀ c ∈ w, isBlank c = true)
    (hz : ∀ c ∈ z, isBlank c = true) :
    strip (w ++ ("```".toList ++ (y ++ ("```".toList ++ z)))) =
      "```".toList ++ (y ++ "```".toList) := by
  have hopening : ("```".toList ++ (y ++ ("```".toList ++ z))).dropWhile isBlank =
      "```".toList ++ y ++ ("```".toList ++ z) := by
    have hquote : isBlank '\x60' = false := by decide
    simp [hquote]
  rw [strip, stripOf, List.dropWhile_append_of_pos hw, hopening, dropEndWhile_fence _ hz,
    List.append_assoc]

def languageOf (tag : List Char) : Option String :=
  if tag.isEmpty then none else some (String.ofList tag)

def firstLine (cs : List Char) : List Char := cs.takeWhile (· != '\n')

theorem exists_fences (h : t ∈ whole.ways (.ofText cs)) :
    ∃ y, strip cs = "```".toList ++ (y ++ "```".toList) := by
  obtain ⟨m₁, h₁, h⟩ := mem_all_cons.1 h
  obtain ⟨m₂, h₂, h⟩ := mem_all_cons.1 h
  obtain ⟨m₃, h₃, h⟩ := mem_all_cons.1 h
  have hrest : t ∈ behindTag.ways m₃ := h
  obtain ⟨w, hw, hwblank⟩ := mem_stretch h₁
  obtain ⟨tag, htag, -⟩ := mem_stretch h₃
  obtain ⟨x, c, y, z, hahead, -, -, hz, -⟩ := mem_behindTag hrest
  refine ⟨tag ++ (x ++ (c ++ y)), ?_⟩
  have hcs : cs = w ++ ("```".toList ++ (tag ++ (x ++ (c ++ y)) ++ ("```".toList ++ z))) := by
    have hread := hw.ahead
    rw [(reads_lit h₂).ahead, htag.ahead, hahead] at hread
    simpa [Cursor.ofText] using hread
  rw [hcs, strip_fences _ hwblank hz]

theorem wholeBlock?_of_fences (h : strip cs = "```".toList ++ (tag ++ (inside ++ "```".toList)))
    (htag : ∀ c ∈ tag, isTagChar c = true) (hstop : ∀ c ∈ inside.head?, isTagChar c = false) :
    wholeBlock? cs = if (strip inside).isEmpty then none
      else some ⟨String.ofList (strip inside),
        languageOf (strip (firstLine (tag ++ (inside ++ "```".toList))))⟩ := by
  obtain ⟨w, z, hcs, hw, hz⟩ := exists_strip cs
  have htext : cs = w ++ ("```".toList ++ (tag ++ (inside ++ ("```".toList ++ z)))) := by
    rw [hcs, h]
    simp
  have hstop : ∀ c ∈ (inside ++ ("```".toList ++ z)).head?, isTagChar c = false := by
    cases inside with
    | nil => simp; decide
    | cons c inside => exact hstop
  have hopening : ∀ c ∈ ("```".toList ++ (tag ++ (inside ++ ("```".toList ++ z)))).head?,
      isBlank c = false := by simp; decide
  -- The tag takes all that it can, and from there on any way will do.
  obtain ⟨t, ht⟩ := exists_mem_behindTag (s := ⟨tag.getLast?.or _, _ + tag.length, _, _⟩) rfl hz
  obtain ⟨t, ht⟩ := exists_prefers ht
  have hwhole : whole.Prefers (.ofText cs) t := by
    rw [htext]
    exact (prefers_run hw hopening).cons <| (prefers_lit "```").cons <| (prefers_run htag hstop).cons ht
  obtain ⟨x, c, y, z', hahead, hx, hy, hz', hcode⟩ := mem_behindTag (List.mem_of_mem_head? ht)
  have hinside : inside = x ++ (c ++ y) := by
    have hends := congrArg (dropEndWhile isBlank) hahead
    have hassoc : x ++ (c ++ (y ++ ("```".toList ++ z'))) = x ++ (c ++ y) ++ ("```".toList ++ z') := by
      simp
    rw [hassoc, dropEndWhile_fence inside hz, dropEndWhile_fence _ hz'] at hends
    exact List.append_cancel_right hends
  have hstrip : strip inside = strip c := by rw [hinside, strip_append hx hy]
  have hfound : whole.match? cs = some ⟨0, t.offset, t.captures⟩ := hwhole.here?
  rw [wholeBlock?, hfound]
  simp only [hcode, hstrip, fenceTag, h]
  rfl

/-- A text from fence to fence: a tag that goes as far as it can, the code, and blanks before and behind
the code. The code may be any text with no blank at its ends, also one with fences of its own. -/
structure Layout (cs tag front code back : List Char) : Prop where
  text : strip cs = "```".toList ++ (tag ++ (front ++ (code ++ (back ++ "```".toList))))
  tag_ok : ∀ c ∈ tag, isTagChar c = true
  stop : ∀ c ∈ (front ++ code).head?, isTagChar c = false
  front_blank : ∀ c ∈ front, isBlank c = true
  back_blank : ∀ c ∈ back, isBlank c = true
  stripped : strip code = code
  ne_nil : code ≠ []

/-- What is taken for the language: the rest of the line that the first fence stands on. -/
def languageIn (tag front code back : List Char) : Option String :=
  languageOf (strip (firstLine (tag ++ (front ++ (code ++ (back ++ "```".toList))))))

theorem exists_layout {b : Code} (h : wholeBlock? cs = some b) : ∃ tag front back,
    Layout cs tag front b.code.toList back ∧ b.language = languageIn tag front b.code.toList back := by
  obtain ⟨t, ht⟩ : ∃ t, t ∈ whole.ways (.ofText cs) := by
    refine List.exists_mem_of_ne_nil _ fun hnil => ?_
    have hnone : whole.match? cs = none := here?_eq_none hnil
    rw [wholeBlock?, hnone] at h
    cases h
  obtain ⟨y, hy⟩ := exists_fences ht
  obtain ⟨front, back, hinside, hfront, hback⟩ := exists_strip (y.dropWhile isTagChar)
  have htag : ∀ c ∈ y.takeWhile isTagChar, isTagChar c = true := List.all_eq_true.1 List.all_takeWhile
  have hstop : ∀ c ∈ (y.dropWhile isTagChar).head?, isTagChar c = false := by
    intro c hc
    have hnot := List.head?_dropWhile_not isTagChar y
    rw [hc] at hnot
    simpa using hnot
  rw [← List.takeWhile_append_dropWhile (p := isTagChar) (l := y), List.append_assoc] at hy
  rw [wholeBlock?_of_fences hy htag hstop] at h
  split at h
  · cases h
  · rename_i hne
    obtain rfl := Option.some.inj h
    generalize y.takeWhile isTagChar = tag at *
    generalize y.dropWhile isTagChar = inside at *
    have hstripped : strip (strip inside) = strip inside :=
      strip_eq_self (isBlank_head?_strip inside) (isBlank_getLast?_strip inside)
    have hbehind : inside ++ "```".toList =
        front ++ (strip inside ++ (back ++ "```".toList)) := by
      simpa only [List.append_assoc] using congrArg (· ++ "```".toList) hinside
    have hne : strip inside ≠ [] := by simpa using hne
    rw [hbehind] at hy
    simp only [hbehind, String.toList_ofList]
    refine ⟨tag, front, back, ⟨hy, htag, ?_, hfront, hback, hstripped, hne⟩, rfl⟩
    rw [hinside, ← List.append_assoc, List.head?_append_of_ne_nil _ (by simp [hne])] at hstop
    exact hstop

theorem Layout.wholeBlock?_eq {code front back : List Char} (h : Layout cs tag front code back) :
    wholeBlock? cs = some ⟨String.ofList code, languageIn tag front code back⟩ := by
  have htext : strip cs = "```".toList ++ (tag ++ (front ++ (code ++ back) ++ "```".toList)) := by
    rw [h.text]
    simp
  have hstop : ∀ c ∈ (front ++ (code ++ back)).head?, isTagChar c = false := by
    rw [← List.append_assoc, List.head?_append_of_ne_nil _ (by simp [h.ne_nil])]
    exact h.stop
  rw [wholeBlock?_of_fences htext h.tag_ok hstop, strip_append h.front_blank h.back_blank, h.stripped,
    if_neg (by simpa using h.ne_nil)]
  simp [languageIn]

theorem not_isBlank_of_isTagChar {c : Char} (h : isTagChar c = true) : isBlank c = false := by
  simp only [isTagChar, Bool.or_eq_true, List.contains_iff_mem, List.mem_cons, List.not_mem_nil,
    or_false] at h
  rcases h with h | rfl | rfl | rfl | rfl
  · exact isBlank_eq_false_of_isWord h
  · decide
  · decide
  · decide
  · decide

theorem strip_tag (htag : ∀ c ∈ tag, isTagChar c = true) : strip tag = tag :=
  strip_eq_self (fun c hc => not_isBlank_of_isTagChar (htag c (List.mem_of_mem_head? hc)))
    fun c hc => not_isBlank_of_isTagChar (htag c (List.mem_of_getLast? hc))

theorem firstLine_append {u r : List Char} (hu : '\n' ∉ u) : firstLine (u ++ r) = u ++ firstLine r :=
  List.takeWhile_append_of_pos fun c hc => by simpa using ne_of_mem_of_not_mem hc hu

theorem newline_not_mem_tag (htag : ∀ c ∈ tag, isTagChar c = true) : '\n' ∉ tag := by
  intro hmem
  have hblank := not_isBlank_of_isTagChar (htag _ hmem)
  revert hblank
  decide

namespace Layout

variable {front code back : List Char}

theorem languageIn_of_newline (h : Layout cs tag front code back) (hline : '\n' ∈ front) :
    languageIn tag front code back = languageOf tag := by
  obtain ⟨u, v, rfl, hu⟩ := List.eq_append_cons_of_mem hline
  have hblank : ∀ c ∈ u, isBlank c = true := fun c hc => h.front_blank c (List.mem_append_left _ hc)
  have hfirst : firstLine (tag ++ (u ++ '\n' :: v ++ (code ++ (back ++ "```".toList)))) = tag ++ u := by
    rw [firstLine_append (newline_not_mem_tag h.tag_ok), List.append_assoc, firstLine_append hu]
    simp [firstLine]
  have hstrip : strip (tag ++ u) = strip tag := strip_append (u := []) (by simp) hblank
  rw [languageIn, hfirst, hstrip, strip_tag h.tag_ok]

theorem languageIn_of_inline (h : Layout cs tag front code back) (hline : '\n' ∉ front) :
    languageIn tag front code back ≠ none ∧
      languageIn tag front code back ≠ some (String.ofList tag) := by
  obtain ⟨d, rest, rfl⟩ := List.exists_cons_of_ne_nil h.ne_nil
  have hd : isBlank d = false := not_isBlank_head?_strip h.stripped d rfl
  have hnewline : d ≠ '\n' := by
    rintro rfl
    exact absurd hd (by decide)
  obtain ⟨w, hw⟩ : ∃ w, firstLine (tag ++ (front ++ (d :: rest ++ (back ++ "```".toList)))) =
      tag ++ (front ++ d :: w) := by
    rw [firstLine_append (newline_not_mem_tag h.tag_ok), firstLine_append hline]
    exact ⟨_, by simp [firstLine, hnewline]; rfl⟩
  -- Nothing but blanks is stripped, so the first character of the code is left behind the tag.
  have hvisible : (strip (tag ++ (front ++ d :: w))).filter (!isBlank ·) =
      tag ++ d :: w.filter (!isBlank ·) := by
    have htag : tag.filter (!isBlank ·) = tag :=
      List.filter_eq_self.2 fun c hc => by simp [not_isBlank_of_isTagChar (h.tag_ok c hc)]
    have hfront : front.filter (!isBlank ·) = [] :=
      List.filter_eq_nil_iff.2 fun c hc => by simp [h.front_blank c hc]
    rw [filter_strip, List.filter_append, List.filter_append, htag, hfront, List.nil_append,
      List.filter_cons_of_pos (by simpa using hd)]
  have hne : strip (tag ++ (front ++ d :: w)) ≠ [] := by
    intro hnil
    simp [hnil] at hvisible
  have hlanguage : languageIn tag front (d :: rest) back =
      some (String.ofList (strip (tag ++ (front ++ d :: w)))) := by
    rw [languageIn, hw, languageOf, if_neg (by simpa using hne)]
  rw [hlanguage]
  refine ⟨by simp, fun heq => ?_⟩
  have htag : strip (tag ++ (front ++ d :: w)) = tag := String.ofList_injective (Option.some.inj heq)
  have hlength := congrArg List.length hvisible
  have hle := List.length_filter_le (!isBlank ·) tag
  rw [htag, List.length_append, List.length_cons] at hlength
  omega

end Layout

def fencedText (tag j : List Char) : List Char :=
  "```".toList ++ (tag ++ '\n' :: (j ++ "\n```".toList))

theorem strip_lineEnds (j : List Char) : strip ('\n' :: (j ++ ['\n'])) = strip j :=
  strip_append (u := ['\n']) (by decide) (by decide)

theorem wholeBlock?_fencedText {w j : List Char} (hw : ∀ c ∈ w, isBlank c = true)
    (hz : ∀ c ∈ z, isBlank c = true) (htag : ∀ c ∈ tag, isTagChar c = true) (hj : strip j ≠ []) :
    wholeBlock? (w ++ (fencedText tag j ++ z)) = some ⟨String.ofList (strip j), languageOf tag⟩ := by
  have htext : strip (w ++ (fencedText tag j ++ z)) =
      "```".toList ++ (tag ++ ('\n' :: (j ++ ['\n']) ++ "```".toList)) := by
    have hfences := strip_fences (tag ++ '\n' :: (j ++ ['\n'])) hw hz
    simpa [fencedText] using hfences
  have hline : firstLine (tag ++ ('\n' :: (j ++ ['\n']) ++ "```".toList)) = tag := by
    rw [firstLine_append (newline_not_mem_tag htag)]
    simp [firstLine]
  rw [wholeBlock?_of_fences htext htag (by simp; decide), strip_lineEnds, hline, strip_tag htag,
    if_neg (by simpa using hj)]

theorem wholeBlock?_fencedText_self {j : List Char} (htag : ∀ c ∈ tag, isTagChar c = true)
    (hj : strip j ≠ []) :
    wholeBlock? (fencedText tag j) = some ⟨String.ofList (strip j), languageOf tag⟩ := by
  simpa using wholeBlock?_fencedText (w := []) (z := []) (by simp) (by simp) htag hj

theorem layout_fencedText {j : List Char} (htag : ∀ c ∈ tag, isTagChar c = true)
    (hj : strip j = j) (hne : j ≠ []) : Layout (fencedText tag j) tag ['\n'] j ['\n'] where
  text := by
    have hfences := strip_fences (w := []) (z := []) (tag ++ '\n' :: (j ++ ['\n'])) (by simp) (by simp)
    simpa [fencedText] using hfences
  tag_ok := htag
  stop := by simp; decide
  front_blank := by decide
  back_blank := by decide
  stripped := hj
  ne_nil := hne

/-- What stands between the first fence and the last one of two blocks with a text between them. -/
def codeThrough (first prose tag' second : List Char) : List Char :=
  first ++ ("\n```".toList ++ (prose ++ ("```".toList ++ (tag' ++ '\n' :: second))))

theorem fencedText_append (tag first prose tag' second : List Char) :
    fencedText tag first ++ (prose ++ fencedText tag' second) =
      fencedText tag (codeThrough first prose tag' second) := by
  simp [fencedText, codeThrough]

theorem strip_codeThrough_ne_nil (first prose tag' second : List Char) :
    strip (codeThrough first prose tag' second) ≠ [] := by
  have hquote : isBlank '\x60' = false := by decide
  intro hnil
  have hvisible := congrArg (·.filter (!isBlank ·)) hnil
  simp only [filter_strip] at hvisible
  simp [codeThrough, hquote] at hvisible

/-- A block is a text from fence to fence, with any code between them. Its language is told right exactly
if the code starts on a line of its own, and two blocks with a text between them are taken for one. -/
theorem wholeBlock?_layouts :
    (∀ b, wholeBlock? cs = some b ↔ ∃ tag front back, Layout cs tag front b.code.toList back ∧
      b.language = languageIn tag front b.code.toList back) ∧
    (∀ b tag front back, wholeBlock? cs = some b → Layout cs tag front b.code.toList back →
      ((b.language = none ∨ b.language = some (String.ofList tag)) ↔ '\n' ∈ front)) ∧
    ∀ tag first prose tag' second, (∀ c ∈ tag, isTagChar c = true) →
      wholeBlock? (fencedText tag first ++ (prose ++ fencedText tag' second)) =
        some ⟨String.ofList (strip (codeThrough first prose tag' second)), languageOf tag⟩ := by
  refine ⟨fun b => ⟨exists_layout, ?_⟩, fun b tag front back hb hlayout => ?_, ?_⟩
  · rintro ⟨tag, front, back, hlayout, hlanguage⟩
    rw [hlayout.wholeBlock?_eq, ← hlanguage, String.ofList_toList]
  · have hlanguage : b.language = languageIn tag front b.code.toList back :=
      congrArg Code.language (Option.some.inj (hb.symm.trans hlayout.wholeBlock?_eq))
    rw [hlanguage]
    by_cases hline : '\n' ∈ front
    · rw [hlayout.languageIn_of_newline hline, languageOf]
      simp only [hline, iff_true]
      split
      · exact .inl rfl
      · exact .inr rfl
    · obtain ⟨hnone, htag⟩ := hlayout.languageIn_of_inline hline
      simp [hline, hnone, htag]
  · intro tag first prose tag' second htag
    rw [fencedText_append]
    exact wholeBlock?_fencedText_self htag (strip_codeThrough_ne_nil first prose tag' second)

theorem wholeBlock?_layouts_inline :
    wholeBlock? "```swift let x = 1```".toList = some ⟨"let x = 1", some "swift let x = 1```"⟩ ∧
    wholeBlock? (fencedText "swift".toList "a".toList ++
      ("\nand\n".toList ++ fencedText [] "b".toList)) = some ⟨"a\n```\nand\n```\nb", some "swift"⟩ := by
  have hlayout : Layout "```swift let x = 1```".toList "swift".toList [' '] "let x = 1".toList [] := {
    text := by decide
    tag_ok := by decide
    stop := by decide
    front_blank := by decide
    back_blank := by decide
    stripped := by decide
    ne_nil := by decide }
  have hlanguage : languageIn "swift".toList [' '] "let x = 1".toList [] =
      some "swift let x = 1```" := by decide +kernel
  obtain ⟨htaken, -, -⟩ := @wholeBlock?_layouts "```swift let x = 1```".toList
  obtain ⟨-, -, htwo⟩ := @wholeBlock?_layouts []
  refine ⟨(htaken _).2 ⟨_, _, _, hlayout, hlanguage.symm⟩, ?_⟩
  rw [htwo _ _ _ _ _ (by decide)]
  decide +kernel

theorem wholeBlock?_fences_in_code :
    wholeBlock? "```swift\nlet x = 1\n```\nand\n```swift\nlet y = 2\n```".toList =
      some ⟨"let x = 1\n```\nand\n```swift\nlet y = 2", some "swift"⟩ ∧
    "```".toList <:+: "let x = 1\n```\nand\n```swift\nlet y = 2".toList := by
  refine ⟨by decide +kernel, ?_⟩
  exact ⟨"let x = 1\n".toList, "\nand\n```swift\nlet y = 2".toList, by decide +kernel⟩

end TestScaffold.Reply
