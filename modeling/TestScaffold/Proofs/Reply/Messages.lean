import TestScaffold.Proofs.Reply.Blocks
import TestScaffold.Proofs.Text.Marks

/-!
Messages: prose with fenced blocks in it. The code that is taken from a message is that of its first Swift
block, or else of its first block, unless the name of the language stands behind an earlier fence that
opens no Swift block.
-/

namespace TestScaffold.Reply

open Text Pattern FencePattern

def fenceMark : List Char := "```".toList

def swiftTag : List Char := "swift".toList

structure Section where
  tag : List Char
  code : List Char
  after : List Char
  tag_ok : ∀ c ∈ tag, isTagChar c = true
  code_plain : '\x60' ∉ code
  after_plain : '\x60' ∉ after

def Section.text (s : Section) : List Char := fencedText s.tag s.code ++ s.after

structure Message where
  before : List Char
  sections : List Section
  before_plain : '\x60' ∉ before

namespace Message

def text (m : Message) : List Char := m.before ++ m.sections.flatMap Section.text

def chosen (m : Message) : Option (List Char) :=
  ((m.sections.find? (·.tag = swiftTag)).or m.sections.head?).map (strip ·.code)

end Message

/-- What stands behind the first fence before all Swift blocks that the name of the language follows, as
the start of another tag or as the start of prose with a further block behind it. -/
def misread? : List Section → Option (List Char)
  | [] => none
  | s :: ss =>
    if s.tag = swiftTag then none
    else if swiftTag <+: s.tag then
      some (strip (s.tag.drop swiftTag.length ++ '\n' :: s.code))
    else if ss ≠ [] ∧ swiftTag <+: s.after then some (strip (s.after.drop swiftTag.length))
    else misread? ss

variable {x y z : List Char} {b : Option Char} {o : Nat} {k : List (Unit × Stretch)}
  {s t : Cursor Unit}

def behindOpening : FencePattern := all [gap, newline, code, fence]

def taken (m : Found Unit) : List Char := strip (m.text ())

theorem ways_fence {c : Char} (hs : s.ahead = c :: x) (hc : c ≠ '\x60') : fence.ways s = [] := by
  have hfence : "```".toList = '\x60' :: ['\x60', '\x60'] := rfl
  rw [fence, ways_lit, hs, hfence]
  simp [Ne.symm hc]

theorem prefers_code (hx : '\x60' ∉ x) : ∃ t, (all [code, fence]).Prefers
    ⟨b, o, x ++ (fenceMark ++ y), k⟩ t ∧ ∀ p q, taken ⟨p, q, t.captures⟩ = strip x := by
  let s : Cursor Unit := ⟨b, o, x ++ (fenceMark ++ y), k⟩
  let n : Cursor Unit := ⟨x.getLast?.or b, o + x.length, fenceMark ++ y, k⟩
  have hreads : s.Reads x n := ⟨rfl, rfl, rfl⟩
  have hlazy : (anyChar.starLazy : FencePattern).Reaches
      (fun m => fence.ways (m.capture () s) = []) s n :=
    reaches_lazy (by simp) fun a c v hv => ways_fence rfl fun hc => hx (by simp [hv, hc])
  have hclose : fence.Prefers (n.capture () s) _ := prefers_lit "```"
  refine ⟨_, hlazy.capture.seq hclose, fun p q => ?_⟩
  have htext : (s.upTo n).text = x := hreads.text_upTo
  simp [taken, Found.text, Found.text?, Found.stretch?, htext]

theorem prefers_behindOpening (hx : '\x60' ∉ x) : ∃ t, behindOpening.Prefers
    ⟨b, o, x ++ (fenceMark ++ y), k⟩ t ∧ ∀ p q, taken ⟨p, q, t.captures⟩ = strip x := by
  -- Blanks on the line of the tag, and the end of that line, are left out; stripping leaves them out too.
  let isGap (c : Char) : Bool := c == ' ' || c == '\t'
  obtain ⟨g, r, rfl, hg, hr⟩ : ∃ g r, x = g ++ r ∧ (∀ c ∈ g, isGap c = true) ∧
      ∀ c ∈ r.head?, isGap c = false := by
    refine ⟨x.takeWhile isGap, x.dropWhile isGap, List.takeWhile_append_dropWhile.symm,
      List.all_eq_true.1 List.all_takeWhile, fun c hc => ?_⟩
    have hnot := List.head?_dropWhile_not isGap x
    rw [hc] at hnot
    simpa using hnot
  have hgblank : ∀ c ∈ g, isBlank c = true := fun c hc => over_gap c (hg c hc)
  have hstop : ∀ c ∈ (r ++ (fenceMark ++ y)).head?, isGap c = false := by
    cases r with
    | nil =>
      rintro c ⟨⟩
      decide
    | cons c r => exact hr
  have hgap := prefers_run (b := b) (o := o) (k := k) hg hstop
  rw [List.append_assoc]
  by_cases hline : ∃ v, r = '\n' :: v
  · obtain ⟨v, rfl⟩ := hline
    have hstrip : strip (g ++ '\n' :: v) = strip v := by
      have hblank : ∀ c ∈ g ++ ['\n'], isBlank c = true :=
        List.forall_mem_append.2 ⟨hgblank, by decide⟩
      simpa using strip_append (t := v) (v := []) hblank (by simp)
    obtain ⟨t, ht, htaken⟩ := prefers_code (x := v) (y := y) (b := some '\n')
      (o := o + g.length + 1) (k := k) fun hmem => hx (by simp [hmem])
    exact ⟨t, hgap.cons ((prefers_char '\n').optional.cons ht), hstrip ▸ htaken⟩
  · have hnone : (char '\n' : FencePattern).ways
        ⟨g.getLast?.or b, o + g.length, r ++ (fenceMark ++ y), k⟩ = [] := by
      cases r with
      | nil => rfl
      | cons c v =>
        have hc : c ≠ '\n' := fun hc => hline ⟨v, by rw [hc]⟩
        simp [char, ways, hc]
    have hstrip : strip (g ++ r) = strip r := by
      simpa using strip_append (t := r) (v := []) hgblank (by simp)
    obtain ⟨t, ht, htaken⟩ := prefers_code (x := r) (y := y) (b := g.getLast?.or b)
      (o := o + g.length) (k := k) fun hmem => hx (by simp [hmem])
    exact ⟨t, hgap.cons ((prefers_skip hnone).cons ht), hstrip ▸ htaken⟩

theorem prefers_anyBlock {tag : List Char} (htag : ∀ c ∈ tag, isTagChar c = true)
    (hstop : ∀ c ∈ x.head?, isTagChar c = false) (hx : '\x60' ∉ x) :
    ∃ t, anyBlock.Prefers ⟨b, o, fenceMark ++ (tag ++ (x ++ (fenceMark ++ y))), k⟩ t ∧
      ∀ p q, taken ⟨p, q, t.captures⟩ = strip x := by
  obtain ⟨t, ht, htaken⟩ := prefers_behindOpening (x := x) (y := y) (k := k) hx
  refine ⟨t, (prefers_lit "```").cons ((prefers_run htag ?_).cons ht), htaken⟩
  cases x with
  | nil => simp [fenceMark]; decide
  | cons c x => exact hstop

theorem prefers_swiftBlock (hx : '\x60' ∉ x) :
    ∃ t, swiftBlock.Prefers ⟨b, o, fenceMark ++ (swiftTag ++ (x ++ (fenceMark ++ y))), k⟩ t ∧
      ∀ p q, taken ⟨p, q, t.captures⟩ = strip x := by
  obtain ⟨t, ht, htaken⟩ := prefers_behindOpening (x := x) (y := y) (k := k) hx
  exact ⟨t, (prefers_lit "```swift").cons ht, htaken⟩

def Fenced (p : FencePattern) : Prop := ∀ s, ∀ t ∈ p.ways s, s.ahead.head? = some '\x60'

theorem fenced_anyBlock : Fenced anyBlock := by
  intro s t ht
  obtain ⟨m, hm, -⟩ := mem_all_cons.1 ht
  rw [(reads_lit hm).ahead]
  rfl

theorem mem_swiftBlock (ht : t ∈ swiftBlock.ways s) :
    ∃ r, s.ahead = fenceMark ++ (swiftTag ++ r) ∧ '\x60' ∈ r := by
  obtain ⟨m₁, h₁, ht⟩ := mem_all_cons.1 ht
  obtain ⟨m₂, h₂, ht⟩ := mem_all_cons.1 ht
  obtain ⟨m₃, h₃, ht⟩ := mem_all_cons.1 ht
  obtain ⟨m₄, h₄, ht⟩ := mem_all_cons.1 ht
  refine ⟨m₁.ahead, (reads_lit h₁).ahead, ?_⟩
  have hsuffix : m₄.ahead <:+ m₁.ahead :=
    (suffix_of_mem h₄).trans ((suffix_of_mem h₃).trans (suffix_of_mem h₂))
  refine hsuffix.subset ?_
  rw [(reads_lit ht).ahead]
  simp

theorem fenced_swiftBlock : Fenced swiftBlock := by
  intro s t ht
  obtain ⟨r, hr, -⟩ := mem_swiftBlock ht
  rw [hr]
  rfl

theorem Fenced.silent {p : FencePattern} (h : Fenced p) (hx : '\x60' ∉ x) : p.Silent b x y := by
  rintro a c v rfl o
  refine List.eq_nil_iff_forall_not_mem.2 fun t ht => ?_
  obtain rfl : c = '\x60' := by simpa using h _ t ht
  simp at hx

theorem Fenced.searchFrom_nil {p : FencePattern} (h : Fenced p) : p.searchFrom b o [] = none :=
  here?_eq_none <| List.eq_nil_iff_forall_not_mem.2 fun t ht => nomatch h _ t ht

theorem silent_fence (hswift : ∀ r, z = swiftTag ++ r → '\x60' ∉ r)
    (hz : z.head? = some '\x60' → fenceMark <+: z) : swiftBlock.Silent b fenceMark z := by
  rintro a c v ha o
  refine List.eq_nil_iff_forall_not_mem.2 fun t ht => ?_
  obtain ⟨r, hr, hquote⟩ := mem_swiftBlock ht
  have hname : swiftTag = 's' :: ['w', 'i', 'f', 't'] := rfl
  have hmark : fenceMark = ['\x60', '\x60', '\x60'] := rfl
  rw [hmark] at ha
  rw [hmark] at hr hz
  match a with
  | [] =>
    obtain ⟨rfl, rfl⟩ := List.cons.inj ha
    exact hswift r (by simpa using hr) hquote
  | [_] =>
    obtain ⟨rfl, rfl⟩ := List.cons.inj (List.cons.inj ha).2
    obtain rfl : z = '\x60' :: (swiftTag ++ r) := by simpa using hr
    simpa [hname] using hz rfl
  | [_, _] =>
    obtain ⟨rfl, rfl⟩ := List.cons.inj (List.cons.inj (List.cons.inj ha).2).2
    obtain rfl : z = '\x60' :: '\x60' :: (swiftTag ++ r) := by simpa using hr
    simpa [hname] using hz rfl
  | _ :: _ :: _ :: _ => simp at ha

def behindFences (xs : List (List Char)) : List Char := xs.flatMap (fenceMark ++ ·)

def firstNamed : List (List Char) → Option (List Char)
  | [] => none
  | [_] => none
  | x :: y :: xs =>
    if swiftTag <+: x then some (strip (x.drop swiftTag.length)) else firstNamed (y :: xs)

theorem quote_not_mem_swiftTag : '\x60' ∉ swiftTag := by decide

theorem behindFences_cons (x : List Char) (xs : List (List Char)) :
    behindFences (x :: xs) = fenceMark ++ (x ++ behindFences xs) := by
  rw [behindFences, List.flatMap_cons, List.append_assoc]
  rfl

theorem searchFrom_skip {xs : List (List Char)} (hx : '\x60' ∉ x)
    (hswift : xs ≠ [] → ¬ swiftTag <+: x) :
    ∃ b' o', swiftBlock.searchFrom b o (behindFences (x :: xs)) =
      swiftBlock.searchFrom b' o' (behindFences xs) := by
  have hmark : fenceMark = ['\x60', '\x60', '\x60'] := rfl
  -- The fence in front of the text opens nothing: the name does not follow it, or no fence comes later.
  have hfence : swiftBlock.Silent b fenceMark (x ++ behindFences xs) := by
    cases xs with
    | nil =>
      have hall : '\x60' ∉ x ++ behindFences [] := by simpa [behindFences] using hx
      refine silent_fence (fun r hr hmem => hall ?_) fun hhead => ?_
      · simp [hr, hmem]
      · exact absurd (List.mem_of_mem_head? hhead) hall
    | cons y ys =>
      rw [behindFences_cons]
      refine silent_fence (fun r hr => absurd ?_ (hswift (by simp))) fun hhead => ?_
      · rw [hmark] at hr
        exact prefix_of_prefix_append ⟨r, hr.symm⟩ quote_not_mem_swiftTag
      · cases x with
        | nil => exact ⟨_, rfl⟩
        | cons c x => exact absurd (List.mem_of_mem_head? hhead) (by simp_all)
  rw [behindFences_cons, searchFrom_append hfence, searchFrom_append (fenced_swiftBlock.silent hx)]
  exact ⟨_, _, rfl⟩

theorem searchFrom_behindFences {xs : List (List Char)} (hxs : ∀ x ∈ xs, '\x60' ∉ x)
    (b : Option Char) (o : Nat) :
    (swiftBlock.searchFrom b o (behindFences xs)).map taken = firstNamed xs := by
  have hend (b : Option Char) (o : Nat) : swiftBlock.searchFrom b o (behindFences []) = none :=
    fenced_swiftBlock.searchFrom_nil
  induction xs generalizing b o with
  | nil => rw [hend]; rfl
  | cons x xs ih =>
    have hx := hxs x List.mem_cons_self
    cases xs with
    | nil =>
      obtain ⟨b', o', hskip⟩ : ∃ b' o', swiftBlock.searchFrom b o (behindFences [x]) =
          swiftBlock.searchFrom b' o' (behindFences []) := searchFrom_skip hx (by simp)
      rw [hskip, hend]
      rfl
    | cons y ys =>
      by_cases hname : swiftTag <+: x
      · obtain ⟨v, rfl⟩ := hname
        have hv : '\x60' ∉ v := fun hmem => hx (List.mem_append_right _ hmem)
        obtain ⟨t, ht, htaken⟩ := prefers_swiftBlock (b := b) (o := o) (k := [])
          (y := y ++ behindFences ys) hv
        rw [behindFences_cons, behindFences_cons, List.append_assoc, ht.searchFrom, firstNamed,
          if_pos (List.prefix_append _ _), List.drop_left, Option.map_some, htaken]
      · obtain ⟨b', o', hskip⟩ : ∃ b' o', swiftBlock.searchFrom b o (behindFences (x :: y :: ys)) =
            swiftBlock.searchFrom b' o' (behindFences (y :: ys)) := searchFrom_skip hx fun _ => hname
        rw [hskip, ih fun z hz => hxs z (List.mem_cons_of_mem x hz), firstNamed, if_neg hname]

namespace Section

def inside (s : Section) : List Char := s.tag ++ '\n' :: (s.code ++ ['\n'])

theorem inside_plain (s : Section) : '\x60' ∉ s.inside := by
  have htag : '\x60' ∉ s.tag := fun hmem => absurd (s.tag_ok _ hmem) (by decide)
  simp [inside, htag, s.code_plain]

theorem text_eq (s : Section) : s.text = fenceMark ++ (s.inside ++ (fenceMark ++ s.after)) := by
  simp [text, fencedText, fenceMark, inside]

theorem prefix_inside_iff (s : Section) : swiftTag <+: s.inside ↔ swiftTag <+: s.tag :=
  ⟨fun h => prefix_of_prefix_append h (by decide), fun h => h.trans (List.prefix_append _ _)⟩

theorem strip_inside {s : Section} {x : List Char} (h : s.tag = swiftTag ++ x) :
    strip (s.inside.drop swiftTag.length) = strip (x ++ '\n' :: s.code) := by
  have hback := strip_append (u := []) (t := x ++ '\n' :: s.code) (v := ['\n']) (by simp) (by decide)
  rw [inside, h, List.append_assoc, List.drop_left]
  simpa using hback

end Section

theorem strip_newline (x : List Char) : strip ('\n' :: x) = strip x := by
  simpa using strip_append (u := ['\n']) (t := x) (v := []) (by decide) (by simp)

def pieces (ss : List Section) : List (List Char) := ss.flatMap fun s => [s.inside, s.after]

theorem pieces_cons (s : Section) (ss : List Section) :
    pieces (s :: ss) = s.inside :: s.after :: pieces ss := rfl

theorem flatMap_text (ss : List Section) : ss.flatMap Section.text = behindFences (pieces ss) := by
  induction ss with
  | nil => rfl
  | cons s ss ih =>
    rw [List.flatMap_cons, s.text_eq, ih, pieces_cons, behindFences_cons, behindFences_cons]
    simp only [List.append_assoc]

theorem firstNamed_pieces (ss : List Section) : firstNamed (pieces ss) =
    (misread? ss).or ((ss.find? (·.tag = swiftTag)).map (strip ·.code)) := by
  induction ss with
  | nil => rfl
  | cons s ss ih =>
    -- Each block has two fences, so one round of `misread?` is two of `firstNamed`.
    have hafter : firstNamed (s.after :: pieces ss) =
        if ss ≠ [] ∧ swiftTag <+: s.after then some (strip (s.after.drop swiftTag.length))
        else firstNamed (pieces ss) := by
      cases ss with
      | nil => simp [pieces, firstNamed]
      | cons s' ss =>
        have hne : s' :: ss ≠ [] := by simp
        simp only [pieces, List.flatMap_cons, List.cons_append, firstNamed, hne, true_and, ne_eq,
          not_false_eq_true]
    rw [pieces_cons, firstNamed, misread?, hafter]
    by_cases hswift : s.tag = swiftTag
    · have hopen : swiftTag <+: s.tag := by rw [hswift]
      have hinside : strip (s.inside.drop swiftTag.length) = strip s.code := by
        rw [s.strip_inside (x := []) (by rw [hswift, List.append_nil]), List.nil_append,
          strip_newline]
      rw [if_pos (s.prefix_inside_iff.2 hopen), if_pos hswift, hinside,
        List.find?_cons_of_pos (by simpa using hswift)]
      rfl
    · rw [if_neg hswift, List.find?_cons_of_neg (by simpa using hswift)]
      by_cases hopen : swiftTag <+: s.tag
      · obtain ⟨x, hx⟩ := hopen
        have hinside := s.strip_inside hx.symm
        rw [if_pos (s.prefix_inside_iff.2 ⟨x, hx⟩), if_pos ⟨x, hx⟩, hinside, ← hx, List.drop_left]
        rfl
      · rw [if_neg fun h => hopen (s.prefix_inside_iff.1 h), if_neg hopen]
        split
        · rfl
        · exact ih

namespace Message

variable (m : Message)

theorem swiftBlock_text : (swiftBlock.search? m.text).map taken =
    (misread? m.sections).or ((m.sections.find? (·.tag = swiftTag)).map (strip ·.code)) := by
  have hplain : ∀ x ∈ pieces m.sections, '\x60' ∉ x := by
    intro x hx
    obtain ⟨s, -, hx⟩ := List.mem_flatMap.1 hx
    rcases List.mem_pair.1 hx with rfl | rfl
    · exact s.inside_plain
    · exact s.after_plain
  rw [search?, text, searchFrom_append (fenced_swiftBlock.silent m.before_plain), flatMap_text,
    searchFrom_behindFences hplain, firstNamed_pieces]

theorem anyBlock_text :
    (anyBlock.search? m.text).map taken = m.sections.head?.map (strip ·.code) := by
  rw [search?, text, searchFrom_append (fenced_anyBlock.silent m.before_plain)]
  cases hsections : m.sections with
  | nil => rw [List.flatMap_nil, fenced_anyBlock.searchFrom_nil]; rfl
  | cons s ss =>
    have hcode : '\x60' ∉ '\n' :: (s.code ++ ['\n']) := by simp [s.code_plain]
    obtain ⟨t, ht, htaken⟩ := prefers_anyBlock (b := m.before.getLast?.or none)
      (o := 0 + m.before.length) (k := []) (y := s.after ++ ss.flatMap Section.text) s.tag_ok
      (by simp; decide) hcode
    have htext : (s :: ss).flatMap Section.text = fenceMark ++ (s.tag ++
        ('\n' :: (s.code ++ ['\n']) ++ (fenceMark ++ (s.after ++ ss.flatMap Section.text)))) := by
      simp [s.text_eq, Section.inside]
    rw [htext, ht.searchFrom, Option.map_some, htaken, strip_lineEnds]
    rfl

theorem misread?_eq_none {ss : List Section} (htags : ∀ s ∈ ss, swiftTag <+: s.tag → s.tag = swiftTag)
    (hprose : ∀ s ∈ ss.dropLast, ¬ swiftTag <+: s.after) : misread? ss = none := by
  induction ss with
  | nil => rfl
  | cons s ss ih =>
    rw [misread?]
    by_cases hswift : s.tag = swiftTag
    · rw [if_pos hswift]
    · have hafter : ¬ (ss ≠ [] ∧ swiftTag <+: s.after) := by
        rintro ⟨hne, hafter⟩
        refine hprose s ?_ hafter
        rw [List.dropLast_cons_of_ne_nil hne]
        exact List.mem_cons_self
      rw [if_neg hswift, if_neg fun h => hswift (htags s List.mem_cons_self h), if_neg hafter]
      refine ih (fun s' hs' => htags s' (List.mem_cons_of_mem s hs')) fun s' hs' => hprose s' ?_
      have hne : ss ≠ [] := by
        rintro rfl
        cases hs'
      rw [List.dropLast_cons_of_ne_nil hne]
      exact List.mem_cons_of_mem s hs'

/-- From a message the code of the first Swift block is taken, or that of the first block, or nothing if
there is no block; unless, before any Swift block, the name of the language starts a longer tag or the
prose between two blocks. -/
theorem blockWithin?_text :
    blockWithin? m.text = (misread? m.sections).or m.chosen ∧
      ((∀ s ∈ m.sections, swiftTag <+: s.tag → s.tag = swiftTag) →
        (∀ s ∈ m.sections.dropLast, ¬ swiftTag <+: s.after) → blockWithin? m.text = m.chosen) := by
  have htext : blockWithin? m.text = (misread? m.sections).or m.chosen := by
    have hmap (x y : Option (Found Unit)) :
        (x.orElse fun _ => y).map taken = (x.map taken).or (y.map taken) := by
      cases x <;> rfl
    have hchosen : m.chosen = ((m.sections.find? (·.tag = swiftTag)).map (strip ·.code)).or
        (m.sections.head?.map (strip ·.code)) := by
      rw [chosen, Option.map_or]
    change ((swiftBlock.search? m.text).orElse fun _ => anyBlock.search? m.text).map taken = _
    rw [hmap, m.swiftBlock_text, m.anyBlock_text, hchosen, Option.or_assoc]
  refine ⟨htext, fun htags hprose => ?_⟩
  rw [htext, misread?_eq_none htags hprose, Option.none_or]

def dataThenCode : Message where
  before := "Sure:\n".toList
  sections := [
    ⟨"json".toList, "\x7b\x7d".toList, "\nthen\n".toList, by decide, by decide, by decide⟩,
    ⟨swiftTag, "let y = 2".toList, "\n".toList, by decide, by decide, by decide⟩]
  before_plain := by decide

theorem blockWithin?_text_dataThenCode :
    (∀ s ∈ dataThenCode.sections, swiftTag <+: s.tag → s.tag = swiftTag) ∧
    (∀ s ∈ dataThenCode.sections.dropLast, ¬ swiftTag <+: s.after) ∧
    blockWithin? dataThenCode.text = some "let y = 2".toList := by
  have htags : ∀ s ∈ dataThenCode.sections, swiftTag <+: s.tag → s.tag = swiftTag := by
    simp only [dataThenCode, List.forall_mem_cons, List.not_mem_nil, false_implies, implies_true,
      and_true]
    decide
  have hprose : ∀ s ∈ dataThenCode.sections.dropLast, ¬ swiftTag <+: s.after := by
    simp only [dataThenCode, List.dropLast_cons_cons, List.dropLast_singleton, List.forall_mem_singleton]
    decide
  exact ⟨htags, hprose, (dataThenCode.blockWithin?_text.2 htags hprose).trans (by decide)⟩

def longerTag : Message where
  before := "Use this:\n".toList
  sections := [⟨"swiftui".toList, "let x = 1".toList, "\n".toList, by decide, by decide, by decide⟩]
  before_plain := by decide

def namedInProse : Message where
  before := []
  sections := [
    ⟨"json".toList, "\x7b\x7d".toList, "swift code:\n".toList, by decide, by decide, by decide⟩,
    ⟨[], "let x = 1".toList, [], by decide, by decide, by decide⟩]
  before_plain := by decide

theorem misread_tag_and_prose :
    longerTag.text = "Use this:\n```swiftui\nlet x = 1\n```\n".toList ∧
    longerTag.chosen = some "let x = 1".toList ∧
    blockWithin? longerTag.text = some "ui\nlet x = 1".toList ∧
    namedInProse.text = "```json\n\x7b\x7d\n```swift code:\n```\nlet x = 1\n```".toList ∧
    namedInProse.chosen = some "\x7b\x7d".toList ∧
    blockWithin? namedInProse.text = some "code:".toList := by
  refine ⟨?_, ?_, ?_, ?_, ?_, ?_⟩ <;> decide +kernel

end Message

end TestScaffold.Reply
