import TestScaffold.Proofs.Swift.PrintedMembers

namespace TestScaffold.Swift

open Text Pattern

namespace Grammar

variable {b : Option Char} {o : Nat} {l r w : List Char} {k : List (Slot × Stretch)}
  {extra : List String}

theorem prefers_parameters (hp : IsShallow l) : parameters.Prefers ⟨b, o, l ++ ')' :: r, k⟩
    ⟨l.getLast?.or b, o + l.length, ')' :: r, k⟩ := by
  induction hp generalizing b o with
  | nil => exact prefers_star_stop (by simp [ways, except, Pattern.char, ways_all_cons])
  | @plain c p opening closing rest ih =>
    rw [last_cons, add_length_cons]
    have hround : (Pattern.alt (except ['(', ')'])
        (all [Pattern.char '(', Pattern.star (except ['(', ')']), Pattern.char ')'])).Prefers
        ⟨b, o, c :: (p ++ ')' :: r), k⟩ ⟨some c, o + 1, p ++ ')' :: r, k⟩ :=
      Prefers.left (prefers_one (by simp [opening, closing])) _
    exact hround.star (Nat.lt_succ_self o) ih
  | @group u p inside rest ih =>
    have hround : (Pattern.alt (except ['(', ')'])
        (all [Pattern.char '(', Pattern.star (except ['(', ')']), Pattern.char ')'])).Prefers
        ⟨b, o, '(' :: (u ++ ')' :: (p ++ ')' :: r)), k⟩
        ⟨some ')', o + 1 + u.length + 1, p ++ ')' :: r, k⟩ :=
      Prefers.right (by simp [ways, except]) <| (prefers_char '(').cons <|
        (prefers_run (fun c hc => by simp [inside c hc]) (by simp)).cons (prefers_char ')')
    have htext : '(' :: (u ++ ')' :: p) ++ ')' :: r = '(' :: (u ++ ')' :: (p ++ ')' :: r)) := by simp
    have hlast : ('(' :: (u ++ ')' :: p)).getLast?.or b = p.getLast?.or (some ')') := by
      rw [last_cons, List.getLast?_append, Option.or_assoc, last_cons]
    have hlen : o + ('(' :: (u ++ ')' :: p)).length = o + 1 + u.length + 1 + p.length := by
      simp only [List.length_cons, List.length_append]
      omega
    rw [htext, hlast, hlen]
    exact hround.star (by simp only; omega) ih

theorem ways_qualifierRound {kw : String} (h : ∀ v ∈ access ++ extra,
    v.toList.isPrefixOf (kw.toList ++ ' ' :: r) = false) :
    (qualifierRound extra).ways ⟨b, o, kw.toList ++ ' ' :: r, k⟩ = [] := by
  refine List.eq_nil_iff_forall_not_mem.2 fun t ht => ?_
  obtain ⟨m₁, h₁, ht⟩ := mem_all_cons.1 ht
  obtain ⟨m₂, h₂, -⟩ := mem_all_cons.1 ht
  obtain ⟨-, rfl⟩ := mem_wordEdge h₁
  have hnone : (any ((access ++ extra).map lit)).ways ⟨b, o, kw.toList ++ ' ' :: r, k⟩ = [] :=
    ways_any_lit h
  rw [hnone] at h₂
  simp at h₂

theorem not_isBlank_head?_spaced {ws : List String} (hws : ∀ w ∈ ws, IsWordText w.toList)
    (hr : ∀ c ∈ r.head?, isBlank c = false) :
    ∀ c ∈ (spaced ws ++ r).head?, isBlank c = false := by
  cases ws with
  | nil => exact hr
  | cons w ws =>
    obtain ⟨c, v, hv, hc⟩ := (hws w List.mem_cons_self).head
    rw [spaced_cons, hv]
    rintro d ⟨⟩
    exact isBlank_eq_false_of_isWord hc

theorem prefers_wordRounds {p : Grammar} {ws : List String} (hws : ∀ w ∈ ws, IsWordText w.toList)
    (hround : ∀ w ∈ ws, ∀ b o r, b.any isWord = false → (∀ c ∈ r.head?, isBlank c = false) →
      p.Prefers ⟨b, o, w.toList ++ ' ' :: r, k⟩ ⟨some ' ', o + w.toList.length + 1, r, k⟩)
    (hstop : ∀ b o, p.ways ⟨b, o, r, k⟩ = []) (hr : ∀ c ∈ r.head?, isBlank c = false)
    (hb : b.any isWord = false) : ∃ b', b'.any isWord = false ∧ p.star.Prefers
      ⟨b, o, spaced ws ++ r, k⟩
      ⟨b', o + (spaced ws).length, r, k⟩ := by
  induction ws generalizing b o with
  | nil => exact ⟨b, hb, prefers_star_stop (hstop b o)⟩
  | cons w ws ih =>
    rw [List.forall_mem_cons] at hws hround
    obtain ⟨b', hb', hp⟩ := ih hws.2 hround.2 (b := some ' ') (o := o + w.toList.length + 1) (by decide)
    have hlen : o + (spaced (w :: ws)).length = o + w.toList.length + 1 + (spaced ws).length := by
      rw [spaced_cons, List.length_append, List.length_cons]
      omega
    refine ⟨b', hb', ?_⟩
    rw [hlen, spaced_cons, List.append_assoc, List.cons_append]
    exact (hround.1 b o _ hb (not_isBlank_head?_spaced hws.2 hr)).star (by simp only; omega) hp

def Apart (ws : List String) : Prop := ∀ v ∈ ws, ∀ w ∈ ws, v.toList <+: w.toList → v = w

instance (ws : List String) : Decidable (Apart ws) := inferInstanceAs (Decidable (∀ _ ∈ _, _))

theorem Apart.isPrefixOf_eq_false {v w : String} {ws : List String} (h : Apart ws) (hv : v ∈ ws)
    (hw : w ∈ ws) (hne : v ≠ w) : v.toList.isPrefixOf (w.toList ++ r) = false := by
  refine Bool.eq_false_iff.2 fun hprefix => ?_
  rcases List.prefix_or_prefix_of_prefix (List.isPrefixOf_iff_prefix.1 hprefix)
    (List.prefix_append w.toList r) with hvw | hwv
  · exact hne (h v hv w hw hvw)
  · exact hne (h w hw v hv hwv).symm

theorem prefers_qualifiers {kw : String} {qs : List String} (hqs : ∀ q ∈ qs, q ∈ access ++ extra)
    (hwords : ∀ w ∈ access ++ extra, IsWordText w.toList) (hapart : Apart (access ++ extra))
    (hkw : ∀ v ∈ access ++ extra, v.toList.isPrefixOf (kw.toList ++ ' ' :: r) = false)
    (hword : IsWordText kw.toList) (hb : b.any isWord = false) :
    ∃ b', b'.any isWord = false ∧ (qualifiers extra).Prefers
      ⟨b, o, spaced qs ++ (kw.toList ++ ' ' :: r), k⟩
      ⟨b', o + (spaced qs).length, kw.toList ++ ' ' :: r,
        (.qualifiers, ⟨o, spaced qs ++ (kw.toList ++ ' ' :: r),
          (spaced qs).length⟩) :: k⟩ := by
  have hround : ∀ q ∈ qs, ∀ b o r, b.any isWord = false → (∀ c ∈ r.head?, isBlank c = false) →
      (qualifierRound extra).Prefers ⟨b, o, q.toList ++ ' ' :: r, k⟩
        ⟨some ' ', o + q.toList.length + 1, r, k⟩ := fun q hq b o r hb hr =>
    (prefers_wordEdge (hwords q (hqs q hq)) hb).cons <|
      (prefers_any_lit (hqs q hq) fun v hv hne => hapart.isPrefixOf_eq_false hv (hqs q hq) hne).cons <|
      (prefers_skip (by simp [ways_lit])).cons (prefers_someSpace hr)
  have hhead : ∀ c ∈ (kw.toList ++ ' ' :: r).head?, isBlank c = false := by
    obtain ⟨c, v, hv, hc⟩ := hword.head
    rw [hv]
    rintro d ⟨⟩
    exact isBlank_eq_false_of_isWord hc
  obtain ⟨b', hb', hp⟩ := prefers_wordRounds (fun q hq => hwords q (hqs q hq)) hround
    (fun b o => ways_qualifierRound hkw) hhead hb
  exact ⟨b', hb', hp.capture rfl .qualifiers⟩

def effectNames : List String := ["async", "throws", "rethrows"]

theorem isWordText_of_mem_effectNames : ∀ w ∈ effectNames, IsWordText w.toList := by
  decide

theorem prefers_effects {ws : List String} (hws : ∀ w ∈ ws, w ∈ effectNames)
    (hr : ∀ v ∈ effectNames, v.toList.isPrefixOf r = false) (hblank : ∀ c ∈ r.head?, isBlank c = false)
    (hb : b.any isWord = false) :
    ∃ b', (Pattern.star (.seq (any (effectNames.map lit)) blanks)).Prefers
      ⟨b, o, spaced ws ++ r, k⟩
      ⟨b', o + (spaced ws).length, r, k⟩ := by
  have hapart : Apart effectNames := by decide
  have hround : ∀ w ∈ ws, ∀ b o r, b.any isWord = false → (∀ c ∈ r.head?, isBlank c = false) →
      (Pattern.seq (any (effectNames.map lit)) blanks).Prefers ⟨b, o, w.toList ++ ' ' :: r, k⟩
        ⟨some ' ', o + w.toList.length + 1, r, k⟩ := fun w hw b o r _ hr =>
    (prefers_any_lit (hws w hw) fun v hv hne => hapart.isPrefixOf_eq_false hv (hws w hw) hne).seq
      (prefers_space hr)
  have hstop (b : Option Char) (o : Nat) :
      (Pattern.seq (any (effectNames.map lit)) blanks).ways ⟨b, o, r, k⟩ = [] := by
    rw [ways, ways_any_lit hr]
    rfl
  obtain ⟨b', -, hp⟩ := prefers_wordRounds (fun w hw => isWordText_of_mem_effectNames w (hws w hw)) hround
    hstop hblank hb
  exact ⟨b', hp⟩

def closing : Grammar := all [blanks, any [Pattern.char '\x7b', word "where", lineEnd]]

theorem mem_word {w : String} {s t : Cursor Slot} (hw : IsWordText w.toList)
    (h : t ∈ (word w).ways s) : s.before.any isWord = false ∧
      ∃ x, s.ahead = w.toList ++ x ∧ x.head?.any isWord = false := by
  obtain ⟨m₁, h₁, h⟩ := mem_all_cons.1 h
  obtain ⟨m₂, h₂, h₃⟩ := mem_all_cons.1 h
  obtain ⟨-, rfl⟩ := mem_wordEdge h₁
  have hread := reads_lit h₂
  refine ⟨free_of_wordEdge h₁ hread.ahead hw, m₂.ahead, hread.ahead, ?_⟩
  have hedge := (mem_wordEdge h₃).1
  have hlast : ∃ c, m₂.before = some c ∧ isWord c = true := by
    rcases List.eq_nil_or_concat w.toList with hnil | ⟨v, c, hc⟩
    · exact absurd hnil hw.1
    · rw [List.concat_eq_append] at hc
      refine ⟨c, by rw [hread.before, hc]; simp, hw.2 c (hc ▸ by simp)⟩
  obtain ⟨c, hc, hword⟩ := hlast
  rw [hc] at hedge
  simpa [hword] using hedge

theorem exists_behind_blanks {x u y z : List Char} (h : x ++ z = u ++ y)
    (hu : ∀ c ∈ u, isBlank c = true) (hx : x ≠ []) (hlast : ∀ c ∈ x.getLast?, isBlank c = false) :
    ∃ v, x = u ++ v ∧ v ≠ [] := by
  obtain ⟨c, hc⟩ := Option.isSome_iff_exists.1 (List.getLast?_isSome.2 hx)
  have hcu : c ∉ u := fun hmem => by
    have hfree := hlast c hc
    simp [hu c hmem] at hfree
  rcases List.append_eq_append_iff.1 h with ⟨w, rfl, -⟩ | ⟨w, rfl, -⟩
  · exact absurd (List.mem_append_left w (List.mem_of_getLast? hc)) hcu
  · refine ⟨w, rfl, ?_⟩
    rintro rfl
    rw [List.append_nil] at hc
    exact hcu (List.mem_of_getLast? hc)

theorem exists_behind_word {x w y z : List Char} {c : Char} (h : x ++ c :: z = w ++ y) (hc : c ∉ w)
    (hy : y.head?.any isWord = false) : ∃ v, x = w ++ v ∧ v.head?.any isWord = false := by
  rcases List.append_eq_append_iff.1 h with ⟨v, he, hrest⟩ | ⟨v, rfl, rfl⟩
  · cases v with
    | nil => exact ⟨[], by rw [he]; simp, rfl⟩
    | cons d v =>
      obtain ⟨rfl, -⟩ := List.cons.inj hrest
      exact absurd (he ▸ by simp) hc
  · refine ⟨v, rfl, ?_⟩
    cases v with
    | nil => rfl
    | cons d v => exact hy

theorem ways_closing (t : ReturnText) {v x : List Char} {s : Cursor Slot} (ht : t.text = v ++ x)
    (hx : x ≠ []) (hs : s.ahead = x ++ ' ' :: '\x7b' :: r) (hv : s.before = v.getLast?) :
    closing.ways s = [] := by
  refine List.eq_nil_iff_forall_not_mem.2 fun n hn => ?_
  obtain ⟨m, hm, hn⟩ := mem_all_cons.1 hn
  obtain ⟨u, hu, hblank⟩ := mem_blanks hm
  have hlast : ∀ c ∈ x.getLast?, isBlank c = false := fun c hc => by
    refine not_isBlank_getLast?_strip t.stripped c ?_
    rw [ht, List.getLast?_append, hc]
    rfl
  obtain ⟨y, hy, hne⟩ := exists_behind_blanks (hs.symm.trans hu.ahead) hblank hx hlast
  have hahead : m.ahead = y ++ ' ' :: '\x7b' :: r := by
    have heq := hu.ahead
    rw [hs, hy, List.append_assoc] at heq
    exact (List.append_cancel_left heq).symm
  obtain ⟨c, y, rfl⟩ := List.exists_cons_of_ne_nil hne
  have hmem : c ∈ t.text := by simp [ht, hy]
  obtain ⟨p, hp, hn⟩ := mem_any.1 hn
  simp only [List.mem_cons, List.not_mem_nil, or_false] at hp
  rcases hp with rfl | rfl | rfl
  · rw [mem_char hn] at hahead
    obtain ⟨rfl, -⟩ := List.cons.inj hahead
    exact t.brace hmem
  · obtain ⟨hfree, z, hz, hedge⟩ := mem_word (by decide) hn
    obtain ⟨e, he, hehead⟩ := exists_behind_word (hahead.symm.trans hz) (by decide) hedge
    refine t.free "where" (by decide) ⟨v ++ u, e, ?_, ?_, hehead⟩
    · rw [ht, hy, he]
      simp
    · rw [List.getLast?_append, ← hv, ← hu.before]
      exact hfree
  · have hend := (mem_place.1 hn).1
    rw [hahead] at hend
    simp only [List.cons_append, List.head?_cons, Option.all_some, beq_iff_eq] at hend
    exact t.line (hend ▸ hmem)

def returnsAndClosing : Grammar :=
  .seq (optional
    (all [lit "->", blanks, .capture .returns (plusLazy (except ['\x7b', '\n']))])) closing

def returnsCapture (o : Nat) (r : List Char) : Option ReturnText → List (Slot × Stretch)
  | none => []
  | some t => [(.returns, ⟨o + 3, t.text ++ ' ' :: '\x7b' :: r, t.text.length⟩)]

theorem prefers_returns (t : Option ReturnText) : returnsAndClosing.Prefers
    ⟨b, o, arrowText t ++ '\x7b' :: r, k⟩
    ⟨some '\x7b', o + (arrowText t).length + 1, r, returnsCapture o r t ++ k⟩ := by
  cases t with
  | none =>
    have hclosing : closing.Prefers ⟨b, o, '\x7b' :: r, k⟩ ⟨some '\x7b', o + 1, r, k⟩ :=
      (prefers_noBlanks (by simp; decide)).cons (Prefers.any_head (prefers_char '\x7b'))
    exact (prefers_skip (by simp [arrowText, ways_all_cons, ways_lit])).seq hclosing
  | some t =>
    obtain ⟨c, v, hv⟩ := List.exists_cons_of_ne_nil t.ne_nil
    have hplain : ∀ d ∈ t.text, (!(['\x7b', '\n'].contains d)) = true := by
      rintro d hd
      have hbrace : d ≠ '\x7b' := ne_of_mem_of_not_mem hd t.brace
      have hline : d ≠ '\n' := ne_of_mem_of_not_mem hd t.line
      simp [hbrace, hline]
    have hhead : ∀ d ∈ (c :: (v ++ ' ' :: '\x7b' :: r)).head?, isBlank d = false := by
      rintro d ⟨⟩
      exact not_isBlank_head?_strip t.stripped c (by simp [hv])
    let start : Cursor Slot := ⟨some ' ', o + 2 + 1, c :: (v ++ ' ' :: '\x7b' :: r), k⟩
    let stop : Cursor Slot :=
      ⟨v.getLast?.or (some c), o + 2 + 1 + 1 + v.length, ' ' :: '\x7b' :: r, k⟩
    -- The lazy run would stop after each character, but then the function does not end.
    have hlazy : (plusLazy (except ['\x7b', '\n'])).Reaches
        (fun m => closing.ways (m.capture .returns start) = []) start stop := by
      refine Reaches.after (prefers_one (hplain c (by simp [hv]))) (reaches_lazy ?_ ?_)
      · exact fun d hd => hplain d (by simp [hv, hd])
      · rintro a d x rfl
        refine ways_closing (v := c :: a) (x := d :: x) t (by simp [hv]) (by simp) rfl ?_
        have hlast := last_cons c a none
        rw [Option.or_none] at hlast
        exact hlast.symm
    have hreach : (all [lit "->", blanks, .capture .returns (plusLazy (except ['\x7b', '\n']))]).Reaches
        (closing.ways · = [])
        ⟨b, o, "->".toList ++ ' ' :: (c :: (v ++ ' ' :: '\x7b' :: r)), k⟩ (stop.capture .returns start) :=
      Reaches.after (prefers_lit "->") (Reaches.after (prefers_space hhead) hlazy.capture)
    have hclosing : closing.Prefers (stop.capture .returns start)
        ⟨some '\x7b', stop.offset + 1 + 1, r, (.returns, start.upTo stop) :: k⟩ :=
      (prefers_space (by simp; decide)).cons (Prefers.any_head (prefers_char '\x7b'))
    have htext : arrowText (some t) ++ '\x7b' :: r =
        "->".toList ++ ' ' :: (c :: (v ++ ' ' :: '\x7b' :: r)) := by simp [arrowText, hv]
    have hlen : o + (arrowText (some t)).length + 1 = stop.offset + 1 + 1 := by
      simp only [arrowText, hv, stop, List.length_cons, List.length_append, List.length_nil]
      omega
    have hcapture : returnsCapture o r (some t) = [(.returns, start.upTo stop)] := by
      have hsub : stop.offset - start.offset = t.text.length := by
        simp only [stop, start, hv, List.length_cons]
        omega
      rw [returnsCapture, Cursor.upTo, hsub, hv]
      rfl
    rw [htext, hlen, hcapture]
    exact (hreach.seq hclosing).optional_seq

def functionHead (qs : List String) (name : Identifier) (p : List Char) (ws : List String)
    (t : Option ReturnText) : List Char :=
  spaced qs ++ ("func".toList ++ ' ' :: (name.text ++ '(' ::
    (p ++ ')' :: ' ' :: (spaced ws ++ (arrowText t ++ ['\x7b'])))))

def functionQualifiers : List String :=
  access ++ ["static", "class", "final", "override", "mutating", "nonisolated"]

theorem isWordText_of_mem_functionQualifiers : ∀ q ∈ functionQualifiers, IsWordText q.toList := by
  decide

section

variable {qs ws : List String} {p : List Char}

theorem prefers_function (hqs : ∀ q ∈ qs, q ∈ functionQualifiers) (name : Identifier)
    (hp : IsShallow p) (hws : ∀ w ∈ ws, w ∈ effectNames) (t : Option ReturnText)
    (hb : b.any isWord = false) :
    ∃ b' o₁ o₂ o₃ x₀ x₁ x₂ x₃, function.Prefers ⟨b, o, functionHead qs name p ws t ++ r, []⟩
      ⟨b', o + (functionHead qs name p ws t).length, r, returnsCapture o₃ r t ++
        [(.effects, ⟨o₂, spaced ws ++ x₃, (spaced ws).length⟩),
          (.parameters, ⟨o₁, p ++ x₂, p.length⟩),
          (.name, ⟨o + (spaced qs).length + "func".toList.length + 1, name.text ++ x₁,
            name.text.length⟩),
          (.qualifiers, ⟨o, spaced qs ++ x₀, (spaced qs).length⟩)]⟩ := by
  let behind := '(' :: (p ++ ')' :: ' ' :: (spaced ws ++ (arrowText t ++ '\x7b' :: r)))
  have hkw : ∀ v ∈ functionQualifiers,
      v.toList.isPrefixOf ("func".toList ++ ' ' :: (name.text ++ behind)) = false := by
    simp [functionQualifiers, access, List.isPrefixOf]
  have hblank : ∀ c ∈ (arrowText t ++ '\x7b' :: r).head?, isBlank c = false := by
    cases t <;> (simp [arrowText]; decide)
  have hnone : ∀ v ∈ effectNames, v.toList.isPrefixOf (arrowText t ++ '\x7b' :: r) = false := by
    cases t <;> simp [arrowText, effectNames, List.isPrefixOf]
  have htext : functionHead qs name p ws t ++ r =
      spaced qs ++ ("func".toList ++ ' ' :: (name.text ++ behind)) := by
    simp [functionHead, behind]
  obtain ⟨b₀, hb₀, hqualifiers⟩ :=
    prefers_qualifiers (o := o) (k := []) hqs (by decide) (by decide) hkw (by decide) hb
  obtain ⟨b₃, heffects⟩ := prefers_effects hws hnone hblank (b := some ' ') (by decide)
  have hhead := not_isBlank_head?_spaced (fun w hw => isWordText_of_mem_effectNames w (hws w hw)) hblank
  have hlen : o + (functionHead qs name p ws t).length =
      o + (spaced qs).length + "func".toList.length + 1 + name.text.length + 1 + p.length + 1 + 1 +
        (spaced ws).length + (arrowText t).length + 1 := by
    simp only [functionHead, List.length_append, List.length_cons, List.length_nil]
    omega
  rw [htext, hlen]
  exact ⟨_, _, _, _, _, _, _, _, hqualifiers.cons <| (prefers_wordEdge (by decide) hb₀).cons <|
    (prefers_lit "func").cons <| (prefers_someSpace (name.not_isBlank_head? _)).cons <|
    ((prefers_name name (by simp [behind]; decide)).capture rfl .name).cons <|
    (prefers_noBlanks (by simp [behind]; decide)).cons <|
    (prefers_skip (by simp [behind, generics, ways, Pattern.char, ways_all_cons])).cons <|
    (prefers_noBlanks (by simp [behind]; decide)).cons <| (prefers_char '(').cons <|
    ((prefers_parameters hp).capture rfl .parameters).cons <| (prefers_char ')').cons <|
    (prefers_space hhead).cons <| (heffects.capture rfl .effects).cons (prefers_returns t)⟩

end

theorem prefers_typeName (u : TypeWord) : typeName.Prefers ⟨b, o, u.text ++ '\n' :: r, k⟩
    ⟨u.text.getLast?.or b, o + u.text.length, '\n' :: r, k⟩ := by
  have hsmall : ∀ w ∈ ["some", "any"], w.toList.isPrefixOf (u.text ++ '\n' :: r) = false := by
    have hfirst := u.not_small u.first rfl
    rintro w hw
    refine Bool.eq_false_iff.2 fun hprefix => ?_
    obtain ⟨x, hx⟩ := List.isPrefixOf_iff_prefix.1 hprefix
    simp only [List.mem_cons, List.not_mem_nil, or_false] at hw
    rcases hw with rfl | rfl
    · obtain ⟨hc, -⟩ := List.cons.inj hx
      exact absurd (hc ▸ hfirst) (by decide)
    · obtain ⟨hc, -⟩ := List.cons.inj hx
      exact absurd (hc ▸ hfirst) (by decide)
  have hskip : (Pattern.seq (any (["some", "any"].map lit)) someBlanks).ways
      ⟨b, o, u.text ++ '\n' :: r, k⟩ = [] := by
    rw [ways, ways_any_lit hsmall]
    rfl
  have hrest : ∀ c ∈ u.rest, (isWord c || c == '.') = true := fun c hc => by simp [u.word c hc]
  refine (prefers_skip hskip).cons <| Prefers.cons (Prefers.any_head ?_) (prefers_skip (by simp [ways]))
  rw [TypeWord.text, last_cons, add_length_cons]
  exact (prefers_one u.isNameStart_first).cons <| (prefers_run hrest (by simp; decide)).cons
    (prefers_skip (by simp [generics, ways, Pattern.char, ways_all_cons]))

def propertyHead (qs : List String) (name : Identifier) (u : TypeWord) : List Char :=
  spaced qs ++ ("var".toList ++ ' ' :: (name.text ++ ':' :: ' ' :: u.text))

def propertyQualifiers : List String :=
  access ++ ["static", "class", "final", "override", "lazy", "weak", "unowned", "nonisolated"]

theorem isWordText_of_mem_propertyQualifiers : ∀ q ∈ propertyQualifiers, IsWordText q.toList := by
  decide

theorem prefers_property {qs : List String} (hqs : ∀ q ∈ qs, q ∈ propertyQualifiers) (name : Identifier)
    (u : TypeWord) (hb : b.any isWord = false) :
    ∃ b' o₂ x₀ x₁ x₂ y, property.Prefers ⟨b, o, propertyHead qs name u ++ '\n' :: r, []⟩
      ⟨b', o + (propertyHead qs name u).length, '\n' :: r,
        [(.type, ⟨o₂, u.text ++ x₂, u.text.length⟩),
          (.name, ⟨o + (spaced qs).length + "var".toList.length + 1, name.text ++ x₁,
            name.text.length⟩),
          (.keyword, y),
          (.qualifiers, ⟨o, spaced qs ++ x₀, (spaced qs).length⟩)]⟩ := by
  let behind := ':' :: ' ' :: (u.text ++ '\n' :: r)
  have hkw : ∀ v ∈ propertyQualifiers,
      v.toList.isPrefixOf ("var".toList ++ ' ' :: (name.text ++ behind)) = false := by
    simp [propertyQualifiers, access, List.isPrefixOf]
  have htext : propertyHead qs name u ++ '\n' :: r =
      spaced qs ++ ("var".toList ++ ' ' :: (name.text ++ behind)) := by
    simp [propertyHead, behind]
  obtain ⟨b₀, hb₀, hqualifiers⟩ :=
    prefers_qualifiers (o := o) (k := []) hqs (by decide) (by decide) hkw (by decide) hb
  have hkeyword {b : Option Char} {o : Nat} {r : List Char} {k : List (Slot × Stretch)} :
      (Pattern.capture Slot.keyword (any [lit "var", lit "let"])).Prefers ⟨b, o, "var".toList ++ r, k⟩
        ⟨"var".toList.getLast?.or b, o + "var".toList.length, r,
          (.keyword, ⟨o, "var".toList ++ r, "var".toList.length⟩) :: k⟩ :=
    (Prefers.any_head (prefers_lit "var")).capture rfl Slot.keyword
  have htype {b : Option Char} {o : Nat} {k : List (Slot × Stretch)} :
      (all [.capture .type typeName]).Prefers ⟨b, o, u.text ++ '\n' :: r, k⟩
        ⟨u.text.getLast?.or b, o + u.text.length, '\n' :: r,
          (.type, ⟨o, u.text ++ '\n' :: r, u.text.length⟩) :: k⟩ :=
    (prefers_typeName u).capture rfl .type
  have hlen : o + (propertyHead qs name u).length =
      o + (spaced qs).length + "var".toList.length + 1 + name.text.length + 1 + 1 + u.text.length := by
    simp only [propertyHead, List.length_append, List.length_cons]
    omega
  rw [htext, hlen]
  exact ⟨_, _, _, _, _, _, hqualifiers.cons <| (prefers_wordEdge (by decide) hb₀).cons <|
    hkeyword.cons <| (prefers_someSpace (name.not_isBlank_head? _)).cons <|
    ((prefers_name name (by simp [behind]; decide)).capture rfl .name).cons <|
    (prefers_noBlanks (by simp [behind]; decide)).cons <| (prefers_char ':').cons <|
    (prefers_space (u.not_isBlank_head? _)).cons htype⟩

end Grammar

open Grammar

theorem strippedText?_eq (cs : List Char) :
    strippedText? cs = if allBlank cs then none else some (String.ofList (strip cs)) := by
  cases hblank : allBlank cs with
  | true => simp [strippedText?, strip_eq_nil_iff.2 hblank]
  | false =>
    have hne : strip cs ≠ [] := fun h => by simp [strip_eq_nil_iff.1 h] at hblank
    simp [strippedText?, hne]

section

variable {m : Found Slot} {name : Identifier} {qs ws : List String} {p x₀ x₁ x₂ x₃ r : List Char}
  {t : Option ReturnText} {b : Option Char} {o o₀ o₁ o₂ o₃ o₄ : Nat}

theorem qualifierWords_spaced (h : ∀ q ∈ qs, IsWordText q.toList) :
    qualifierWords (spaced qs) = qs := by
  have hplain : ∀ q ∈ qs, String.ofList (q.toList.takeWhile (· != '(')) = q := by
    intro q hq
    rw [List.takeWhile_eq_self_iff.2, String.ofList_toList]
    intro c hc
    have hne : c ≠ '(' := fun heq => absurd ((h q hq).2 c hc) (by rw [heq]; decide)
    simp [hne]
  rw [qualifierWords, words_spaced h, List.map_map]
  exact (List.map_congr_left hplain).trans (List.map_id qs)

theorem find?_returnsCapture {i : Slot} (hi : i ≠ .returns) (c : List (Slot × Stretch)) :
    (returnsCapture o₃ r t ++ c).find? (·.1 = i) = c.find? (·.1 = i) := by
  cases t <;> simp [returnsCapture, hi.symm]

theorem strippedText?_returns {c : List (Slot × Stretch)} (hm : m.captures = returnsCapture o₃ r t ++ c)
    (hc : c.find? (·.1 = Slot.returns) = none) :
    strippedText? (m.text .returns) = t.map fun t => String.ofList t.text := by
  cases t with
  | none =>
    have hnone : m.text .returns = [] := by
      rw [Found.text, Found.text?, Found.stretch?, hm]
      simp only [returnsCapture, List.nil_append]
      rw [hc]
      rfl
    rw [hnone]
    rfl
  | some t =>
    rw [Found.text_eq (l := t.text) (by rw [hm]; rfl), strippedText?, t.stripped]
    simp [t.ne_nil]

theorem functionOf_eq (hqs : ∀ q ∈ qs, IsWordText q.toList) (hws : ∀ w ∈ ws, IsWordText w.toList)
    (hm : m.captures = returnsCapture o₃ r t ++
      [(.effects, ⟨o₂, spaced ws ++ x₃,
          (spaced ws).length⟩),
        (.parameters, ⟨o₁, p ++ x₂, p.length⟩),
        (.name, ⟨o₄, name.text ++ x₁, name.text.length⟩),
        (.qualifiers, ⟨o₀, spaced qs ++ x₀,
          (spaced qs).length⟩)]) :
    functionOf m =
      { kind := .function, name := String.ofList name.text, start := o₄, qualifiers := qs,
        effects := ws, declaredType := t.map fun t => String.ofList t.text,
        parameters := strippedText? p } := by
  have hname : m.captures.find? (·.1 = Slot.name) =
      some (.name, ⟨o₄, name.text ++ x₁, name.text.length⟩) := by
    rw [hm, find?_returnsCapture (by decide)]
    rfl
  have hqualifiers : m.text .qualifiers = spaced qs :=
    Found.text_eq (by rw [hm, find?_returnsCapture (by decide)]; rfl)
  have heffects : m.text .effects = spaced ws :=
    Found.text_eq (by rw [hm, find?_returnsCapture (by decide)]; rfl)
  have hwords : (words (m.text .effects)).map String.ofList = ws := by
    rw [heffects, words_spaced hws, List.map_map]
    simp [Function.comp_def]
  have hparameters : m.text .parameters = p :=
    Found.text_eq (by rw [hm, find?_returnsCapture (by decide)]; rfl)
  simp only [functionOf, hqualifiers, hwords, hparameters, strippedText?_returns hm rfl,
    Found.string_eq hname, Found.startOf_eq hname, qualifierWords_spaced hqs]

theorem scans_functionHead (hqs : ∀ q ∈ qs, q ∈ functionQualifiers) (name : Identifier)
    (hp : IsShallow p) (hws : ∀ w ∈ ws, w ∈ effectNames) (t : Option ReturnText)
    (hb : b.any isWord = false) :
    Grammar.function.Scans functionOf b o (functionHead qs name p ws t) r
      [{ kind := .function, name := String.ofList name.text,
         start := o + (spaced qs).length + "func".toList.length + 1,
         qualifiers := qs, effects := ws, declaredType := t.map fun t => String.ofList t.text,
         parameters := strippedText? p }] := by
  obtain ⟨b', o₁, o₂, o₃, x₀, x₁, x₂, x₃, hprefers⟩ :=
    prefers_function (o := o) (r := r) hqs name hp hws t hb
  have hscan := hprefers.scans (f := functionOf) (by simp [functionHead]) rfl
  rwa [functionOf_eq (fun q hq => isWordText_of_mem_functionQualifiers q (hqs q hq))
    (fun w hw => isWordText_of_mem_effectNames w (hws w hw)) rfl] at hscan

theorem propertyOf_eq {u : TypeWord} {y : Stretch} (hqs : ∀ q ∈ qs, IsWordText q.toList)
    (hm : m.captures = [(.type, ⟨o₂, u.text ++ x₂, u.text.length⟩),
        (.name, ⟨o₄, name.text ++ x₁, name.text.length⟩), (.keyword, y),
        (.qualifiers, ⟨o₀, spaced qs ++ x₀,
          (spaced qs).length⟩)]) :
    propertyOf m =
      { kind := .property, name := String.ofList name.text, start := o₄, qualifiers := qs,
        declaredType := some (String.ofList u.text) } := by
  have htype : strip u.text = u.text :=
    strip_eq_self (fun c hc => isBlank_eq_false_of_isWord (u.isWordText.2 c (List.mem_of_head? hc)))
      fun c hc => isBlank_eq_false_of_isWord (u.isWordText.2 c (List.mem_of_getLast? hc))
  have hname : m.captures.find? (·.1 = Slot.name) =
      some (.name, ⟨o₄, name.text ++ x₁, name.text.length⟩) := by
    rw [hm]
    rfl
  have hqualifiers : m.text .qualifiers = spaced qs :=
    Found.text_eq (by rw [hm]; rfl)
  have hutext : m.text .type = u.text := Found.text_eq (by rw [hm]; rfl)
  simp only [propertyOf, hqualifiers, hutext, htype, Found.string_eq hname, Found.startOf_eq hname,
    qualifierWords_spaced hqs]

theorem scans_propertyHead (hqs : ∀ q ∈ qs, q ∈ propertyQualifiers) (name : Identifier)
    (u : TypeWord) (hb : b.any isWord = false) :
    Grammar.property.Scans propertyOf b o (propertyHead qs name u) ('\n' :: r)
      [{ kind := .property, name := String.ofList name.text,
         start := o + (spaced qs).length + "var".toList.length + 1,
         qualifiers := qs, declaredType := some (String.ofList u.text) }] := by
  obtain ⟨b', o₂, x₀, x₁, x₂, y, hprefers⟩ := prefers_property (o := o) (r := r) hqs name u hb
  have hscan := hprefers.scans (f := propertyOf) (by simp [propertyHead]) rfl
  rwa [propertyOf_eq (fun q hq => isWordText_of_mem_propertyQualifiers q (hqs q hq)) rfl] at hscan

end

end TestScaffold.Swift
