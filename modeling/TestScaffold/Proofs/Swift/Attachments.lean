import TestScaffold.Proofs.Pattern.Captures
import TestScaffold.Proofs.Swift.PrintedElements
import TestScaffold.Swift.Elements

/-!
The identifier that is read first in rows of elements that are cut off somewhere: the first that is
attached, if its closing quote comes before the cut.
-/

namespace TestScaffold.Swift

open Text Pattern

variable {p r x : List Char} {c : Char}

def Attaches (cs : List Char) : Prop :=
  ∃ p l r, cs = p ++ '"' :: (l ++ '"' :: r) ∧ IsMarker p ∧ l ≠ [] ∧ '"' ∉ l ∧ '\n' ∉ l

namespace IsMarker

theorem head (h : IsMarker p) : ∃ q, p = '.' :: q := by
  rcases h with ⟨u, v, rfl, -⟩ | ⟨u, v, w, rfl, -⟩ <;> exact ⟨_, rfl⟩

theorem quote_not_mem (h : IsMarker p) : '"' ∉ p := by
  rcases h with ⟨u, v, rfl, hu, hv⟩ | ⟨u, v, w, rfl, hu, hv, hw⟩
  · simp [quote_not_mem_blank hu, quote_not_mem_blank hv]
  · simp [quote_not_mem_blank hu, quote_not_mem_blank hv, quote_not_mem_blank hw]

theorem slash_not_mem (h : IsMarker p) : '\\' ∉ p := by
  have plain {u : List Char} (hu : ∀ c ∈ u, isBlank c = true) : '\\' ∉ u := fun hmem =>
    absurd (hu _ hmem) (by decide)
  rcases h with ⟨u, v, rfl, hu, hv⟩ | ⟨u, v, w, rfl, hu, hv, hw⟩
  · simp [plain hu, plain hv]
  · simp [plain hu, plain hv, plain hw]

end IsMarker

theorem AttachmentForm.isMarker_opening (f : AttachmentForm) : IsMarker f.opening.toList := by
  cases f with
  | method => exact .inl ⟨[], [], by decide⟩
  | argument => exact .inr ⟨[], [], [' '], by decide⟩

namespace Attaches

theorem head {v : List Char} (h : Attaches (c :: v)) : c = '.' := by
  obtain ⟨p, l, r, heq, hp, -⟩ := h
  obtain ⟨q, rfl⟩ := hp.head
  exact (List.cons.inj heq).1

theorem leads {cs : List Char} (h : Attaches cs) : Leads cs := by
  obtain ⟨p, l, r, heq, hp, -, -, hl⟩ := h
  obtain ⟨q, hq⟩ := hp.head
  refine ⟨p, l, r, heq, by simp [hq], hp.quote_not_mem, fun hlast => ?_, hl, p,
    List.suffix_refl p, .inr hp⟩
  exact hp.slash_not_mem (List.mem_of_getLast? hlast)

theorem grow {cs ds : List Char} (h : Attaches cs) (hstart : cs <+: ds) : Attaches ds := by
  obtain ⟨p, l, r, rfl, hp, hl⟩ := h
  obtain ⟨t, rfl⟩ := hstart
  exact ⟨p, l, r ++ t, by simp, hp, hl⟩

end Attaches

namespace Grammar

variable {s t : Cursor Slot} {b : Option Char} {o : Nat}

theorem mem_accessibilityIdentifier (h : t ∈ accessibilityIdentifier.ways s) :
    ∃ p l n, s.Reads (p ++ '"' :: (l ++ ['"'])) t ∧ IsMarker p ∧ l ≠ [] ∧
      (∀ c ∈ l, c ≠ '"' ∧ c ≠ '\n') ∧
      t.captures.find? (·.1 = .identifier) = some (.identifier, ⟨n, l ++ '"' :: t.ahead, l.length⟩) := by
  obtain ⟨m₁, h₁, h⟩ := mem_all_cons.1 h
  obtain ⟨m₂, h₂, h⟩ := mem_all_cons.1 h
  obtain ⟨m₃, h₃, h⟩ := mem_all_cons.1 h
  obtain ⟨m₄', h₄', h⟩ := mem_all_cons.1 h
  obtain ⟨m₄, h₄, rfl⟩ := mem_capture.1 h₄'
  have hover : (plus (except ['"', '\n']) : Grammar).Over fun c => c ≠ '"' ∧ c ≠ '\n' := by
    simp [plus, Pattern.star, Over, except]
  obtain ⟨l, hl, hplain⟩ := hover.reads h₄
  have hne : l ≠ [] := by
    obtain ⟨m, hm, hstar⟩ := mem_seq.1 h₄
    obtain ⟨c, -, hc⟩ := reads_one hm
    obtain ⟨u, hu⟩ := reads_of_mem hstar
    rintro rfl
    have ho := (hc.trans hu).offset
    have ho' := hl.offset
    simp only [List.length_append, List.length_cons, List.length_nil] at ho ho'
    omega
  have hmarker : ∃ p, s.Reads p m₂ ∧ IsMarker p := by
    have hopening := reads_lit h₁
    rcases mem_alt.1 h₂ with h₂ | h₂
    · obtain ⟨n₁, hn₁, h₂⟩ := mem_all_cons.1 h₂
      obtain ⟨n₂, hn₂, h₂⟩ := mem_all_cons.1 h₂
      obtain ⟨n₃, hn₃, h₂⟩ := mem_all_cons.1 h₂
      obtain ⟨u, hu, hub⟩ := mem_blanks hn₂
      obtain ⟨v, hv, hvb⟩ := mem_blanks h₂
      have hread := hopening.trans <| (reads_lit hn₁).trans <| hu.trans <|
        (reads_char hn₃).trans hv
      exact ⟨_, hread, .inl ⟨u, v, rfl, hub, hvb⟩⟩
    · obtain ⟨n₁, hn₁, h₂⟩ := mem_all_cons.1 h₂
      obtain ⟨n₂, hn₂, h₂⟩ := mem_all_cons.1 h₂
      obtain ⟨n₃, hn₃, h₂⟩ := mem_all_cons.1 h₂
      obtain ⟨n₄, hn₄, h₂⟩ := mem_all_cons.1 h₂
      obtain ⟨u, hu, hub⟩ := mem_blanks hn₁
      obtain ⟨v, hv, hvb⟩ := mem_blanks hn₃
      obtain ⟨w, hw, hwb⟩ := mem_blanks h₂
      have hread := hopening.trans <| hu.trans <| (reads_char hn₂).trans <| hv.trans <|
        (reads_lit hn₄).trans hw
      exact ⟨_, hread, .inr ⟨u, v, w, rfl, hub, hvb, hwb⟩⟩
  obtain ⟨p, hp, hmarker⟩ := hmarker
  have hclose := reads_char h
  have hkept : (Pattern.char '"' : Grammar).Captures .identifier fun _ => False := trivial
  refine ⟨p, l, m₃.offset, ?_, hmarker, hne, hplain, ?_⟩
  · exact hp.trans ((reads_char h₃).trans (hl.capture.trans hclose))
  · have hcapture : (m₄.capture .identifier m₃).captures.find? (·.1 = .identifier) =
        some (.identifier, m₃.upTo m₄) := rfl
    rw [hkept.find?_eq h, hcapture, Cursor.upTo, hl.ahead, hl.offset, Nat.add_sub_cancel_left,
      show m₄.ahead = _ from hclose.ahead]
    rfl

theorem attaches_of_mem (h : t ∈ accessibilityIdentifier.ways s) : Attaches s.ahead := by
  obtain ⟨p, l, n, hread, hmarker, hne, hplain, -⟩ := mem_accessibilityIdentifier h
  refine ⟨p, l, t.ahead, ?_, hmarker, hne, fun hmem => (hplain _ hmem).1 rfl,
    fun hmem => (hplain _ hmem).2 rfl⟩
  rw [hread.ahead]
  simp

theorem prefers_method {u v : List Char} (hu : ∀ c ∈ u, isBlank c = true)
    (hv : ∀ c ∈ v, isBlank c = true) :
    ∃ b', (all [lit "Identifier", blanks, Pattern.char '(', blanks]).Prefers
      ⟨b, o, "Identifier".toList ++ (u ++ '(' :: (v ++ '"' :: r)), []⟩
      ⟨b', o + "Identifier".toList.length + u.length + 1 + v.length, '"' :: r, []⟩ :=
  ⟨_, (prefers_lit "Identifier").cons <| (prefers_blanks hu (by simp; decide)).cons <|
    (prefers_char '(').cons (prefers_blanks hv (by simp; decide))⟩

theorem prefers_argumentName {u v w : List Char} (hu : ∀ c ∈ u, isBlank c = true)
    (hv : ∀ c ∈ v, isBlank c = true) (hw : ∀ c ∈ w, isBlank c = true) :
    ∃ b', (all [blanks, Pattern.char '(', blanks, lit "identifier:", blanks]).Prefers
      ⟨b, o, u ++ '(' :: (v ++ ("identifier:".toList ++ (w ++ '"' :: r))), []⟩
      ⟨b', o + u.length + 1 + v.length + "identifier:".toList.length + w.length, '"' :: r, []⟩ :=
  ⟨_, (prefers_blanks hu (by simp; decide)).cons <| (prefers_char '(').cons <|
    (prefers_blanks hv (by simp; decide)).cons <| (prefers_lit "identifier:").cons
      (prefers_blanks hw (by simp; decide))⟩

theorem prefers_identifier (hne : x ≠ []) (hx : ∀ c ∈ x, c ≠ '"' ∧ c ≠ '\n') :
    (all [Pattern.char '"', .capture Slot.identifier (plus (except ['"', '\n'])),
      Pattern.char '"']).Prefers ⟨b, o, '"' :: (x ++ '"' :: r), []⟩
      ⟨some '"', o + 1 + x.length + 1, r, [(Slot.identifier, ⟨o + 1, x ++ '"' :: r, x.length⟩)]⟩ := by
  have hbody : (plus (except ['"', '\n']) : Grammar).Prefers ⟨some '"', o + 1, x ++ '"' :: r, []⟩
      ⟨x.getLast?.or (some '"'), o + 1 + x.length, '"' :: r, []⟩ := by
    obtain ⟨c, v, rfl⟩ := List.exists_cons_of_ne_nil hne
    rw [last_cons, add_length_cons]
    exact prefers_plus (by simpa using hx c List.mem_cons_self)
      (fun d hd => by simpa using hx d (List.mem_cons_of_mem _ hd)) (by simp)
  exact (prefers_char '"').cons <| (hbody.capture rfl .identifier).cons (prefers_char '"')

theorem prefers_accessibilityIdentifier (hp : IsMarker p) (hne : x ≠ [])
    (hx : ∀ c ∈ x, c ≠ '"' ∧ c ≠ '\n') : ∃ t n, accessibilityIdentifier.Prefers
      ⟨b, o, p ++ '"' :: (x ++ '"' :: r), []⟩ t ∧ t.offset = o + (p.length + x.length + 2) ∧
        t.captures = [(.identifier, ⟨n, x ++ '"' :: r, x.length⟩)] := by
  rcases hp with ⟨u, v, rfl, hu, hv⟩ | ⟨u, v, w, rfl, hu, hv, hw⟩
  · have htext : ".accessibilityIdentifier".toList ++ (u ++ '(' :: v) ++ '"' :: (x ++ '"' :: r) =
        ".accessibility".toList ++
          ("Identifier".toList ++ (u ++ '(' :: (v ++ '"' :: (x ++ '"' :: r)))) := by
      rw [show ".accessibilityIdentifier".toList = ".accessibility".toList ++ "Identifier".toList
        from by decide]
      simp only [List.append_assoc, List.cons_append]
    obtain ⟨b', hmethod⟩ := prefers_method hu hv
    rw [htext]
    refine ⟨_, _, (prefers_lit ".accessibility").cons <|
      (Prefers.left hmethod _).cons (prefers_identifier hne hx), ?_, rfl⟩
    simp
    omega
  · have htext : ".accessibility".toList ++ (u ++ '(' :: (v ++ ("identifier:".toList ++ w))) ++
        '"' :: (x ++ '"' :: r) = ".accessibility".toList ++
          (u ++ '(' :: (v ++ ("identifier:".toList ++ (w ++ '"' :: (x ++ '"' :: r))))) := by
      simp only [List.append_assoc, List.cons_append]
    obtain ⟨b', hargument⟩ := prefers_argumentName hu hv hw
    rw [htext]
    refine ⟨_, _, (prefers_lit ".accessibility").cons <|
      (Prefers.right ?_ hargument).cons (prefers_identifier hne hx), ?_, rfl⟩
    · refine List.eq_nil_iff_forall_not_mem.2 fun t ht => ?_
      obtain ⟨n, hn⟩ := mem_all_head ht
      have hhead := (reads_lit hn).ahead
      cases u with
      | nil => exact absurd (List.cons.inj hhead).1 (by decide)
      | cons c u =>
        obtain rfl : c = 'I' := (List.cons.inj hhead).1
        exact absurd (hu 'I' List.mem_cons_self) (by decide)
    · simp
      omega

end Grammar

namespace Attachment

variable (a : Attachment)

def spelled : List Char := a.id.takeWhile (· != '"')

def identifier? : Option String := if a.spelled = [] then none else some (String.ofList a.spelled)

def reach : Nat := a.form.opening.toList.length + a.spelled.length + 2

theorem text_spelled : ∃ z, a.text = a.form.opening.toList ++ '"' :: (a.spelled ++ '"' :: z) := by
  have hid : a.id = a.spelled ++ a.id.dropWhile (· != '"') := List.takeWhile_append_dropWhile.symm
  rcases hdrop : a.id.dropWhile (· != '"') with _ | ⟨c, z⟩
  · refine ⟨[')'], ?_⟩
    rw [hdrop, List.append_nil] at hid
    rw [text, ← hid]
  · have hquote : c = '"' := by
      have hnot := List.head?_dropWhile_not (· != '"') a.id
      rw [hdrop] at hnot
      simpa using hnot
    refine ⟨z ++ ['"', ')'], ?_⟩
    rw [text, hid, hdrop, hquote]
    simp

theorem spelled_plain : ∀ c ∈ a.spelled, c ≠ '"' ∧ c ≠ '\n' := by
  intro c hc
  refine ⟨by simpa using List.all_eq_true.1 List.all_takeWhile c hc, ?_⟩
  rintro rfl
  exact a.literal.inline '\n' ((List.takeWhile_prefix _).subset hc) rfl

theorem attaches_eq {l z : List Char} (h : a.text ++ r = p ++ '"' :: (l ++ '"' :: z))
    (hp : IsMarker p) (hl : '"' ∉ l) : p = a.form.opening.toList ∧ l = a.spelled := by
  obtain ⟨y, hy⟩ := a.text_spelled
  rw [hy, List.append_assoc, List.cons_append, List.append_assoc, List.cons_append] at h
  obtain ⟨hopening, hrest⟩ := quote_unique a.form.quote_not_mem_opening hp.quote_not_mem h
  have hspelled : '"' ∉ a.spelled := fun hmem => (a.spelled_plain _ hmem).1 rfl
  exact ⟨hopening.symm, (quote_unique hspelled hl hrest).1.symm⟩

theorem length_text : a.reach ≤ a.text.length := by
  obtain ⟨z, hz⟩ := a.text_spelled
  rw [hz]
  simp [reach]
  omega

theorem never_attaches_tail (hr : Apart r) : Never Attaches a.text.tail r := by
  have hopening : Never Attaches a.form.opening.toList.tail ('"' :: (a.id ++ ['"', ')']) ++ r) := by
    refine .of_chars fun c hc v h => ?_
    obtain rfl := h.head
    cases hf : a.form <;> rw [hf] at hc <;> exact absurd hc (by decide)
  have plain {x z : List Char} (hx : '.' ∉ x) : Never Attaches x z :=
    .of_chars fun c hc v h => hx (h.head ▸ hc)
  have hid : Never Attaches a.id ('"' :: (')' :: r)) := (a.never_leads hr).mono fun _ h => h.leads
  have htail : a.text.tail = a.form.opening.toList.tail ++ '"' :: (a.id ++ ['"', ')']) := by
    cases hf : a.form <;> simp [text, hf, AttachmentForm.opening]
  rw [htail]
  refine hopening.append (Never.append (x := ['"']) (plain (by decide)) ?_)
  exact hid.append (plain (by decide))

theorem never_attaches_cut {m : Nat} (hr : Apart r) (hm : m < a.reach) :
    Never Attaches ((a.text ++ r).take m) [] := by
  intro x c v hx hattaches
  rw [List.append_nil] at hattaches
  have hlength : (x ++ c :: v).length ≤ m := hx ▸ List.length_take_le m _
  have hcut : x ++ c :: v <+: a.text := by
    refine List.prefix_of_prefix_length_le (hx ▸ List.take_prefix m _)
      (List.prefix_append a.text r) ?_
    have := a.length_text
    omega
  obtain ⟨y, hy⟩ := hcut
  cases x with
  | nil =>
    -- What is read from the start reaches to the closing quote, and that has been cut off.
    obtain ⟨p, l, z, hcv, hp, -, hl, -⟩ := hattaches
    have htext : a.text ++ r = p ++ '"' :: (l ++ '"' :: (z ++ (y ++ r))) := by
      rw [← hy, List.nil_append, hcv]
      simp
    obtain ⟨rfl, rfl⟩ := a.attaches_eq htext hp hl
    rw [List.nil_append, hcv] at hlength
    simp only [List.length_append, List.length_cons] at hlength
    have hreach : a.reach = a.form.opening.toList.length + a.spelled.length + 2 := rfl
    omega
  | cons d x =>
    have htail : a.text.tail = x ++ c :: (v ++ y) := by
      rw [← hy]
      simp
    refine a.never_attaches_tail hr x c _ htail (hattaches.grow ?_)
    exact ⟨y ++ r, by simp⟩

theorem never_attaches (h : a.spelled = []) (hr : Apart r) : Never Attaches a.text r := by
  intro x c v hx hattaches
  cases x with
  | nil =>
    obtain ⟨p, l, z, hcv, hp, hne, hl, -⟩ := hattaches
    rw [← List.nil_append (c :: v), ← hx] at hcv
    obtain ⟨-, rfl⟩ := a.attaches_eq hcv hp hl
    exact hne h
  | cons d x =>
    have htail : a.text.tail = x ++ c :: v := by rw [hx]; rfl
    exact a.never_attaches_tail hr x c v htail hattaches

end Attachment

namespace Row

variable {w : Row} {rest : List Char}

theorem never_attaches_left (w : Row) : Never Attaches w.element.control.left r := by
  refine .of_chars fun c hc v h => ?_
  obtain rfl := h.head
  have href (d : Reference) : '.' ∉ d.text := fun hmem => absurd (d.word _ hmem) (by decide)
  cases hk : w.element.control <;> simp [hk, Control.left, Reference.behind, href] at hc

theorem never_attaches_call (hlabels : ∀ a ∈ w.attachment, ¬ Misread w.element.label)
    (hrest : Apart rest) : Never Attaches (w.gap ++ w.element.call) (w.attached ++ rest) := by
  have plain {x z : List Char} (hx : '.' ∉ x) : Never Attaches x z :=
    .of_chars fun c hc v h => hx (h.head ▸ hc)
  have hgap : '.' ∉ w.gap := fun hmem => absurd (w.blank _ hmem) (by decide)
  have hname : '.' ∉ w.element.control.name.toList := fun hmem =>
    absurd ((isWordText_name _).2 _ hmem) (by decide)
  have htail : '.' ∉ w.element.control.tail := by
    have href (d : Reference) : '.' ∉ d.text := fun hmem => absurd (d.word _ hmem) (by decide)
    cases w.element.control <;>
      simp [Control.tail, Control.joint, Control.reference, Control.ending, href]
  have hlabel : Never Attaches w.element.label
      ('"' :: (w.element.control.tail ++ (w.attached ++ rest))) :=
    (Row.never_leads_label hlabels hrest).mono fun _ h => h.leads
  have hquoted : Never Attaches (w.element.label ++ '"' :: w.element.control.tail)
      (w.attached ++ rest) :=
    Never.append (by simpa using hlabel) (Never.append (x := ['"']) (plain (by decide)) (plain htail))
  exact (plain hgap).append <| (plain hname).append <|
    Never.append (x := ['(', '"']) (plain (by decide)) hquoted

end Row

def identifierFrom (b : Option Char) (o : Nat) (cs : List Char) : Option String :=
  (Grammar.accessibilityIdentifier.searchFrom b o cs).map (·.string .identifier)

theorem identifierFrom_nil (b : Option Char) (o : Nat) : identifierFrom b o [] = none := by
  have hnone : Grammar.accessibilityIdentifier.here? ⟨b, o, [], []⟩ = none := by
    refine here?_eq_none (List.eq_nil_iff_forall_not_mem.2 fun t ht => ?_)
    obtain ⟨p, l, r, heq, -⟩ := Grammar.attaches_of_mem ht
    simp at heq
  rw [identifierFrom, searchFrom, hnone]
  rfl

theorem identifierFrom_never (h : Never Attaches x r) (m : Nat) (b : Option Char) (o : Nat) :
    ∃ b' o', identifierFrom b o ((x ++ r).take m) = identifierFrom b' o' (r.take (m - x.length)) := by
  have hsilent : Grammar.accessibilityIdentifier.Silent b (x.take m) (r.take (m - x.length)) := by
    intro a c v hx o
    refine List.eq_nil_iff_forall_not_mem.2 fun t ht => ?_
    have hfull : x = a ++ c :: (v ++ x.drop m) :=
      calc x = x.take m ++ x.drop m := (List.take_append_drop m x).symm
        _ = a ++ c :: (v ++ x.drop m) := by rw [hx]; simp
    -- What is read in the part that is cut off is also read in the whole text.
    refine h a c _ hfull ((Grammar.attaches_of_mem ht).grow ?_)
    have hprefix : (x ++ r).take m <+: x ++ r := List.take_prefix m _
    rw [List.take_append, hx, List.append_assoc] at hprefix
    nth_rewrite 2 [hfull] at hprefix
    rw [List.append_assoc, List.prefix_append_right_inj] at hprefix
    exact hprefix
  refine ⟨(x.take m).getLast?.or b, o + (x.take m).length, ?_⟩
  rw [List.take_append, identifierFrom, searchFrom_append hsilent]
  rfl

theorem identifierFrom_eq_none (h : Never Attaches x []) (b : Option Char) (o : Nat) :
    identifierFrom b o x = none := by
  obtain ⟨b', o', hend⟩ := identifierFrom_never h x.length b o
  rw [List.append_nil, List.take_length, List.take_nil, identifierFrom_nil] at hend
  exact hend

theorem identifierFrom_read {a : Attachment} {id : String} (hid : a.identifier? = some id)
    (hr : Apart r) (m : Nat) (b : Option Char) (o : Nat) :
    identifierFrom b o ((a.text ++ r).take m) = if a.reach ≤ m then some id else none := by
  obtain ⟨hne, rfl⟩ : a.spelled ≠ [] ∧ String.ofList a.spelled = id := by
    simpa [Attachment.identifier?] using hid
  obtain ⟨z, hz⟩ := a.text_spelled
  have hread : a.text ++ r =
      (a.form.opening.toList ++ '"' :: (a.spelled ++ ['"'])) ++ (z ++ r) := by
    rw [hz]
    simp
  have hlength : (a.form.opening.toList ++ '"' :: (a.spelled ++ ['"'])).length = a.reach := by
    simp [Attachment.reach]
    omega
  split
  · rename_i hreach
    have hcut : (a.text ++ r).take m = a.form.opening.toList ++
        '"' :: (a.spelled ++ '"' :: (z ++ r).take (m - a.reach)) := by
      rw [hread, List.take_append, hlength, List.take_of_length_le (hlength ▸ hreach)]
      simp
    obtain ⟨t, n, hprefers, -, ht⟩ := Grammar.prefers_accessibilityIdentifier (b := b) (o := o)
      (r := (z ++ r).take (m - a.reach)) a.form.isMarker_opening hne a.spelled_plain
    rw [hcut, identifierFrom, hprefers.searchFrom, Option.map_some,
      Found.string_eq (by rw [ht]; rfl)]
  · rename_i hreach
    exact identifierFrom_eq_none (a.never_attaches_cut hr (Nat.not_le.1 hreach)) b o

def Row.identifier? (w : Row) : Option String := w.attachment.bind Attachment.identifier?

def Row.reach (w : Row) : Nat :=
  w.gap.length + w.element.call.length + w.attachment.elim 0 Attachment.reach

/-- The first identifier in the rows, if the given number of characters holds all of it. -/
def nearest? : Nat → List Row → Option String
  | _, [] => none
  | room, w :: ws =>
    match w.identifier? with
    | some id => if w.reach ≤ room then some id else none
    | none => nearest? (room - w.text.length) ws

theorem nearest?_eq_none {ws : List Row} (h : ∀ w ∈ ws, w.attachment = none) (room : Nat) :
    nearest? room ws = none := by
  induction ws generalizing room with
  | nil => rfl
  | cons w ws ih =>
    have hid : w.identifier? = none := by simp [Row.identifier?, h w List.mem_cons_self]
    rw [nearest?, hid]
    exact ih (fun x hx => h x (List.mem_cons_of_mem w hx)) _

theorem identifierFrom_own {w : Row} {x rest : List Char} {next : Nat → Option String}
    (hx : Never Attaches x (w.attached ++ rest)) (hr : Apart rest)
    (hnext : ∀ m b o, identifierFrom b o (rest.take m) = next m) (m : Nat) (b : Option Char)
    (o : Nat) :
    identifierFrom b o ((x ++ (w.attached ++ rest)).take m) =
      match w.identifier? with
      | some id => if x.length + w.attachment.elim 0 Attachment.reach ≤ m then some id else none
      | none => next (m - (x.length + w.attached.length)) := by
  obtain ⟨b', o', hskip⟩ := identifierFrom_never hx m b o
  rw [hskip]
  cases ha : w.attachment with
  | none => simp [Row.identifier?, Row.attached, ha, hnext]
  | some a =>
    have hattached : w.attached = a.text := by simp [Row.attached, ha]
    cases hid : a.identifier? with
    | some id =>
      have hroom : a.reach ≤ m - x.length ↔ x.length + a.reach ≤ m := by
        have : 0 < a.reach := Nat.succ_pos _
        omega
      rw [hattached, identifierFrom_read hid hr]
      simp only [Row.identifier?, ha, Option.bind_some, hid]
      exact if_congr hroom rfl rfl
    | none =>
      -- An empty identifier is not read, and the search goes on behind it.
      have hspelled : a.spelled = [] := by simpa [Attachment.identifier?] using hid
      obtain ⟨b', o', hskip⟩ := identifierFrom_never (a.never_attaches hspelled hr) (m - x.length) b' o'
      rw [hattached, hskip, hnext]
      simp [Row.identifier?, ha, hid, Nat.sub_sub]

theorem identifierFrom_rows {ws : List Row} {post : List Char} (h : IsRows ws post) (m : Nat)
    (b : Option Char) (o : Nat) :
    identifierFrom b o ((ws.flatMap Row.text ++ post).take m) = nearest? m ws := by
  induction ws generalizing m b o with
  | nil =>
    have hpost : Never Attaches (post.take m) [] := .of_chars fun c hc v hattaches => by
      obtain rfl := hattaches.head
      exact absurd (h.post _ (List.mem_of_mem_take hc)) (by decide)
    exact identifierFrom_eq_none hpost b o
  | cons w ws ih =>
    have hcall := Row.never_attaches_call (h.labels w List.mem_cons_self) h.apart
    have hrow := identifierFrom_own hcall h.apart (ih h.rest) m b o
    have htext : (w :: ws).flatMap Row.text ++ post =
        (w.gap ++ w.element.call) ++ (w.attached ++ (ws.flatMap Row.text ++ post)) := by
      simp [Row.text]
    rw [htext, hrow, nearest?]
    simp only [Row.reach, Row.text, List.length_append, Nat.add_assoc]

theorem identifier?_window {w : Row} {ws : List Row} {post : List Char} (h : IsRows (w :: ws) post)
    {m : Nat} (hm : ∀ a ∈ w.attachment, (w.element.control.left ++ a.text).length ≤ m) :
    identifier? ((w.element.control.left ++
        (w.attached ++ (ws.flatMap Row.text ++ post))).take m) =
      w.identifier?.or (nearest? (m - (w.element.control.left ++ w.attached).length) ws) := by
  have hread := identifierFrom_own (w := w) w.never_attaches_left h.apart
    (identifierFrom_rows h.rest) m none 0
  rw [identifier?, search?]
  refine hread.trans ?_
  cases hid : w.identifier? with
  | none => simp
  | some id =>
    obtain ⟨a, ha, -⟩ := Option.bind_eq_some_iff.1 hid
    have hreach := hm a ha
    have hlength := a.length_text
    rw [List.length_append] at hreach
    have hroom : w.element.control.left.length + w.attachment.elim 0 Attachment.reach ≤ m := by
      rw [ha]
      exact Nat.le_trans (Nat.add_le_add_left hlength _) hreach
    simp [hroom]

end TestScaffold.Swift
