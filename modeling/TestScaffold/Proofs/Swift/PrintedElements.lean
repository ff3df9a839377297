import TestScaffold.Proofs.Pattern.Scanning
import TestScaffold.Proofs.Swift.Calls

/-!
Elements as they are printed, one call on a line with what is attached to it, and the scan of such
lines: a pass finds the elements of its own controls and nothing else.
-/

namespace TestScaffold.Swift

open Text Pattern

structure Reference where
  text : List Char
  ne_nil : text ≠ []
  word : ∀ c ∈ text, isWord c = true

def Reference.behind (r : Reference) (w : String) : List Char := w.toList ++ r.text

inductive Control where
  | button
  | textField (binding : Reference)
  | secureField (binding : Reference)
  | text
  | toggle (binding : Reference)
  | navigationLink (destination : Reference)

namespace Control

def name : Control → String
  | .button => "Button"
  | .textField _ => "TextField"
  | .secureField _ => "SecureField"
  | .text => "Text"
  | .toggle _ => "Toggle"
  | .navigationLink _ => "NavigationLink"

def kind : Control → FactKind
  | .button => .button
  | .textField _ => .textField
  | .secureField _ => .secureField
  | .text => .text
  | .toggle _ => .toggle
  | .navigationLink _ => .navigationLink

def joint : Control → String
  | .button => ")"
  | .textField _ => ", text: $"
  | .secureField _ => ", text: $"
  | .text => ""
  | .toggle _ => ", isOn: $"
  | .navigationLink _ => ", destination: "

def reference : Control → List Char
  | .button => []
  | .textField b => b.text
  | .secureField b => b.text
  | .text => []
  | .toggle b => b.text
  | .navigationLink d => d.text

def ending : Control → String
  | .button => " \x7b\x7d"
  | .navigationLink _ => "())"
  | _ => ")"

def tail (k : Control) : List Char := k.joint.toList ++ (k.reference ++ k.ending.toList)

def taken : Control → List Char
  | .button => []
  | .textField b => b.behind ", text: $"
  | .secureField b => b.behind ", text: $"
  | .text => [')']
  | .toggle b => b.behind ", isOn: $"
  | .navigationLink _ => []

def left : Control → List Char
  | .button => [')', ' ', '\x7b', '\x7d']
  | .textField _ => [')']
  | .secureField _ => [')']
  | .text => []
  | .toggle _ => [')']
  | .navigationLink d => d.behind ", destination: " ++ ['(', ')', ')']

theorem tail_eq (k : Control) : k.tail = k.taken ++ k.left := by
  cases k <;>
    simp only [tail, joint, reference, ending, taken, left, Reference.behind, List.append_assoc,
      List.nil_append] <;> rfl

end Control

structure Element where
  control : Control
  label : List Char
  literal : IsLiteral label
  visible : allBlank label = false

namespace Element

def inside (e : Element) : List Char := e.label ++ '"' :: (e.control.tail ++ ['\n'])

def line (e : Element) : List Char := e.control.name.toList ++ '(' :: '"' :: e.inside

def item (e : Element) : FactKind × String := (e.control.kind, String.ofList e.label)

def call (e : Element) : List Char :=
  e.control.name.toList ++ '(' :: '"' :: (e.label ++ '"' :: e.control.tail)

def taken (e : Element) : List Char :=
  e.control.name.toList ++ '(' :: '"' :: (e.label ++ '"' :: e.control.taken)

theorem call_eq (e : Element) : e.call = e.taken ++ e.control.left := by
  simp [call, taken, e.control.tail_eq]

theorem line_eq (e : Element) : e.line = e.call ++ ['\n'] := by
  simp [line, inside, call]

end Element

inductive AttachmentForm where
  | method | argument

def AttachmentForm.opening : AttachmentForm → String
  | .method => ".accessibilityIdentifier("
  | .argument => ".accessibility(identifier: "

structure Attachment where
  form : AttachmentForm
  id : List Char
  literal : IsLiteral id

def Attachment.text (a : Attachment) : List Char :=
  a.form.opening.toList ++ '"' :: (a.id ++ ['"', ')'])

/-- An element with what is attached to it, behind the blanks and line breaks before it. -/
structure Row where
  gap : List Char
  blank : ∀ c ∈ gap, isBlank c = true
  element : Element
  attachment : Option Attachment

namespace Row

def attached (w : Row) : List Char := (w.attachment.map Attachment.text).getD []

def text (w : Row) : List Char := w.gap ++ (w.element.call ++ w.attached)

def inside (w : Row) : List Char :=
  '(' :: '"' :: (w.element.label ++ '"' :: (w.element.control.tail ++ w.attached))

theorem text_eq (w : Row) : w.text = w.gap ++ (w.element.control.name.toList ++ w.inside) := by
  simp [text, inside, Element.call]

theorem text_taken (w : Row) :
    w.text = w.gap ++ (w.element.taken ++ (w.element.control.left ++ w.attached)) := by
  rw [text, w.element.call_eq, List.append_assoc]

theorem inside_taken (w : Row) : w.inside = ('(' :: '"' :: (w.element.label ++
    '"' :: w.element.control.taken)) ++ (w.element.control.left ++ w.attached) := by
  simp [inside, w.element.control.tail_eq]

def told (offset : Nat) (w : Row) : FactKind × String × Nat :=
  (w.element.control.kind, String.ofList w.element.label,
    offset + w.gap.length + w.element.taken.length)

end Row

def IsMarker (p : List Char) : Prop :=
  (∃ u v, p = ".accessibilityIdentifier".toList ++ (u ++ '(' :: v) ∧ (∀ c ∈ u, isBlank c = true) ∧
    ∀ c ∈ v, isBlank c = true) ∨
  ∃ u v w, p = ".accessibility".toList ++ (u ++ '(' :: (v ++ ("identifier:".toList ++ w))) ∧
    (∀ c ∈ u, isBlank c = true) ∧ (∀ c ∈ v, isBlank c = true) ∧ ∀ c ∈ w, isBlank c = true

/-- The label ends as another call or attachment starts, so that its closing quote may be taken for the
opening quote of a literal. -/
def Misread (label : List Char) : Prop := ∃ p, p <:+ label ∧ (IsCallStart p ∨ IsMarker p)

theorem Misread.paren_mem {label : List Char} (h : Misread label) : '(' ∈ label := by
  obtain ⟨p, hsuffix, ⟨w, u, v, rfl, -⟩ | ⟨u, v, rfl, -⟩ | ⟨u, v, w, rfl, -⟩⟩ := h <;>
    exact hsuffix.subset (by simp)

/-- Rows that stand on lines of their own, with blanks behind the last. -/
structure IsRows (rows : List Row) (post : List Char) : Prop where
  lines : ∀ w ∈ rows.tail, '\n' ∈ w.gap
  post : ∀ c ∈ post, isBlank c = true
  labels : ∀ w ∈ rows, ∀ a ∈ w.attachment, ¬ Misread w.element.label

namespace IsRows

variable {w : Row} {ws : List Row} {post : List Char}

theorem rest (h : IsRows (w :: ws) post) : IsRows ws post :=
  ⟨fun x hx => h.lines x (List.mem_of_mem_tail hx), h.post,
    fun x hx => h.labels x (List.mem_cons_of_mem w hx)⟩

end IsRows

variable {L T r x y v : List Char} {c : Char}

def Never (P : List Char → Prop) (x r : List Char) : Prop :=
  ∀ a c v, x = a ++ c :: v → ¬ P (c :: v ++ r)

namespace Never

variable {P Q : List Char → Prop}

theorem of_chars (h : ∀ c ∈ x, ∀ v, ¬ P (c :: v)) : Never P x r := by
  rintro a c v rfl
  exact h c (by simp) _

theorem append (h : Never P x (y ++ r)) (h' : Never P y r) : Never P (x ++ y) r := by
  intro a c v heq
  rcases List.append_eq_append_iff.1 heq with ⟨z, rfl, hz⟩ | ⟨z, hz, hv⟩
  · exact h' z c v hz
  · cases z with
    | nil => exact h' [] c v hv.symm
    | cons d z =>
      obtain ⟨rfl, rfl⟩ := List.cons.inj hv
      simpa using h a c z hz

theorem of_append (h : Never P (x ++ y) r) : Never P y r := by
  rintro a c v rfl
  exact h (x ++ a) c v (List.append_assoc ..).symm

theorem mono (h : Never P x r) (hQ : ∀ cs, Q cs → P cs) : Never Q x r :=
  fun a c v hx hq => h a c v hx (hQ _ hq)

end Never

def Apart (cs : List Char) : Prop := ∀ l r, cs = l ++ '"' :: r → '\n' ∈ l

theorem apart_append (hx : '"' ∉ x) (h : Apart y) : Apart (x ++ y) := by
  intro l r heq
  rcases List.append_eq_append_iff.1 heq with ⟨z, rfl, hz⟩ | ⟨z, rfl, hz⟩
  · exact List.mem_append_right x (h z r hz)
  · cases z with
    | nil => simpa using h [] r hz.symm
    | cons d z =>
      obtain ⟨rfl, -⟩ := List.cons.inj hz
      simp at hx

theorem apart_of_break (hx : '"' ∉ x) (hbreak : '\n' ∈ x) : Apart (x ++ y) := by
  intro l r heq
  rcases List.append_eq_append_iff.1 heq with ⟨z, rfl, -⟩ | ⟨z, rfl, hz⟩
  · exact List.mem_append_left z hbreak
  · cases z with
    | nil => simpa using hbreak
    | cons d z =>
      obtain ⟨rfl, -⟩ := List.cons.inj hz
      simp at hx

theorem quote_not_mem_blank (h : ∀ c ∈ x, isBlank c = true) : '"' ∉ x := fun hmem =>
  absurd (h _ hmem) (by decide)

theorem Row.quote_not_mem_gap (w : Row) : '"' ∉ w.gap := quote_not_mem_blank w.blank

theorem IsRows.apart {ws : List Row} {post : List Char} {w : Row} (h : IsRows (w :: ws) post) :
    Apart (ws.flatMap Row.text ++ post) := by
  cases ws with
  | nil =>
    rintro l r rfl
    exact absurd (by simp) (quote_not_mem_blank h.post)
  | cons x xs =>
    rw [List.flatMap_cons, Row.text, List.append_assoc, List.append_assoc]
    exact apart_of_break x.quote_not_mem_gap (h.lines x List.mem_cons_self)

theorem isWordText_name (k : Control) : IsWordText k.name.toList := by
  cases k <;> simp only [Control.name] <;> decide

theorem Control.quote_not_mem_tail (k : Control) : '"' ∉ k.tail := by
  have href (b : Reference) : '"' ∉ b.text := fun h => absurd (b.word _ h) (by decide)
  cases k <;> simp [tail, joint, reference, ending, href]

theorem Control.exists_tail (k : Control) : ∃ y z, k.tail = y ++ [z] ∧ isHeadChar z = false := by
  have hending : ∃ y z, k.ending.toList = y ++ [z] ∧ isHeadChar z = false := by
    cases k with
    | button => exact ⟨" \x7b".toList, '\x7d', by simp [ending], by decide⟩
    | navigationLink d => exact ⟨"()".toList, ')', by simp [ending], by decide⟩
    | _ => exact ⟨[], ')', by simp [ending], by decide⟩
  obtain ⟨y, z, h, hz⟩ := hending
  exact ⟨k.joint.toList ++ (k.reference ++ y), z, by simp [tail, h], hz⟩

theorem Opens.before_quote (h : Opens cs) : ∃ u p l r, cs = (u ++ p) ++ '"' :: (l ++ '"' :: r) ∧
    (∀ c ∈ u ++ p, isHeadChar c = true) ∧ u ++ p ≠ [] ∧ IsCallStart p ∧ '\n' ∉ l := by
  obtain ⟨u, p, l, r, rfl, hu, hp, hl⟩ := h.literal
  obtain ⟨c, q, rfl, -⟩ := hp.head
  refine ⟨u, c :: q, l, r, (List.append_assoc ..).symm, fun d hd => ?_, by simp, hp, hl⟩
  rcases List.mem_append.1 hd with hd | hd
  · exact hu d hd
  · exact hp.heads d hd

theorem Opens.heads (h : Opens (x ++ r)) (hx : '"' ∉ x) : ∀ d ∈ x, isHeadChar d = true := by
  obtain ⟨u, p, l, r', heq, hup, -⟩ := h.before_quote
  intro d hd
  rcases List.append_eq_append_iff.1 heq with ⟨w, hw, -⟩ | ⟨w, rfl, hw⟩
  · exact hup d (hw ▸ List.mem_append_left w hd)
  · cases w with
    | nil => exact hup d (by simpa using hd)
    | cons a w =>
      obtain ⟨rfl, -⟩ := List.cons.inj hw
      simp at hx

theorem Opens.head (h : Opens (c :: v)) : isHeadChar c = true := by
  obtain ⟨u, p, l, r, heq, hup, hne, -⟩ := h.before_quote
  obtain ⟨d, z, hz⟩ := List.exists_cons_of_ne_nil hne
  rw [hz] at heq hup
  obtain ⟨rfl, -⟩ := List.cons.inj heq
  exact hup c List.mem_cons_self

theorem quote_not_mem_heads (h : ∀ d ∈ x, isHeadChar d = true) : '"' ∉ x := fun hmem =>
  absurd (h _ hmem) (by decide)

theorem never_opens_quote : Never Opens ['"'] r := by
  refine .of_chars fun c hc v hopens => ?_
  obtain rfl := List.mem_singleton.1 hc
  exact absurd hopens.head (by decide)

def Leads (cs : List Char) : Prop :=
  ∃ q l r, cs = q ++ '"' :: (l ++ '"' :: r) ∧ q ≠ [] ∧ '"' ∉ q ∧ q.getLast? ≠ some '\\' ∧
    '\n' ∉ l ∧ ∃ p, p <:+ q ∧ (IsCallStart p ∨ IsMarker p)

theorem Opens.leads (h : Opens cs) : Leads cs := by
  obtain ⟨u, p, l, r, heq, hup, hne, hp, hl⟩ := h.before_quote
  refine ⟨u ++ p, l, r, heq, hne, quote_not_mem_heads hup, fun hlast => ?_, hl, p,
    List.suffix_append u p, .inl hp⟩
  exact absurd (hup _ (List.mem_of_getLast? hlast)) (by decide)

theorem never_leads {w : List Char} (hx : IsLiteral x) (h : Misread x → Apart w) :
    Never Leads x ('"' :: w) := by
  rintro a c v hv ⟨q, l, r, heq, hne, hquote, hslash, hl, p, hsuffix, hp⟩
  -- The first quote is the one that closes the literal, so that `l` would have to end on this line.
  obtain ⟨hcv, rfl⟩ := hx.cut hv hne hquote hslash heq
  have hmisread : Misread x := ⟨p, hsuffix.trans ⟨a, by rw [hv, hcv]⟩, hp⟩
  exact hl (h hmisread l r rfl)

theorem Control.never_opens_tail (k : Control) : Never Opens k.tail r := by
  obtain ⟨y, z, htail, hz⟩ := k.exists_tail
  intro a c v hv hopens
  have hmem : z ∈ c :: v := by
    have hlast : (a ++ c :: v).getLast? = some z := by rw [← hv, htail]; simp
    rw [List.getLast?_append_of_ne_nil a (List.cons_ne_nil c v)] at hlast
    exact List.mem_of_getLast? hlast
  have hquote : '"' ∉ c :: v := fun hq => k.quote_not_mem_tail (hv ▸ List.mem_append_right a hq)
  have hhead := hopens.heads hquote z hmem
  simp [hz] at hhead

theorem AttachmentForm.quote_not_mem_opening (f : AttachmentForm) : '"' ∉ f.opening.toList := by
  cases f <;> decide

theorem not_suffix_of_mem_callNames :
    ∀ w ∈ callNames, ¬ w <:+ ".accessibilityIdentifier".toList := by decide

theorem AttachmentForm.not_isCallStart (f : AttachmentForm) {p : List Char}
    (h : p <:+ f.opening.toList) : ¬ IsCallStart p := by
  rintro ⟨w, u, v, rfl, hw, hu, hv⟩
  obtain ⟨x, hx⟩ := h
  -- The opening has one parenthesis, and a call start has one behind its name.
  have hsplit : x ++ (w ++ u) ++ '(' :: v = f.opening.toList := by rw [← hx]; simp
  cases f with
  | argument =>
    have hopening : AttachmentForm.argument.opening.toList =
        ".accessibility".toList ++ '(' :: "identifier: ".toList := by decide
    rw [hopening, eq_comm, List.append_cons_inj_of_notMem (by decide) (by decide)] at hsplit
    obtain ⟨-, -, rfl⟩ := hsplit
    exact absurd (hv 'i' (by decide)) (by decide)
  | method =>
    have hopening : AttachmentForm.method.opening.toList =
        ".accessibilityIdentifier".toList ++ '(' :: [] := by decide
    rw [hopening, eq_comm, List.append_cons_inj_of_notMem (by decide) (by decide)] at hsplit
    obtain ⟨hname, -, -⟩ := hsplit
    rcases List.eq_nil_or_concat u with rfl | ⟨u, d, rfl⟩
    · exact not_suffix_of_mem_callNames w hw ⟨x, by rw [hname, List.append_nil]⟩
    · have hlast := congrArg List.getLast? hname
      simp only [List.concat_eq_append, ← List.append_assoc, List.getLast?_concat] at hlast
      obtain rfl : 'r' = d := by simpa using hlast
      exact absurd (hu 'r' (by simp)) (by decide)

theorem Attachment.never_leads (a : Attachment) (hr : Apart r) :
    Never Leads a.id ('"' :: (')' :: r)) :=
  Swift.never_leads a.literal fun _ => apart_append (x := [')']) (by simp) hr

theorem Attachment.never_opens (a : Attachment) (hr : Apart r) : Never Opens a.text r := by
  have hopening : Never Opens a.form.opening.toList ('"' :: (a.id ++ ['"', ')']) ++ r) := by
    intro x c v hv hopens
    obtain ⟨u, p, l, r', heq, hup, -, hp, -⟩ := hopens.before_quote
    have hquote : '"' ∉ c :: v := fun hmem =>
      a.form.quote_not_mem_opening (hv ▸ List.mem_append_right x hmem)
    obtain ⟨hcv, -⟩ := quote_unique hquote (quote_not_mem_heads hup) heq
    exact a.form.not_isCallStart ⟨x ++ u, by rw [hv, hcv, List.append_assoc]⟩ hp
  have hid : Never Opens a.id ('"' :: (')' :: r)) := (a.never_leads hr).mono fun _ h => h.leads
  have hclose : Never Opens [')'] r := .of_chars fun c hc v hopens => by
    obtain rfl := List.mem_singleton.1 hc
    exact absurd hopens.head (by decide)
  have hrest : Never Opens ('"' :: (a.id ++ ['"', ')'])) r :=
    Never.append (x := ['"']) never_opens_quote <| hid.append <|
      Never.append (x := ['"']) never_opens_quote hclose
  exact hopening.append hrest

namespace Row

variable {w : Row} {rest : List Char}

theorem never_opens_gap (w : Row) : Never Opens w.gap r := by
  refine .of_chars fun c hc v hopens => ?_
  have hblank := hopens.start c rfl
  rw [w.blank c hc] at hblank
  cases hblank

theorem never_opens_attached (w : Row) (hr : Apart r) : Never Opens w.attached r := by
  cases ha : w.attachment with
  | none => simp [attached, ha, Never]
  | some a => simpa [attached, ha] using a.never_opens hr

theorem never_opens_paren : Never Opens ['('] ('"' :: r) := by
  intro a c v hv hopens
  obtain ⟨rfl, rfl, rfl⟩ : a = [] ∧ c = '(' ∧ v = [] := by
    cases a with
    | nil =>
      obtain ⟨rfl, rfl⟩ := List.cons.inj hv
      exact ⟨rfl, rfl, rfl⟩
    | cons d a => simp at hv
  obtain ⟨u, p, l, r', heq, hup, -, hp, -⟩ := hopens.before_quote
  obtain ⟨hcv, -⟩ := quote_unique (u := ['(']) (by decide) (quote_not_mem_heads hup) heq
  obtain ⟨d, q, rfl, hd⟩ := hp.head
  have hmem : d ∈ ['('] := hcv ▸ by simp
  obtain rfl := List.mem_singleton.1 hmem
  exact absurd hd (by decide)

theorem never_leads_label (hlabels : ∀ a ∈ w.attachment, ¬ Misread w.element.label)
    (hrest : Apart rest) : Never Leads w.element.label
      ('"' :: (w.element.control.tail ++ (w.attached ++ rest))) := by
  refine never_leads w.element.literal fun hmisread => ?_
  cases ha : w.attachment with
  | some a => exact absurd hmisread (hlabels a (by simp [ha]))
  | none =>
    have hattached : w.attached = [] := by simp [attached, ha]
    rw [hattached]
    exact apart_append w.element.control.quote_not_mem_tail hrest

theorem never_opens_inside (hlabels : ∀ a ∈ w.attachment, ¬ Misread w.element.label)
    (hrest : Apart rest) : Never Opens w.inside rest := by
  have hlabel : Never Opens w.element.label
      ('"' :: (w.element.control.tail ++ (w.attached ++ rest))) :=
    (never_leads_label hlabels hrest).mono fun _ h => h.leads
  have htail : Never Opens (w.element.control.tail ++ w.attached) rest :=
    w.element.control.never_opens_tail.append (w.never_opens_attached hrest)
  have hquoted : Never Opens ('"' :: (w.element.label ++ '"' ::
      (w.element.control.tail ++ w.attached))) rest := by
    refine Never.append (x := ['"']) never_opens_quote (Never.append ?_ ?_)
    · simpa using hlabel
    · exact Never.append (x := ['"']) never_opens_quote htail
  exact Never.append (x := ['(']) never_opens_paren hquoted

end Row

def BraceOpens (cs : List Char) : Prop := cs.head? = some '\x7b' ∧ Opens cs

def Sealed (cs : List Char) : Prop := Never BraceOpens cs []

theorem Sealed.not_opens (h : Sealed x) (hr : '\x7b' :: r <:+ x) : ¬ Opens ('\x7b' :: r) := by
  obtain ⟨a, rfl⟩ := hr
  intro hopens
  exact h a '\x7b' r rfl ⟨rfl, by simpa using hopens⟩

theorem sealed_blank (h : ∀ c ∈ x, isBlank c = true) : Sealed x := by
  refine .of_chars ?_
  rintro c hc v ⟨hhead, -⟩
  obtain rfl : c = '\x7b' := by simpa using hhead
  exact absurd (h _ hc) (by decide)

theorem Row.sealed {w : Row} {rest : List Char}
    (hlabels : ∀ a ∈ w.attachment, ¬ Misread w.element.label) (hrest : Apart rest)
    (h : Sealed rest) : Sealed (w.text ++ rest) := by
  have hgap : Never BraceOpens w.gap (w.element.control.name.toList ++ w.inside ++ rest) :=
    w.never_opens_gap.mono fun _ h => h.2
  have hname : Never BraceOpens w.element.control.name.toList (w.inside ++ rest) := by
    refine .of_chars ?_
    rintro c hc v ⟨hhead, -⟩
    obtain rfl : c = '\x7b' := by simpa using hhead
    exact absurd ((isWordText_name _).2 _ hc) (by decide)
  have hinside : Never BraceOpens w.inside rest :=
    (Row.never_opens_inside hlabels hrest).mono fun _ h => h.2
  have hrow : Never BraceOpens w.text (rest ++ []) := by
    rw [w.text_eq, List.append_nil]
    exact hgap.append (hname.append hinside)
  exact hrow.append h

theorem IsRows.sealed {ws : List Row} {post : List Char} (h : IsRows ws post) :
    Sealed (ws.flatMap Row.text ++ post) := by
  induction ws with
  | nil => exact sealed_blank h.post
  | cons w ws ih =>
    rw [List.flatMap_cons, List.append_assoc]
    exact Row.sealed (h.labels w List.mem_cons_self) h.apart (ih h.rest)

def told (call : Found Slot → ElementCall) (m : Found Slot) : FactKind × String × Nat :=
  ((call m).kind, (call m).label, (call m).stop)

/-- The pass with the pattern `p` finds the elements whose controls have the given names. -/
structure Finds (p : Grammar) (call : Found Slot → ElementCall) (names : List (List Char)) :
    Prop where
  starts : ∀ s, ∀ t ∈ p.ways s, Starts names s
  stop : ∀ m, (call m).stop = m.stop
  finds : ∀ e : Element, e.control.name.toList ∈ names → ∀ b o r, b.all isBlank = true →
    ∃ t, p.Prefers ⟨b, o, e.call ++ r, []⟩ t ∧ t.offset = o + e.taken.length ∧
      ∀ m : Found Slot, m.captures = t.captures → ((call m).kind, (call m).label) = e.item

namespace Finds

variable {p : Grammar} {call : Found Slot → ElementCall} {names : List (List Char)} {w : Row}
  {ws : List Row} {rest post : List Char} {b : Option Char} {o : Nat}

theorem ways_eq_nil (h : Finds p call names) {s : Cursor Slot} (hs : ¬ Starts names s) :
    p.ways s = [] :=
  List.eq_nil_iff_forall_not_mem.2 fun t ht => hs (h.starts s t ht)

theorem silent_of_never (h : Finds p call names) (hx : Never Opens x r) (hsealed : Sealed (x ++ r)) :
    p.Silent b x r := by
  rintro a c v rfl o
  refine h.ways_eq_nil fun hs => ?_
  rcases hs.opens with hopens | ⟨z, hz, hopens⟩
  · exact hx a c v rfl hopens
  · refine hsealed.not_opens (hz.trans ?_) hopens
    rw [List.append_assoc]
    exact List.suffix_append _ _

theorem silent_blank (h : Finds p call names) (hx : ∀ c ∈ x, isBlank c = true) :
    p.Silent b x r := by
  rintro a c v rfl o
  refine h.ways_eq_nil fun hs => ?_
  obtain ⟨u, -, hu, d, z, hahead, -⟩ := hs.name
  obtain ⟨e, u, rfl, he⟩ := hu.head
  obtain ⟨rfl, -⟩ := List.cons.inj hahead
  have hblank := isBlank_eq_false_of_isWord he
  simp [hx] at hblank

theorem silent_name (h : Finds p call names) {k : Control} (hname : k.name.toList ∉ names) :
    p.Silent b k.name.toList ('(' :: r) := by
  intro a c v hv o
  refine h.ways_eq_nil fun hs => ?_
  rcases List.eq_nil_or_concat a with rfl | ⟨a, d, rfl⟩
  · obtain ⟨u, hmem, hu, d, z, hahead, hd⟩ := hs.name
    rw [← List.nil_append (c :: v), ← hv] at hahead
    obtain ⟨rfl, -⟩ := run_unique (isWordText_name k).2 hu.2 (by decide) hd hahead
    exact hname hmem
  · have hword := (isWordText_name k).2 d (by rw [hv]; simp)
    have hfree := hs.free
    simp [hword] at hfree

theorem scans_row (h : Finds p call names)
    (hlabels : ∀ a ∈ w.attachment, ¬ Misread w.element.label) (hrest : Apart rest)
    (hsealed : Sealed rest) (hb : (w.gap.getLast?.or b).all isBlank = true) (o : Nat) :
    p.Scans (told call) b o w.text rest
      (if w.element.control.name.toList ∈ names then [w.told o] else []) := by
  have hinside := Row.never_opens_inside hlabels hrest
  have hrow := Row.sealed hlabels hrest hsealed
  split
  · rename_i hname
    obtain ⟨t, hprefers, hoffset, hitem⟩ := h.finds w.element hname (w.gap.getLast?.or b)
      (o + w.gap.length) (w.attached ++ rest) hb
    have hne : w.element.taken ≠ [] := by simp [Element.taken]
    have hleft : p.Silent (w.element.taken.getLast?.or (w.gap.getLast?.or b))
        (w.element.control.left ++ w.attached) rest := by
      rw [w.inside_taken] at hinside
      rw [w.text_taken, List.append_assoc, List.append_assoc] at hrow
      exact h.silent_of_never hinside.of_append hrow.of_append.of_append
    rw [w.element.call_eq, List.append_assoc, ← List.append_assoc _ w.attached] at hprefers
    have hscan := (hprefers.scans hne hoffset).append hleft.scans (f := told call)
    have hkind := hitem ⟨o + w.gap.length, o + w.gap.length + w.element.taken.length, t.captures⟩ rfl
    have htold : told call ⟨o + w.gap.length, o + w.gap.length + w.element.taken.length,
        t.captures⟩ = w.told o := by
      obtain ⟨hkind, hlabel⟩ := Prod.mk.inj hkind
      simp only [told, hkind, hlabel, h.stop, Row.told]
    rw [htold] at hscan
    rw [w.text_taken]
    exact (h.silent_blank w.blank).scans.append hscan
  · rename_i hname
    rw [w.text_eq]
    have hsealed' : Sealed (w.inside ++ rest) := by
      rw [w.text_eq, List.append_assoc, List.append_assoc] at hrow
      exact hrow.of_append.of_append
    exact ((h.silent_blank w.blank).append <|
      (h.silent_name hname).append (h.silent_of_never hinside hsealed')).scans

theorem scan_rows (h : Finds p call names) (hrows : IsRows ws post) :
    (p.scan (ws.flatMap Row.text ++ post)).map (told call) =
      placed Row.text (fun o w => if w.element.control.name.toList ∈ names then [w.told o] else [])
        0 ws := by
  have hscans (b : Option Char) (o : Nat)
      (hb : ∀ w ∈ ws.head?, (w.gap.getLast?.or b).all isBlank = true) :
      p.Scans (told call) b o (ws.flatMap Row.text) post
        (placed Row.text (fun o w => if w.element.control.name.toList ∈ names then [w.told o] else [])
          o ws) := by
    -- Each row stands behind a blank, and so does the next one because of its line break.
    induction ws generalizing b o with
    | nil => simp [Scans, placed]
    | cons w ws ih =>
      refine (h.scans_row (hrows.labels w List.mem_cons_self) hrows.apart hrows.rest.sealed
        (hb w rfl) o).append (ih hrows.rest _ _ ?_)
      intro x hx
      have hbreak : '\n' ∈ x.gap := hrows.lines x (List.mem_of_mem_head? hx)
      obtain ⟨d, hd⟩ := Option.isSome_iff_exists.1
        (List.getLast?_isSome.2 (List.ne_nil_of_mem hbreak))
      simpa [hd] using x.blank d (List.mem_of_getLast? hd)
  have hfirst : ∀ w ∈ ws.head?, (w.gap.getLast?.or none).all isBlank = true := by
    intro w _
    cases hd : w.gap.getLast? with
    | none => rfl
    | some d => simpa using w.blank d (List.mem_of_getLast? hd)
  have hpost : p.Silent ((ws.flatMap Row.text).getLast?.or none) post [] :=
    h.silent_blank hrows.post
  have hend : p.ways ⟨(ws.flatMap Row.text ++ post).getLast?,
      (ws.flatMap Row.text ++ post).length, [], []⟩ = [] := by
    refine h.ways_eq_nil fun hs => ?_
    obtain ⟨u, -, -, d, z, hahead, -⟩ := hs.name
    simp at hahead
  have hall := (Scans.append (r := []) (by simpa using hscans none 0 hfirst) hpost.scans).scan hend
  simpa using hall

end Finds

end TestScaffold.Swift
