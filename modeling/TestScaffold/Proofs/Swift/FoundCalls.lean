import TestScaffold.Extraction
import TestScaffold.Proofs.Pattern.Captures
import TestScaffold.Proofs.Swift.Calls

namespace TestScaffold.Swift

open Text Pattern

variable {s t : Cursor Slot} {i : Slot}

def Quotes (i : Slot) (s t : Cursor Slot) : Prop :=
  ∃ u l v x, s.Reads (u ++ '"' :: (l ++ '"' :: v)) t ∧ '\n' ∉ l ∧
    t.captures.find? (·.1 = i) = some (i, x) ∧ x.text = l

def Quoting (i : Slot) (p : Grammar) : Prop := ∀ s, ∀ t ∈ p.ways s, Quotes i s t

theorem quoting_string (i : Slot) : Quoting i (Grammar.string i) := by
  intro s t h
  obtain ⟨m, hm, h⟩ := mem_all_cons.1 h
  obtain ⟨n', hn', h⟩ := mem_all_cons.1 h
  obtain ⟨n, hn, rfl⟩ := mem_capture.1 hn'
  obtain ⟨l, hl, hline⟩ := Grammar.over_stringBody.reads hn
  have hkept : (Pattern.char '"' : Grammar).Captures i fun _ => False := trivial
  refine ⟨[], l, [], m.upTo n, ?_, fun hmem => hline '\n' hmem rfl, ?_, hl.text_upTo⟩
  · exact ((Grammar.reads_char hm).trans hl.capture).trans (Grammar.reads_char h)
  · rw [hkept.find?_eq h]
    exact List.find?_cons_of_pos (by simp)

namespace Quoting

variable {p q : Grammar} {ps : List Grammar}

theorem head (h : Quoting i p) (hps : (all (q :: ps)).Captures i fun _ => False) :
    Quoting i (all (p :: q :: ps)) := by
  intro s t ht
  obtain ⟨m, hm, ht⟩ := mem_all_cons.1 ht
  obtain ⟨u, l, v, x, hread, hline, hfind, hx⟩ := h s m hm
  obtain ⟨w, hw⟩ := reads_of_mem ht
  refine ⟨u, l, v ++ w, x, ?_, hline, (hps.find?_eq ht).trans hfind, hx⟩
  simpa using hread.trans hw

theorem tail (p : Grammar) (h : Quoting i (all (q :: ps))) : Quoting i (all (p :: q :: ps)) := by
  intro s t ht
  obtain ⟨m, hm, ht⟩ := mem_all_cons.1 ht
  obtain ⟨w, hw⟩ := reads_of_mem hm
  obtain ⟨u, l, v, x, hread, hline, hfind, hx⟩ := h m t ht
  refine ⟨w ++ u, l, v, x, ?_, hline, hfind, hx⟩
  simpa using hw.trans hread

end Quoting

def HoldsLabel (s t : Cursor Slot) : Prop :=
  ∃ u l v, s.Reads (u ++ '"' :: (l ++ '"' :: v)) t ∧ '\n' ∉ l ∧
    ∀ o o', labelOf ⟨o, o', t.captures⟩ = String.ofList l

theorem Quotes.holdsLabel (before : List Slot) {behind : List Slot} (h : Quotes i s t)
    (hslots : [Slot.label, .content, .trailing] = before ++ i :: behind)
    (hbefore : ∀ j ∈ before, t.captures.find? (·.1 = j) = none) : HoldsLabel s t := by
  obtain ⟨u, l, v, x, hread, hline, hfind, rfl⟩ := h
  refine ⟨u, x.text, v, hread, hline, fun o o' => ?_⟩
  let m : Found Slot := ⟨o, o', t.captures⟩
  have hnone : before.findSome? m.string? = none :=
    List.findSome?_eq_none_iff.2 fun j hj => by
      simp [m, Found.string?, Found.text?, Found.stretch?, hbefore j hj]
  have hsome : m.string? i = some (String.ofList x.text) := by
    simp [m, Found.string?, Found.text?, Found.stretch?, hfind]
  change ([Slot.label, .content, .trailing].findSome? m.string?).getD "" = _
  rw [hslots, List.findSome?_append, hnone, Option.none_or, List.findSome?_cons, hsome]
  rfl

namespace Grammar

theorem quoting_labelClosure (i : Slot) : Quoting i (labelClosure i) :=
  .tail _ <| .tail _ <| .tail _ <| .tail _ <| .tail _ <| .tail _ <| quoting_string i

theorem captures_labelClosure {j : Slot} (h : i ≠ j) :
    (labelClosure i).Captures j fun _ => False :=
  ⟨trivial, trivial, ⟨captures_lit _, captures_lit _⟩, trivial, trivial, trivial, trivial,
    ⟨⟨⟨trivial, trivial, trivial⟩, fun heq => absurd heq h⟩, trivial⟩⟩

theorem captures_closure : closure.Captures i fun _ => False := ⟨trivial, trivial, trivial⟩

theorem holdsLabel_labelled {control : String} {call : Grammar}
    (hcall : ∀ i, call.Captures i fun _ => False) (hs : s.captures = [])
    (h : t ∈ (labelled control call).ways s) : HoldsLabel s t := by
  have hword : ∀ i, (all [wordEdge, lit control, blanks] : Grammar).Captures i fun _ => False :=
    fun i => ⟨trivial, captures_lit _, trivial⟩
  obtain ⟨m₁, h₁, h⟩ := mem_all_cons.1 h
  obtain ⟨m₂, h₂, h⟩ := mem_all_cons.1 h
  obtain ⟨m₃, h₃, h⟩ := mem_all_cons.1 h
  have hfront : m₃ ∈ (all [wordEdge, lit control, blanks] : Grammar).ways s :=
    mem_all_cons.2 ⟨m₁, h₁, mem_all_cons.2 ⟨m₂, h₂, h₃⟩⟩
  obtain ⟨w, hw⟩ := reads_of_mem hfront
  have hnone {p : Grammar} {j : Slot} (hp : p.Captures j fun _ => False) (ht : t ∈ p.ways m₃) :
      t.captures.find? (·.1 = j) = none := by
    rw [hp.find?_eq ht, (hword j).find?_eq hfront, hs]
    rfl
  have hquotes {i : Slot} (hi : Quotes i m₃ t) : Quotes i s t := by
    obtain ⟨u, l, v, x, hread, hline, hfind, hx⟩ := hi
    exact ⟨w ++ u, l, v, x, by simpa using hw.trans hread, hline, hfind, hx⟩
  -- The three forms keep the label in places of their own, and nothing in the places before it.
  obtain ⟨p, hp, ht⟩ := mem_any.1 h
  simp only [List.mem_cons, List.not_mem_nil, or_false] at hp
  rcases hp with rfl | rfl | rfl
  · have hlabel : Quoting .label (all [Pattern.char '(', blanks, string .label]) :=
      .tail _ <| .tail _ <| quoting_string _
    exact (hquotes (hlabel _ _ ht)).holdsLabel [] rfl (by simp)
  · have hcontent : Quoting .content (all [call, blanks, labelClosure .content]) :=
      .tail _ <| .tail _ <| quoting_labelClosure _
    have hlabel : (all [call, blanks, labelClosure .content]).Captures .label fun _ => False :=
      ⟨hcall _, trivial, captures_labelClosure (by decide)⟩
    refine (hquotes (hcontent _ _ ht)).holdsLabel [.label] rfl fun j hj => ?_
    obtain rfl := List.mem_singleton.1 hj
    exact hnone hlabel ht
  · have htrailing : Quoting .trailing
        (all [closure, blanks, lit "label:", blanks, labelClosure .trailing]) :=
      .tail _ <| .tail _ <| .tail _ <| .tail _ <| quoting_labelClosure _
    refine (hquotes (htrailing _ _ ht)).holdsLabel [.label, .content] rfl fun j hj => ?_
    have hj : Slot.trailing ≠ j := by
      rintro rfl
      simp at hj
    have hkept : (all [closure, blanks, lit "label:", blanks,
        labelClosure .trailing]).Captures j fun _ => False :=
      ⟨captures_closure, trivial, captures_lit _, trivial, captures_labelClosure hj⟩
    exact hnone hkept ht

theorem captures_dotted : dotted.Captures i fun _ => False := ⟨trivial, trivial⟩

theorem holdsLabel_button (hs : s.captures = []) (h : t ∈ button.ways s) : HoldsLabel s t := by
  have hcall (i : Slot) : (all [Pattern.char '(', blanks, lit "action:", blanks,
      .alt closure dotted, blanks, Pattern.char ')']).Captures i fun _ => False :=
    ⟨trivial, trivial, captures_lit _, trivial, ⟨captures_closure, captures_dotted⟩, trivial, trivial⟩
  exact holdsLabel_labelled hcall hs h

theorem holdsLabel_navigationLink (hs : s.captures = []) (h : t ∈ navigationLink.ways s) :
    HoldsLabel s t := by
  have hcall (i : Slot) : (all [Pattern.char '(', blanks, lit "destination:",
      starLazy (except ['\x7b']), Pattern.char ')']).Captures i fun _ => False :=
    ⟨trivial, trivial, captures_lit _, trivial, trivial⟩
  exact holdsLabel_labelled hcall hs h

theorem captures_bound (w : String) : (all [blanks, Pattern.char ',', blanks, lit w, blanks,
    binding]).Captures .label fun _ => False :=
  ⟨trivial, trivial, trivial, captures_lit _, trivial, ⟨⟨trivial, trivial⟩, captures_dotted⟩,
    fun heq => nomatch heq⟩

theorem holdsLabel_textInput (h : t ∈ textInput.ways s) : HoldsLabel s t := by
  have hlabel : Quoting .label textInput :=
    .tail _ <| .tail _ <| .tail _ <| .tail _ <| .tail _ <|
      (quoting_string _).head (captures_bound "text:")
  exact (hlabel _ _ h).holdsLabel [] rfl (by simp)

theorem holdsLabel_staticText (h : t ∈ staticText.ways s) : HoldsLabel s t := by
  have hbehind : (all [blanks, Pattern.char ')']).Captures .label fun _ => False :=
    ⟨trivial, trivial⟩
  have hlabel : Quoting .label staticText :=
    .tail _ <| .tail _ <| .tail _ <| .tail _ <| .tail _ <| (quoting_string _).head hbehind
  exact (hlabel _ _ h).holdsLabel [] rfl (by simp)

theorem holdsLabel_toggle (h : t ∈ toggle.ways s) : HoldsLabel s t := by
  have hlabel : Quoting .label toggle :=
    .tail _ <| .tail _ <| .tail _ <| .tail _ <| .tail _ <|
      (quoting_string _).head (captures_bound "isOn:")
  exact (hlabel _ _ h).holdsLabel [] rfl (by simp)

theorem control_textInput (h : t ∈ textInput.ways s) : ∃ w : String,
    (w = "TextField" ∨ w = "SecureField") ∧ w.toList <+: s.ahead ∧
      ∀ o o', (⟨o, o', t.captures⟩ : Found Slot).string .control = w := by
  obtain ⟨m, hm, hrest⟩ := mem_all_cons.1 h
  obtain ⟨n', hn', hrest⟩ := mem_all_cons.1 hrest
  obtain ⟨n, hn, rfl⟩ := mem_capture.1 hn'
  obtain ⟨-, rfl⟩ := mem_wordEdge hm
  obtain ⟨w, hw, hread⟩ : ∃ w : String, (w = "TextField" ∨ w = "SecureField") ∧
      m.Reads w.toList n := by
    rcases mem_alt.1 hn with hn | hn
    · exact ⟨_, .inl rfl, reads_lit hn⟩
    · exact ⟨_, .inr rfl, reads_lit hn⟩
  have hbehind : (all [blanks, Pattern.char '(', blanks, string .label, blanks, Pattern.char ',',
      blanks, lit "text:", blanks, binding]).Captures .control fun _ => False :=
    ⟨trivial, trivial, trivial, ⟨trivial, ⟨⟨trivial, trivial, trivial⟩, nofun⟩, trivial⟩, trivial,
      trivial, trivial, captures_lit _, trivial, ⟨⟨trivial, trivial⟩, captures_dotted⟩, nofun⟩
  refine ⟨w, hw, ⟨n.ahead, hread.ahead.symm⟩, fun o o' => ?_⟩
  have hfind : t.captures.find? (·.1 = .control) = some (.control, m.upTo n) := by
    rw [hbehind.find?_eq hrest]
    rfl
  simp [Found.string, Found.text, Found.text?, Found.stretch?, hfind, hread.text_upTo]

end Grammar

def callName : FactKind → String
  | .button => "Button"
  | .textField => "TextField"
  | .secureField => "SecureField"
  | .text => "Text"
  | .toggle => "Toggle"
  | .navigationLink => "NavigationLink"
  | _ => ""

structure IsCallIn (span : List Char) (call : ElementCall) : Prop where
  within : call.stop ≤ span.length
  named : (callName call.kind).toList <+: span.drop call.start
  quoted : ∃ u v, slice call.start call.stop span = u ++ '"' :: (call.label.toList ++ '"' :: v)
  line : '\n' ∉ call.label.toList

theorem IsCallIn.start_lt_stop {span : List Char} {call : ElementCall} (h : IsCallIn span call) :
    call.start < call.stop := by
  obtain ⟨u, v, hslice⟩ := h.quoted
  by_contra hle
  have hstop : ¬ (call.stop : Int) < 0 := by omega
  rw [slice, if_neg hstop, Int.toNat_natCast, Nat.sub_eq_zero_of_le (Nat.not_lt.1 hle),
    List.take_zero] at hslice
  simp at hslice

theorem slice_stretch (x y z : List Char) {stop : Nat} (h : stop = x.length + y.length) :
    slice x.length stop (x ++ (y ++ z)) = y := by
  have hstop : ¬ (stop : Int) < 0 := by omega
  rw [slice, if_neg hstop, Int.toNat_natCast, List.drop_left, h, Nat.add_sub_cancel_left,
    List.take_left]

theorem isCallIn_of_mem_scan {p : Grammar} {kind : Found Slot → FactKind} {span : List Char}
    {m : Found Slot} (hm : m ∈ p.scan span)
    (hlabel : ∀ {s t}, s.captures = [] → t ∈ p.ways s → HoldsLabel s t)
    (hname : ∀ {s t} o o', t ∈ p.ways s →
      (callName (kind ⟨o, o', t.captures⟩)).toList <+: s.ahead) :
    IsCallIn span (callOf (kind m) m) := by
  obtain ⟨x, r, rfl, hhere⟩ := exists_of_mem_scan hm
  rw [here?_eq] at hhere
  obtain ⟨t, ht, rfl⟩ := Option.map_eq_some_iff.1 hhere
  have hway := List.mem_of_head? ht
  obtain ⟨u, l, v, hread, hline, htold⟩ := hlabel rfl hway
  have hr : r = u ++ '"' :: (l ++ '"' :: v) ++ t.ahead := hread.ahead
  have hstop : t.offset = x.length + (u ++ '"' :: (l ++ '"' :: v)).length := hread.offset
  have hl : (callOf (kind ⟨x.length, t.offset, t.captures⟩)
      ⟨x.length, t.offset, t.captures⟩).label.toList = l := by
    rw [callOf, htold, String.toList_ofList]
  constructor
  · simp only [callOf, hstop, hr, List.length_append]
    omega
  · simp only [callOf, List.drop_left]
    exact hname _ _ hway
  · refine ⟨u, v, ?_⟩
    rw [hl, hr]
    exact slice_stretch x _ _ hstop
  · rwa [hl]

structure FindsCalls (pass : List Char → List ElementCall) (kinds : List FactKind) : Prop where
  calls : ∀ span, ∀ call ∈ pass span, call.kind ∈ kinds ∧ IsCallIn span call
  apart : ∀ span, (pass span).Pairwise fun c c' => c.stop ≤ c'.start

theorem findsCalls_of_scan {p : Grammar} {kind : Found Slot → FactKind} {kinds : List FactKind}
    (hkind : ∀ m, kind m ∈ kinds)
    (hlabel : ∀ {s t}, s.captures = [] → t ∈ p.ways s → HoldsLabel s t)
    (hname : ∀ {s t} o o', t ∈ p.ways s →
      (callName (kind ⟨o, o', t.captures⟩)).toList <+: s.ahead) :
    FindsCalls (fun span => (p.scan span).map fun m => callOf (kind m) m) kinds where
  calls span call hcall := by
    obtain ⟨m, hm, rfl⟩ := List.mem_map.1 hcall
    exact ⟨hkind m, isCallIn_of_mem_scan hm hlabel hname⟩
  apart span := (pairwise_scan p span).map _ fun _ _ h => h

theorem Starts.leads {w : List Char} (h : Starts [w] s) : w <+: s.ahead := by
  obtain ⟨v, hv, -, c, r, hahead, -⟩ := h.name
  rw [List.mem_singleton.1 hv] at hahead
  exact ⟨c :: r, hahead.symm⟩

theorem findsCalls_buttons : FindsCalls buttons [.button] :=
  findsCalls_of_scan (fun _ => List.mem_singleton_self _) Grammar.holdsLabel_button
    fun _ _ h => (Grammar.starts_button h).leads

theorem findsCalls_textInputs : FindsCalls textInputs [.textField, .secureField] := by
  refine findsCalls_of_scan (fun m => ?_) (fun _ => Grammar.holdsLabel_textInput) fun o o' h => ?_
  · split <;> simp
  · obtain ⟨w, hw, hprefix, hcontrol⟩ := Grammar.control_textInput h
    rw [hcontrol]
    rcases hw with rfl | rfl <;> exact hprefix

theorem findsCalls_staticTexts : FindsCalls staticTexts [.text] :=
  findsCalls_of_scan (fun _ => List.mem_singleton_self _) (fun _ => Grammar.holdsLabel_staticText)
    fun _ _ h => (Grammar.starts_staticText h).leads

theorem findsCalls_toggles : FindsCalls toggles [.toggle] :=
  findsCalls_of_scan (fun _ => List.mem_singleton_self _) (fun _ => Grammar.holdsLabel_toggle)
    fun _ _ h => (Grammar.starts_toggle h).leads

theorem findsCalls_navigationLinks : FindsCalls navigationLinks [.navigationLink] :=
  findsCalls_of_scan (fun _ => List.mem_singleton_self _) Grammar.holdsLabel_navigationLink
    fun _ _ h => (Grammar.starts_navigationLink h).leads

end TestScaffold.Swift
