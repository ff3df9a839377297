import TestScaffold.Proofs.Json.Tokens

/-!
The texts that are read as JSON. `Written` is their grammar, with how deep lists and objects stand within
one another; a text is read if and only if it belongs to it and is not too deep.
-/

namespace TestScaffold.Json

def Blanks (u : List Char) : Prop := ∀ c ∈ u, isSpace c = true

inductive Phrase where
  | value (j : Json)
  | items (js : List Json)
  | members (ms : List (String × Json))

inductive Written : Nat → List Char → Phrase → Prop where
  | scalar {t : List Char} {j : Json} (h : scalar t = .ok (j, [])) : Written 0 t (.value j)
  | string {t : List Char} {k : String} (h : stringRest t = .ok (k, [])) :
      Written 0 ('"' :: t) (.value (.string k))
  | noItems {u : List Char} (hu : Blanks u) : Written 1 ('[' :: (u ++ [']'])) (.value (.list []))
  | list {d : Nat} {u t : List Char} {js : List Json} (hu : Blanks u) (h : Written d t (.items js)) :
      Written (d + 1) ('[' :: (u ++ t)) (.value (.list js))
  | noMembers {u : List Char} (hu : Blanks u) :
      Written 1 ('\x7b' :: (u ++ ['\x7d'])) (.value (.object []))
  | object {d : Nat} {u t : List Char} {ms : List (String × Json)} (hu : Blanks u)
      (h : Written d t (.members ms)) :
      Written (d + 1) ('\x7b' :: (u ++ t)) (.value (.object (Entries.ofList ms)))
  | lastItem {d : Nat} {t u : List Char} {j : Json} (h : Written d t (.value j)) (hu : Blanks u) :
      Written d (t ++ (u ++ [']'])) (.items [j])
  | item {d e : Nat} {t u v s : List Char} {j : Json} {js : List Json} (h : Written d t (.value j))
      (hu : Blanks u) (hv : Blanks v) (hs : Written e s (.items js)) :
      Written (max d e) (t ++ (u ++ ',' :: (v ++ s))) (.items (j :: js))
  | lastMember {d : Nat} {q u v t w : List Char} {k : String} {j : Json}
      (hk : stringRest q = .ok (k, [])) (hu : Blanks u) (hv : Blanks v) (h : Written d t (.value j))
      (hw : Blanks w) :
      Written d ('"' :: (q ++ (u ++ ':' :: (v ++ (t ++ (w ++ ['\x7d'])))))) (.members [(k, j)])
  | member {d e : Nat} {q u v t w x s : List Char} {k : String} {j : Json}
      {ms : List (String × Json)} (hk : stringRest q = .ok (k, [])) (hu : Blanks u) (hv : Blanks v)
      (h : Written d t (.value j)) (hw : Blanks w) (hx : Blanks x) (hs : Written e s (.members ms)) :
      Written (max d e) ('"' :: (q ++ (u ++ ':' :: (v ++ (t ++ (w ++ ',' :: (x ++ s)))))))
        (.members ((k, j) :: ms))

variable {cs r s t u v : List Char} {c : Char} {d e fuel room limit : Nat} {j : Json}

theorem blanks_nil : Blanks [] := by simp [Blanks]

theorem exists_blanks (cs : List Char) : ∃ u, Blanks u ∧ cs = u ++ skipSpace cs := by
  refine ⟨cs.takeWhile isSpace, fun c hc => List.mem_takeWhile_imp hc, ?_⟩
  exact (List.takeWhile_append_dropWhile).symm

theorem skipSpace_append (hu : Blanks u) (hc : isSpace c = false) :
    skipSpace (u ++ c :: r) = c :: r := by
  rw [skipSpace, List.dropWhile_append_of_pos hu, List.dropWhile_cons_of_neg (by simp [hc])]

theorem skipSpace_of_blanks (hu : Blanks u) : skipSpace u = [] :=
  List.dropWhile_eq_nil_iff.2 hu

theorem isSpace_of_isVisible (h : isVisible c = true) : isSpace c = false := by
  by_contra hc
  simp only [isSpace, Bool.not_eq_false, Bool.or_eq_true, beq_iff_eq] at hc
  rcases hc with ((rfl | rfl) | rfl) | rfl <;> exact absurd h (by decide)

theorem stops_mark (hc : c ∈ [',', ']', '\x7d']) : Stops isMark (c :: r) := by
  intro d hd
  cases hd
  simp only [List.mem_cons, List.not_mem_nil, or_false] at hc
  rcases hc with rfl | rfl | rfl <;> decide

theorem stops_append (hu : Blanks u) (hr : Stops isMark r) : Stops isMark (u ++ r) := by
  cases u with
  | nil => exact hr
  | cons c u =>
    intro d hd
    cases hd
    have hspace := hu c List.mem_cons_self
    simp only [isSpace, Bool.or_eq_true, beq_iff_eq] at hspace
    rcases hspace with ((rfl | rfl) | rfl) | rfl <;> decide

theorem value_quote (more : List Char) : value (fuel + 1) room ('"' :: more) =
    (stringRest more).map fun r => (.string r.1, r.2) := by
  rw [value.eq_def]
  rfl

theorem value_list (more : List Char) : value (fuel + 1) room ('[' :: more) =
    if room = 0 then .error .tooDeep
    else
      match skipSpace more with
      | ']' :: rest => .ok (.list [], rest)
      | rest => (items fuel (room - 1) rest).map fun r => (.list r.1, r.2) := by
  rw [value.eq_def]
  rfl

theorem value_object (more : List Char) : value (fuel + 1) room ('\x7b' :: more) =
    if room = 0 then .error .tooDeep
    else
      match skipSpace more with
      | '\x7d' :: rest => .ok (.object [], rest)
      | rest => (members fuel (room - 1) rest).map fun r => (.object (Entries.ofList r.1), r.2) := by
  rw [value.eq_def]
  rfl

theorem items_succ (cs : List Char) : items (fuel + 1) room cs =
    match value fuel room cs with
    | .error e => .error e
    | .ok (j, rest) =>
      match skipSpace rest with
      | ']' :: more => .ok ([j], more)
      | ',' :: more => (items fuel room (skipSpace more)).map fun r => (j :: r.1, r.2)
      | _ => .error .malformed := by
  rw [items.eq_def]
  simp only
  cases value fuel room cs with
  | error e => rfl
  | ok p =>
    obtain ⟨j, rest⟩ := p
    simp only [bind, Except.bind]
    generalize skipSpace rest = x
    split
    · rfl
    · simp only [Except.map, pure, Except.pure]
    · simp

theorem members_quote (cs : List Char) : members (fuel + 1) room ('"' :: cs) =
    match stringRest cs with
    | .error e => .error e
    | .ok (k, rest) =>
      match skipSpace rest with
      | ':' :: rest =>
        match value fuel room (skipSpace rest) with
        | .error e => .error e
        | .ok (j, rest) =>
          match skipSpace rest with
          | '\x7d' :: more => .ok ([(k, j)], more)
          | ',' :: more => (members fuel room (skipSpace more)).map fun r => ((k, j) :: r.1, r.2)
          | _ => .error .malformed
      | _ => .error .malformed := by
  rw [members.eq_def]
  simp only
  cases stringRest cs with
  | error e => rfl
  | ok p =>
    obtain ⟨k, rest⟩ := p
    simp only [bind, Except.bind]
    generalize skipSpace rest = x
    split
    · rename_i rest
      simp only [Except.map]
      rcases value fuel room (skipSpace rest) with e | ⟨j, rest⟩
      · rfl
      · simp only
        generalize skipSpace rest = y
        split
        · rfl
        · simp only [pure, Except.pure]
        · simp
    · simp

theorem members_of_ne (h : ∀ c ∈ cs.head?, c ≠ '"') :
    members (fuel + 1) room cs = .error .malformed := by
  rw [members.eq_def]
  simp only
  split
  · exact absurd rfl (h _ rfl)
  · rfl

theorem exists_tail {k : String} (h : stringRest cs = .ok (k, r)) :
    ∃ q, cs = q ++ r ∧ stringRest q = .ok (k, []) := by
  obtain ⟨t, rfl, hreads⟩ := exists_string h
  exact ⟨t ++ ['"'], by simp, hreads []⟩

structure Sound (fuel : Nat) : Prop where
  onValue : ∀ {room cs j r}, value fuel room cs = .ok (j, r) →
    ∃ d t, cs = t ++ r ∧ d ≤ room ∧ Written d t (.value j)
  onItems : ∀ {room cs js r}, items fuel room cs = .ok (js, r) →
    ∃ d t, cs = t ++ r ∧ d ≤ room ∧ Written d t (.items js)
  onMembers : ∀ {room cs ms r}, members fuel room cs = .ok (ms, r) →
    ∃ d t, cs = t ++ r ∧ d ≤ room ∧ Written d t (.members ms)

namespace Sound

theorem list_of (h : Sound fuel) (hv : value (fuel + 1) room ('[' :: cs) = .ok (j, r)) :
    ∃ d t, '[' :: cs = t ++ r ∧ d ≤ room ∧ Written d t (.value j) := by
  rw [value_list] at hv
  by_cases hroom : room = 0
  · simp [hroom] at hv
  rw [if_neg hroom] at hv
  obtain ⟨u, hu, hcs⟩ := exists_blanks cs
  split at hv
  · rename_i rest hclose
    cases hv
    rw [hclose] at hcs
    exact ⟨1, _, by rw [hcs]; simp, by omega, .noItems hu⟩
  · obtain ⟨⟨js, r⟩, hitems, heq⟩ := map_eq_ok hv
    cases heq
    obtain ⟨d, t, htext, hd, hwritten⟩ := h.onItems hitems
    rw [htext] at hcs
    exact ⟨d + 1, _, by rw [hcs]; simp, by omega, .list hu hwritten⟩

theorem object_of (h : Sound fuel) (hv : value (fuel + 1) room ('\x7b' :: cs) = .ok (j, r)) :
    ∃ d t, '\x7b' :: cs = t ++ r ∧ d ≤ room ∧ Written d t (.value j) := by
  rw [value_object] at hv
  by_cases hroom : room = 0
  · simp [hroom] at hv
  rw [if_neg hroom] at hv
  obtain ⟨u, hu, hcs⟩ := exists_blanks cs
  split at hv
  · rename_i rest hclose
    cases hv
    rw [hclose] at hcs
    exact ⟨1, _, by rw [hcs]; simp, by omega, .noMembers hu⟩
  · obtain ⟨⟨ms, r⟩, hmembers, heq⟩ := map_eq_ok hv
    cases heq
    obtain ⟨d, t, htext, hd, hwritten⟩ := h.onMembers hmembers
    rw [htext] at hcs
    exact ⟨d + 1, _, by rw [hcs]; simp, by omega, .object hu hwritten⟩

theorem value_of (h : Sound fuel) (hv : value (fuel + 1) room cs = .ok (j, r)) :
    ∃ d t, cs = t ++ r ∧ d ≤ room ∧ Written d t (.value j) := by
  by_cases hplain : ∀ c ∈ cs.head?, c ≠ '"' ∧ c ≠ '[' ∧ c ≠ '\x7b'
  · rw [value_scalar hplain] at hv
    obtain ⟨c, t, rfl, -, -, hreads⟩ := exists_scalar hv
    refine ⟨0, c :: t, rfl, room.zero_le, .scalar ?_⟩
    simpa using hreads [] (by simp [Stops])
  · cases cs with
    | nil => simp at hplain
    | cons c cs =>
      by_cases hlist : c = '['
      · subst hlist
        exact h.list_of hv
      by_cases hobject : c = '\x7b'
      · subst hobject
        exact h.object_of hv
      have hquote : c = '"' := by
        by_contra hquote
        exact hplain (by simpa using ⟨hquote, hlist, hobject⟩)
      subst hquote
      rw [value_quote] at hv
      obtain ⟨⟨k, r⟩, hstring, heq⟩ := map_eq_ok hv
      cases heq
      obtain ⟨q, rfl, hq⟩ := exists_tail hstring
      exact ⟨0, _, rfl, room.zero_le, .string hq⟩

theorem items_of {js : List Json} (h : Sound fuel) (hi : items (fuel + 1) room cs = .ok (js, r)) :
    ∃ d t, cs = t ++ r ∧ d ≤ room ∧ Written d t (.items js) := by
  rw [items_succ] at hi
  cases hvalue : value fuel room cs with
  | error e =>
    rw [hvalue] at hi
    cases hi
  | ok p =>
    obtain ⟨j, rest⟩ := p
    simp only [hvalue] at hi
    obtain ⟨d, t, rfl, hd, hwritten⟩ := h.onValue hvalue
    obtain ⟨u, hu, hrest⟩ := exists_blanks rest
    split at hi
    · rename_i more hclose
      cases hi
      rw [hclose] at hrest
      exact ⟨d, _, by rw [hrest]; simp, hd, .lastItem hwritten hu⟩
    · rename_i more hcomma
      obtain ⟨⟨js, r⟩, hitems, heq⟩ := map_eq_ok hi
      cases heq
      obtain ⟨v, hv, hmore⟩ := exists_blanks more
      obtain ⟨e, s, htext, he, hs⟩ := h.onItems hitems
      rw [htext] at hmore
      rw [hcomma, hmore] at hrest
      exact ⟨max d e, _, by rw [hrest]; simp, max_le hd he, .item hwritten hu hv hs⟩
    · cases hi

theorem members_of {ms : List (String × Json)} (h : Sound fuel)
    (hm : members (fuel + 1) room cs = .ok (ms, r)) :
    ∃ d t, cs = t ++ r ∧ d ≤ room ∧ Written d t (.members ms) := by
  by_cases hhead : ∀ c ∈ cs.head?, c ≠ '"'
  · rw [members_of_ne hhead] at hm
    cases hm
  obtain ⟨cs, rfl⟩ : ∃ more, cs = '"' :: more := by
    simpa [List.head?_eq_some_iff] using hhead
  rw [members_quote] at hm
  cases hstring : stringRest cs with
  | error e =>
    rw [hstring] at hm
    cases hm
  | ok p =>
    obtain ⟨k, rest⟩ := p
    obtain ⟨q, rfl, hq⟩ := exists_tail hstring
    obtain ⟨u, hu, hrest⟩ := exists_blanks rest
    simp only [hstring] at hm
    split at hm
    · rename_i more hcolon
      obtain ⟨v, hv, hmore⟩ := exists_blanks more
      cases hvalue : value fuel room (skipSpace more) with
      | error e =>
        rw [hvalue] at hm
        cases hm
      | ok p =>
        obtain ⟨j, rest'⟩ := p
        obtain ⟨d, t, htext, hd, hwritten⟩ := h.onValue hvalue
        obtain ⟨w, hw, hrest'⟩ := exists_blanks rest'
        simp only [hvalue] at hm
        rw [htext] at hmore
        rw [hcolon, hmore] at hrest
        split at hm
        · rename_i final hclose
          cases hm
          rw [hclose] at hrest'
          exact ⟨d, _, by rw [hrest, hrest']; simp, hd, .lastMember hq hu hv hwritten hw⟩
        · rename_i final hcomma
          obtain ⟨⟨ms, r⟩, hmembers, heq⟩ := map_eq_ok hm
          cases heq
          obtain ⟨x, hx, hfinal⟩ := exists_blanks final
          obtain ⟨e, s, htext', he, hs⟩ := h.onMembers hmembers
          rw [htext'] at hfinal
          rw [hcomma, hfinal] at hrest'
          exact ⟨max d e, _, by rw [hrest, hrest']; simp, max_le hd he,
            .member hq hu hv hwritten hw hx hs⟩
        · cases hm
    · cases hm

end Sound

theorem sound (fuel : Nat) : Sound fuel := by
  induction fuel with
  | zero =>
    constructor
    · intro room cs j r h
      rw [value.eq_def] at h
      cases h
    · intro room cs js r h
      rw [items.eq_def] at h
      cases h
    · intro room cs ms r h
      rw [members.eq_def] at h
      cases h
  | succ fuel ih => exact ⟨ih.value_of, ih.items_of, ih.members_of⟩

variable {p : Phrase}

theorem Written.exists_first (h : Written d t p) :
    ∃ c u, t = c :: u ∧ isVisible c = true ∧ c ≠ ']' ∧ c ≠ '\x7d' := by
  induction h with
  | scalar h =>
    obtain ⟨c, t, htext, hbracket, hvisible, -⟩ := exists_scalar h
    refine ⟨c, t, by simpa using htext, hvisible c List.mem_cons_self, ?_, ?_⟩
    · rintro rfl
      cases hbracket
    · rintro rfl
      cases hbracket
  | string | noItems | list | noMembers | object | lastMember | member =>
    exact ⟨_, _, rfl, rfl, by decide, by decide⟩
  | lastItem h hu ih =>
    obtain ⟨c, u, rfl, hc⟩ := ih
    exact ⟨c, _, rfl, hc⟩
  | item h hu hv hs ih =>
    obtain ⟨c, u, rfl, hc⟩ := ih
    exact ⟨c, _, rfl, hc⟩

theorem Written.exists_last (h : Written d t p) : ∃ u c, t = u ++ [c] ∧ isVisible c = true := by
  induction h with
  | @scalar t j h =>
    obtain ⟨c, u, htext, -, hvisible, -⟩ := exists_scalar h
    obtain ⟨v, b, hlast⟩ : ∃ v b, c :: u = v ++ [b] :=
      ⟨_, _, (List.dropLast_concat_getLast (by simp)).symm⟩
    rw [List.append_nil, hlast] at htext
    exact ⟨v, b, htext, hvisible b (by rw [hlast]; simp)⟩
  | string h =>
    obtain ⟨u, rfl, -⟩ := exists_string h
    exact ⟨'"' :: u, '"', rfl, rfl⟩
  | @noItems u => exact ⟨'[' :: u, ']', rfl, rfl⟩
  | @noMembers u => exact ⟨'\x7b' :: u, '\x7d', rfl, rfl⟩
  | @list d u t js hu h ih =>
    obtain ⟨v, c, rfl, hc⟩ := ih
    exact ⟨'[' :: (u ++ v), c, by simp, hc⟩
  | @object d u t ms hu h ih =>
    obtain ⟨v, c, rfl, hc⟩ := ih
    exact ⟨'\x7b' :: (u ++ v), c, by simp, hc⟩
  | @lastItem d t u => exact ⟨t ++ u, ']', by simp, rfl⟩
  | @item d e t u v s j js h hu hv hs ih ihs =>
    obtain ⟨w, c, rfl, hc⟩ := ihs
    exact ⟨t ++ (u ++ ',' :: (v ++ w)), c, by simp, hc⟩
  | @lastMember d q u v t w => exact ⟨'"' :: (q ++ (u ++ ':' :: (v ++ (t ++ w)))), '\x7d', by simp, rfl⟩
  | @member d e q u v t w x s k j ms hk hu hv h hw hx hs ih ihs =>
    obtain ⟨y, c, rfl, hc⟩ := ihs
    exact ⟨'"' :: (q ++ (u ++ ':' :: (v ++ (t ++ (w ++ ',' :: (x ++ y)))))), c, by simp, hc⟩

theorem Written.skipSpace_eq (h : Written d t p) (hu : Blanks u) :
    skipSpace (u ++ (t ++ r)) = t ++ r := by
  obtain ⟨c, w, rfl, hvisible, -, -⟩ := h.exists_first
  exact skipSpace_append hu (isSpace_of_isVisible hvisible)

theorem Written.object_first {ms : List (String × Json)} (h : Written d t (.value (.object ms))) :
    ∃ u, t = '\x7b' :: u := by
  cases h with
  | scalar h => exact absurd h scalar_ne_object
  | noMembers => exact ⟨_, rfl⟩
  | object => exact ⟨_, rfl⟩

theorem Written.head?_eq_brace_iff (h : Written d t (.value j)) :
    t.head? = some '\x7b' ↔ ∃ ms, j = .object ms := by
  constructor
  · intro hbrace
    cases h with
    | scalar h =>
      obtain ⟨c, u, htext, hbracket, -⟩ := exists_scalar h
      rw [htext] at hbrace
      obtain rfl : c = '\x7b' := Option.some.inj hbrace
      cases hbracket
    | string | noItems | list => exact absurd (Option.some.inj hbrace) (by decide)
    | noMembers | object => exact ⟨_, rfl⟩
  · rintro ⟨ms, rfl⟩
    obtain ⟨u, rfl⟩ := h.object_first
    rfl

def within {α : Type} (d room : Nat) (a : α) (r : List Char) : Except ReadError (α × List Char) :=
  if d ≤ room then .ok (a, r) else .error .tooDeep

def Accepted (d : Nat) (t : List Char) : Phrase → Prop
  | .value j => ∀ fuel room r, 2 * t.length + 1 ≤ fuel → Stops isMark r →
      value fuel room (t ++ r) = within d room j r
  | .items js => ∀ fuel room r, 2 * t.length + 2 ≤ fuel →
      items fuel room (t ++ r) = within d room js r
  | .members ms => ∀ fuel room r, 2 * t.length + 2 ≤ fuel →
      members fuel room (t ++ r) = within d room ms r

theorem accepted_scalar (h : scalar t = .ok (j, [])) : Accepted 0 t (.value j) := by
  obtain ⟨c, u, htext, hbracket, -, hreads⟩ := exists_scalar h
  intro fuel room r hfuel hr
  obtain ⟨fuel, rfl, hle⟩ := exists_fuel hfuel
  have hplain : ∀ b ∈ (c :: u ++ r).head?, b ≠ '"' ∧ b ≠ '[' ∧ b ≠ '\x7b' := by
    intro b hb
    cases hb
    refine ⟨?_, ?_, ?_⟩ <;>
    · rintro rfl
      cases hbracket
  rw [List.append_nil] at htext
  rw [htext, value_scalar hplain, hreads r hr]
  rfl

theorem accepted_string {k : String} (h : stringRest t = .ok (k, [])) :
    Accepted 0 ('"' :: t) (.value (.string k)) := by
  obtain ⟨u, htext, hreads⟩ := exists_string h
  intro fuel room r hfuel hr
  obtain ⟨fuel, rfl, hle⟩ := exists_fuel hfuel
  have htail : '"' :: t ++ r = '"' :: (u ++ '"' :: r) := by simp [htext]
  rw [htail, value_quote, hreads r]
  rfl

theorem accepted_noItems (hu : Blanks u) : Accepted 1 ('[' :: (u ++ [']'])) (.value (.list [])) := by
  intro fuel room r hfuel hr
  obtain ⟨fuel, rfl, hle⟩ := exists_fuel hfuel
  have htext : '[' :: (u ++ [']']) ++ r = '[' :: (u ++ ']' :: r) := by simp
  rw [htext, value_list, skipSpace_append hu rfl]
  cases room <;> rfl

theorem accepted_noMembers (hu : Blanks u) :
    Accepted 1 ('\x7b' :: (u ++ ['\x7d'])) (.value (.object [])) := by
  intro fuel room r hfuel hr
  obtain ⟨fuel, rfl, hle⟩ := exists_fuel hfuel
  have htext : '\x7b' :: (u ++ ['\x7d']) ++ r = '\x7b' :: (u ++ '\x7d' :: r) := by simp
  rw [htext, value_object, skipSpace_append hu rfl]
  cases room <;> rfl

theorem within_map {α β : Type} (d room : Nat) (a : α) (r : List Char) (f : α → β) :
    (within d room a r).map (fun p => (f p.1, p.2)) = within d room (f a) r := by
  unfold within
  split <;> rfl

theorem accepted_list {js : List Json} (hu : Blanks u) (h : Written d t (.items js))
    (ih : Accepted d t (.items js)) : Accepted (d + 1) ('[' :: (u ++ t)) (.value (.list js)) := by
  intro fuel room r hfuel hr
  obtain ⟨fuel, rfl, hle⟩ := exists_fuel hfuel
  obtain ⟨c, v, htext, -, hclose, -⟩ := h.exists_first
  have hread := ih fuel (room - 1) r (by simp at hle; omega)
  rw [List.cons_append, List.append_assoc, value_list, h.skipSpace_eq hu]
  by_cases hroom : room = 0
  · subst hroom
    rfl
  rw [if_neg hroom]
  split
  · rename_i rest heq
    rw [htext] at heq
    cases heq
    exact absurd rfl hclose
  · rw [hread, within_map]
    simp only [within, show d + 1 ≤ room ↔ d ≤ room - 1 by omega]

theorem accepted_object {ms : List (String × Json)} (hu : Blanks u) (h : Written d t (.members ms))
    (ih : Accepted d t (.members ms)) :
    Accepted (d + 1) ('\x7b' :: (u ++ t)) (.value (.object (Entries.ofList ms))) := by
  intro fuel room r hfuel hr
  obtain ⟨fuel, rfl, hle⟩ := exists_fuel hfuel
  obtain ⟨c, v, htext, -, -, hclose⟩ := h.exists_first
  have hread := ih fuel (room - 1) r (by simp at hle; omega)
  rw [List.cons_append, List.append_assoc, value_object, h.skipSpace_eq hu]
  by_cases hroom : room = 0
  · subst hroom
    rfl
  rw [if_neg hroom]
  split
  · rename_i rest heq
    rw [htext] at heq
    cases heq
    exact absurd rfl hclose
  · rw [hread, within_map d _ ms r fun ms => object (Entries.ofList ms)]
    simp only [within, show d + 1 ≤ room ↔ d ≤ room - 1 by omega]

theorem accepted_lastItem (h : Accepted d t (.value j)) (hu : Blanks u) :
    Accepted d (t ++ (u ++ [']'])) (.items [j]) := by
  intro fuel room r hfuel
  obtain ⟨fuel, rfl, hle⟩ := exists_fuel hfuel
  have htext : t ++ (u ++ [']']) ++ r = t ++ (u ++ ']' :: r) := by simp
  have hread := h fuel room (u ++ ']' :: r) (by simp at hfuel; omega)
    (stops_append hu (stops_mark (by decide)))
  rw [htext, items_succ, hread]
  by_cases hd : d ≤ room
  · simp only [within, hd, if_true, skipSpace_append hu (c := ']') rfl]
  · simp only [within, hd, if_false]

theorem accepted_item {js : List Json} (h : Accepted d t (.value j)) (hu : Blanks u) (hv : Blanks v)
    (hs : Written e s (.items js)) (ih : Accepted e s (.items js)) :
    Accepted (max d e) (t ++ (u ++ ',' :: (v ++ s))) (.items (j :: js)) := by
  intro fuel room r hfuel
  obtain ⟨fuel, rfl, hle⟩ := exists_fuel hfuel
  simp only [List.length_append, List.length_cons] at hfuel
  have htext : t ++ (u ++ ',' :: (v ++ s)) ++ r = t ++ (u ++ ',' :: (v ++ (s ++ r))) := by simp
  have hread := h fuel room (u ++ ',' :: (v ++ (s ++ r))) (by omega)
    (stops_append hu (stops_mark (by decide)))
  rw [htext, items_succ, hread]
  by_cases hd : d ≤ room
  · simp only [within, hd, if_true, skipSpace_append hu (c := ',') rfl, hs.skipSpace_eq hv,
      ih fuel room r (by omega), Nat.max_le, true_and]
    by_cases he : e ≤ room <;> simp [he, Except.map]
  · have hmax : ¬max d e ≤ room := fun hle => hd (Nat.max_le.1 hle).1
    simp only [within, hd, hmax, if_false]

theorem members_entry {q : List Char} {k : String} (hk : stringRest q = .ok (k, [])) (hu : Blanks u)
    (hv : Blanks v) (h : Written d t (.value j)) (ih : Accepted d t (.value j))
    (hfuel : 2 * t.length + 1 ≤ fuel) (hr : Stops isMark r) :
    members (fuel + 1) room ('"' :: (q ++ (u ++ ':' :: (v ++ (t ++ r))))) =
      if d ≤ room then
        match skipSpace r with
        | '\x7d' :: more => .ok ([(k, j)], more)
        | ',' :: more => (members fuel room (skipSpace more)).map fun r => ((k, j) :: r.1, r.2)
        | _ => .error .malformed
      else .error .tooDeep := by
  obtain ⟨q, rfl, hreads⟩ := exists_string hk
  have hkey : stringRest (q ++ ['"'] ++ (u ++ ':' :: (v ++ (t ++ r)))) =
      .ok (k, u ++ ':' :: (v ++ (t ++ r))) := by
    rw [List.append_assoc]
    exact hreads _
  rw [members_quote, hkey]
  simp only [skipSpace_append hu (c := ':') rfl, h.skipSpace_eq hv, ih fuel room r hfuel hr]
  by_cases hd : d ≤ room
  · simp only [within, hd, if_true]
  · simp only [within, hd, if_false]

theorem accepted_lastMember {q w : List Char} {k : String} (hk : stringRest q = .ok (k, []))
    (hu : Blanks u) (hv : Blanks v) (h : Written d t (.value j)) (ih : Accepted d t (.value j))
    (hw : Blanks w) :
    Accepted d ('"' :: (q ++ (u ++ ':' :: (v ++ (t ++ (w ++ ['\x7d'])))))) (.members [(k, j)]) := by
  intro fuel room r hfuel
  obtain ⟨fuel, rfl, hle⟩ := exists_fuel hfuel
  simp only [List.length_append, List.length_cons] at hfuel
  have htext : '"' :: (q ++ (u ++ ':' :: (v ++ (t ++ (w ++ ['\x7d']))))) ++ r =
      '"' :: (q ++ (u ++ ':' :: (v ++ (t ++ (w ++ '\x7d' :: r))))) := by simp
  rw [htext, members_entry hk hu hv h ih (by omega) (stops_append hw (stops_mark (by decide))),
    skipSpace_append hw rfl]
  rfl

theorem accepted_member {q w x : List Char} {k : String} {ms : List (String × Json)}
    (hk : stringRest q = .ok (k, [])) (hu : Blanks u) (hv : Blanks v) (h : Written d t (.value j))
    (ih : Accepted d t (.value j)) (hw : Blanks w) (hx : Blanks x) (hs : Written e s (.members ms))
    (ihs : Accepted e s (.members ms)) :
    Accepted (max d e) ('"' :: (q ++ (u ++ ':' :: (v ++ (t ++ (w ++ ',' :: (x ++ s)))))))
      (.members ((k, j) :: ms)) := by
  intro fuel room r hfuel
  obtain ⟨fuel, rfl, hle⟩ := exists_fuel hfuel
  simp only [List.length_append, List.length_cons] at hfuel
  have htext : '"' :: (q ++ (u ++ ':' :: (v ++ (t ++ (w ++ ',' :: (x ++ s)))))) ++ r =
      '"' :: (q ++ (u ++ ':' :: (v ++ (t ++ (w ++ ',' :: (x ++ (s ++ r))))))) := by simp
  rw [htext, members_entry hk hu hv h ih (by omega) (stops_append hw (stops_mark (by decide))),
    skipSpace_append hw rfl]
  simp only [hs.skipSpace_eq hx, ihs fuel room r (by omega), within, Nat.max_le]
  by_cases hd : d ≤ room
  · by_cases he : e ≤ room <;> simp [hd, he, Except.map]
  · simp [hd]

theorem Written.accepted (h : Written d t p) : Accepted d t p := by
  induction h with
  | scalar h => exact accepted_scalar h
  | string h => exact accepted_string h
  | noItems hu => exact accepted_noItems hu
  | list hu h ih => exact accepted_list hu h ih
  | noMembers hu => exact accepted_noMembers hu
  | object hu h ih => exact accepted_object hu h ih
  | lastItem h hu ih => exact accepted_lastItem ih hu
  | item h hu hv hs ih ihs => exact accepted_item ih hu hv hs ihs
  | lastMember hk hu hv h hw ih => exact accepted_lastMember hk hu hv h ih hw
  | member hk hu hv h hw hx hs ih ihs => exact accepted_member hk hu hv h ih hw hx hs ihs

/-- A text of depth `d` that stands for a value. -/
def IsText (d : Nat) (cs : List Char) (j : Json) : Prop :=
  ∃ u t v, cs = u ++ (t ++ v) ∧ Blanks u ∧ Written d t (.value j) ∧ Blanks v

theorem Written.isText (h : Written d t (.value j)) : IsText d t j :=
  ⟨[], t, [], by simp, blanks_nil, h, blanks_nil⟩

theorem IsText.read_eq (h : IsText d cs j) :
    read limit cs = if d ≤ limit then .ok j else .error .tooDeep := by
  obtain ⟨u, t, v, rfl, hu, hwritten, hv⟩ := h
  have hstop : Stops isMark v := by
    simpa using stops_append (r := []) hv (by simp [Stops])
  have hread := hwritten.accepted (2 * (u ++ (t ++ v)).length + 2) limit v (by simp; omega) hstop
  rw [read, hwritten.skipSpace_eq hu, hread]
  by_cases hd : d ≤ limit
  · simp [within, hd, skipSpace_of_blanks hv]
  · simp [within, hd]

theorem read_eq_ok_iff : read limit cs = .ok j ↔ ∃ d ≤ limit, IsText d cs j := by
  constructor
  · intro h
    unfold read at h
    split at h
    · rename_i j' rest hvalue
      split at h
      · rename_i hrest
        cases h
        obtain ⟨u, hu, hcs⟩ := exists_blanks cs
        obtain ⟨v, hv, hr⟩ := exists_blanks rest
        obtain ⟨d, t, htext, hd, hwritten⟩ := (sound _).onValue hvalue
        rw [List.isEmpty_iff.1 hrest, List.append_nil] at hr
        rw [htext, hr] at hcs
        exact ⟨d, hd, u, t, v, hcs, hu, hwritten, hv⟩
      · cases h
    · cases h
  · rintro ⟨d, hd, h⟩
    rw [h.read_eq, if_pos hd]

end TestScaffold.Json
