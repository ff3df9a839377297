import TestScaffold.Proofs.Pattern.Scanning
import TestScaffold.Proofs.Swift.Body
import TestScaffold.Proofs.Text.Marks

/-!
The grammar of a body. A body is a run of lexemes and of bodies between braces; what the search for its
end accepts is exactly a body that a closing brace follows.
-/

namespace TestScaffold.Swift

open Pattern

def tripleQuote : List Char := ['"', '"', '"']

/-- `t` is the lexeme read first from `t ++ r`. A triple quote takes precedence over a quote, and a
comment over a slash. -/
inductive Lexeme : List Char → List Char → Prop
  | block {u r : List Char} (first : ¬ tripleQuote <:+: u ++ ['"', '"']) :
      Lexeme (tripleQuote ++ (u ++ tripleQuote)) r
  | string {u r : List Char} {e : Char} (units : StringUnits u) (ending : e = '"' ∨ e = '\n')
      (single : ¬ tripleQuote <+: '"' :: (u ++ e :: r)) : Lexeme ('"' :: (u ++ [e])) r
  | comment {u r : List Char} (line : '\n' ∉ u) : Lexeme ('/' :: '/' :: (u ++ ['\n'])) r
  | other {c : Char} {r : List Char} (quote : c ≠ '"') (opening : c ≠ '\x7b') (closing : c ≠ '\x7d')
      (slash : ¬ ['/', '/'] <+: c :: r) : Lexeme [c] r

inductive IsBody : List Char → Prop
  | nil : IsBody []
  | lexeme {t r : List Char} (head : Lexeme t r) (rest : IsBody r) : IsBody (t ++ r)
  | braces {u r : List Char} (inside : IsBody u) (rest : IsBody r) :
      IsBody ('\x7b' :: (u ++ '\x7d' :: r))

variable {d : Nat} {c : Char} {cs r s t u w x : List Char}

theorem lexeme_close_iff : Lexeme t (r ++ '\x7d' :: x) ↔ Lexeme t r := by
  -- Nothing that is looked for ahead of a lexeme has a closing brace in it.
  have cut {w v : List Char} (hw : '\x7d' ∉ w) : w <+: v ++ '\x7d' :: x ↔ w <+: v :=
    ⟨fun h => Text.prefix_of_prefix_append h hw, fun h => h.trans (List.prefix_append v _)⟩
  constructor
  · intro h
    cases h with
    | block first => exact .block first
    | @string u _ e units ending single =>
      refine .string units ending fun h => single ?_
      have h' := (cut (v := '"' :: (u ++ e :: r)) (by decide)).2 h
      simpa using h'
    | comment line => exact .comment line
    | @other c _ quote opening closing slash =>
      exact .other quote opening closing fun h => slash ((cut (v := c :: r) (by decide)).2 h)
  · intro h
    cases h with
    | block first => exact .block first
    | @string u _ e units ending single =>
      refine .string units ending fun h => single ?_
      have h' : tripleQuote <+: '"' :: (u ++ e :: r) ++ '\x7d' :: x := by simpa using h
      exact (cut (by decide)).1 h'
    | comment line => exact .comment line
    | @other c _ quote opening closing slash =>
      exact .other quote opening closing fun h => slash ((cut (v := c :: r) (by decide)).1 h)

theorem upToClose_comment (line : '\n' ∉ u) :
    upToClose .comment d (u ++ '\n' :: r) = (upToClose .code d r).map (u ++ '\n' :: ·) := by
  induction u with
  | nil => simp [upToClose]
  | cons c u ih =>
    simp only [List.mem_cons, not_or] at line
    have hc : (c == '\n') = false := by simpa using Ne.symm line.1
    rw [List.cons_append, upToClose, hc, ih line.2, Option.map_map]
    rfl

theorem upToClose_comment_none (line : '\n' ∉ u) : upToClose .comment d u = none := by
  induction u with
  | nil => simp [upToClose]
  | cons c u ih =>
    simp only [List.mem_cons, not_or] at line
    have hc : (c == '\n') = false := by simpa using Ne.symm line.1
    rw [upToClose, hc, ih line.2]
    rfl

theorem exists_stringUnits (d : Nat) (cs : List Char) :
    (∃ u e r, cs = u ++ e :: r ∧ StringUnits u ∧ (e = '"' ∨ e = '\n')) ∨
      upToClose .string d cs = none := by
  induction hn : cs.length using Nat.strongRecOn generalizing cs with
  | _ n ih =>
    subst hn
    cases cs with
    | nil => exact .inr (by simp [upToClose])
    | cons c cs =>
      by_cases hending : c = '"' ∨ c = '\n'
      · exact .inl ⟨[], c, cs, rfl, .nil, hending⟩
      obtain ⟨quote, line⟩ := not_or.1 hending
      by_cases slash : c = '\\'
      · subst slash
        cases cs with
        | nil => exact .inr (by simp [upToClose])
        | cons a cs =>
          rcases ih cs.length (by simp only [List.length_cons]; omega) cs rfl with
            ⟨u, e, r, rfl, units, ending⟩ | hnone
          · exact .inl ⟨'\\' :: a :: u, e, r, rfl, .escape units, ending⟩
          · exact .inr (by rw [upToClose_escape, hnone]; rfl)
      · rcases ih cs.length (by simp) cs rfl with ⟨u, e, r, rfl, units, ending⟩ | hnone
        · exact .inl ⟨c :: u, e, r, rfl, .plain quote slash line units, ending⟩
        · exact .inr (by rw [upToClose_unit quote slash line, hnone]; rfl)

theorem upToClose_blockEnd :
    upToClose .block d (tripleQuote ++ r) = (upToClose .code d r).map (tripleQuote ++ ·) := by
  rw [tripleQuote, List.cons_append, List.cons_append, List.cons_append, List.nil_append, upToClose]
  rfl

theorem upToClose_blockChar (h : ¬ tripleQuote <+: c :: r) :
    upToClose .block d (c :: r) = (upToClose .block d r).map (c :: ·) := by
  rw [upToClose.eq_def]
  simp only
  split
  · exact absurd (List.prefix_append tripleQuote _) h
  · rfl

theorem upToClose_block (first : ¬ tripleQuote <:+: u ++ ['"', '"']) :
    upToClose .block d (u ++ (tripleQuote ++ r)) =
      (upToClose .code d r).map fun x => u ++ (tripleQuote ++ x) := by
  induction u with
  | nil => exact upToClose_blockEnd
  | cons c u ih =>
    have hrest : ¬ tripleQuote <:+: u ++ ['"', '"'] := fun h =>
      first (h.trans (List.suffix_cons c _).isInfix)
    have hhead : ¬ tripleQuote <+: c :: (u ++ (tripleQuote ++ r)) := by
      -- The first three of these characters stand before the last quote of the ending.
      intro h
      have hsplit : c :: (u ++ (tripleQuote ++ r)) = (c :: u ++ ['"', '"']) ++ '"' :: r := by
        simp [tripleQuote]
      rw [hsplit] at h
      have hlength : tripleQuote.length ≤ (c :: u ++ ['"', '"']).length := by
        simp [tripleQuote]
      exact first (List.prefix_of_prefix_length_le h (List.prefix_append _ _) hlength).isInfix
    rw [List.cons_append, upToClose_blockChar hhead, ih hrest, Option.map_map]
    rfl

theorem exists_block (d : Nat) (cs : List Char) :
    (∃ u r, cs = u ++ (tripleQuote ++ r) ∧ ¬ tripleQuote <:+: u ++ ['"', '"']) ∨
      upToClose .block d cs = none := by
  induction cs with
  | nil => exact .inr (by simp [upToClose])
  | cons c cs ih =>
    by_cases h : tripleQuote <+: c :: cs
    · obtain ⟨r, hr⟩ := h
      exact .inl ⟨[], r, hr.symm, by decide⟩
    rcases ih with ⟨u, r, rfl, first⟩ | hnone
    · refine .inl ⟨c :: u, r, rfl, fun hinfix => ?_⟩
      rcases List.infix_cons_iff.1 hinfix with hstart | hinfix
      · refine h (hstart.trans ?_)
        simp [tripleQuote]
      · exact first hinfix
    · exact .inr (by rw [upToClose_blockChar h, hnone]; rfl)

inductive Round : Nat → List Char → Nat → List Char → Prop
  | lexeme {d : Nat} {t r : List Char} (h : Lexeme t r) : Round d (t ++ r) d r
  | opening {d : Nat} {r : List Char} : Round d ('\x7b' :: r) (d + 1) r
  | closing {d : Nat} {r : List Char} : Round (d + 1) ('\x7d' :: r) d r

theorem upToClose_singleQuote (single : ¬ tripleQuote <+: '"' :: r) :
    upToClose .code d ('"' :: r) = (upToClose .string d r).map ('"' :: ·) := by
  rw [upToClose.eq_def]
  simp only
  split
  · exact absurd (List.prefix_append tripleQuote _) single
  all_goals simp_all

theorem upToClose_tripleQuote :
    upToClose .code d (tripleQuote ++ r) = (upToClose .block d r).map (tripleQuote ++ ·) := by
  rw [tripleQuote, List.cons_append, List.cons_append, List.cons_append, List.nil_append, upToClose]
  rfl

theorem upToClose_slashes :
    upToClose .code d ('/' :: '/' :: r) = (upToClose .comment d r).map ('/' :: '/' :: ·) := by
  rw [upToClose]
  rfl

theorem upToClose_lexeme (h : Lexeme t r) :
    upToClose .code d (t ++ r) = (upToClose .code d r).map (t ++ ·) := by
  cases h with
  | @block u _ first =>
    rw [List.append_assoc, List.append_assoc, upToClose_tripleQuote,
      upToClose_block first, Option.map_map]
    simp [Function.comp_def]
  | @string u _ e units ending single =>
    rw [List.cons_append, List.append_assoc, List.singleton_append, upToClose_singleQuote single,
      upToClose_units units ending, Option.map_map]
    simp [Function.comp_def]
  | @comment u _ line =>
    rw [List.cons_append, List.cons_append, List.append_assoc, List.singleton_append,
      upToClose_slashes, upToClose_comment line, Option.map_map]
    simp [Function.comp_def]
  | @other c _ quote opening closing slash =>
    rw [List.singleton_append, upToClose.eq_def]
    simp only
    split
    · exact absurd rfl quote
    · exact absurd rfl quote
    · exact absurd (List.prefix_append ['/', '/'] _) slash
    · exact absurd rfl opening
    · exact absurd rfl closing
    · rfl

theorem upToClose_opening :
    upToClose .code d ('\x7b' :: r) = (upToClose .code (d + 1) r).map ('\x7b' :: ·) := by
  rw [upToClose.eq_def]
  rfl

theorem upToClose_closing :
    upToClose .code (d + 1) ('\x7d' :: r) = (upToClose .code d r).map ('\x7d' :: ·) := by
  rw [upToClose.eq_def]
  rfl

theorem upToClose_closed : upToClose .code 0 ('\x7d' :: r) = some [] := by
  rw [upToClose.eq_def]
  rfl

theorem exists_lexeme (d : Nat) (c : Char) (cs : List Char) :
    c = '\x7b' ∨ c = '\x7d' ∨ (∃ t r, c :: cs = t ++ r ∧ Lexeme t r) ∨
      upToClose .code d (c :: cs) = none := by
  by_cases opening : c = '\x7b'
  · exact .inl opening
  by_cases closing : c = '\x7d'
  · exact .inr (.inl closing)
  refine .inr (.inr ?_)
  by_cases hblock : tripleQuote <+: c :: cs
  · obtain ⟨v, hv⟩ := hblock
    rcases exists_block d v with ⟨u, r, rfl, first⟩ | hnone
    · exact .inl ⟨_, r, by rw [← hv, List.append_assoc, List.append_assoc], .block first⟩
    · refine .inr ?_
      rw [← hv, upToClose_tripleQuote, hnone]
      rfl
  by_cases quote : c = '"'
  · subst quote
    rcases exists_stringUnits d cs with ⟨u, e, r, rfl, units, ending⟩ | hnone
    · exact .inl ⟨'"' :: (u ++ [e]), r, by simp, .string units ending hblock⟩
    · refine .inr ?_
      rw [upToClose_singleQuote hblock, hnone]
      rfl
  by_cases slash : ['/', '/'] <+: c :: cs
  · obtain ⟨v, hv⟩ := slash
    rw [← hv]
    by_cases line : '\n' ∈ v
    · obtain ⟨u, r, rfl, hu⟩ := List.eq_append_cons_of_mem line
      exact .inl ⟨'/' :: '/' :: (u ++ ['\n']), r, by simp, .comment hu⟩
    · refine .inr ?_
      rw [List.cons_append, List.cons_append, List.nil_append, upToClose_slashes,
        upToClose_comment_none line]
      rfl
  · exact .inl ⟨[c], cs, rfl, .other quote opening closing slash⟩

theorem Lexeme.ne_nil (h : Lexeme t r) : t ≠ [] := by
  cases h <;> simp [tripleQuote]

theorem Round.reads {d' : Nat} (h : Round d cs d' r) : ∃ t, t ≠ [] ∧ cs = t ++ r ∧
    upToClose .code d cs = (upToClose .code d' r).map (t ++ ·) := by
  cases h with
  | lexeme h => exact ⟨_, h.ne_nil, rfl, upToClose_lexeme h⟩
  | opening => exact ⟨['\x7b'], by simp, rfl, upToClose_opening⟩
  | closing => exact ⟨['\x7d'], by simp, rfl, upToClose_closing⟩

theorem Round.shorter {d' : Nat} (h : Round d cs d' r) : r.length < cs.length := by
  obtain ⟨t, ht, rfl, -⟩ := h.reads
  have hlength : 0 < t.length := List.length_pos_iff.2 ht
  rw [List.length_append]
  omega

theorem round_or_stop (d : Nat) (cs : List Char) :
    (∃ d' r, Round d cs d' r) ∨ (d = 0 ∧ ∃ r, cs = '\x7d' :: r) ∨ upToClose .code d cs = none := by
  cases cs with
  | nil => exact .inr (.inr (by simp [upToClose]))
  | cons c cs =>
    rcases exists_lexeme d c cs with rfl | rfl | ⟨t, r, heq, h⟩ | hnone
    · exact .inl ⟨_, _, .opening⟩
    · cases d with
      | zero => exact .inr (.inl ⟨rfl, _, rfl⟩)
      | succ d => exact .inl ⟨_, _, .closing⟩
    · exact .inl ⟨d, r, heq ▸ .lexeme h⟩
    · exact .inr (.inr hnone)

inductive Closes : Nat → List Char → Prop
  | last {s : List Char} (h : IsBody s) : Closes 0 s
  | next {d : Nat} {u s : List Char} (h : IsBody u) (rest : Closes d s) :
      Closes (d + 1) (u ++ '\x7d' :: s)

theorem Closes.lexeme (h : Lexeme t (s ++ '\x7d' :: x)) (hs : Closes d s) : Closes d (t ++ s) := by
  cases hs with
  | last hbody => exact .last (.lexeme (lexeme_close_iff.1 h) hbody)
  | @next d u v hbody rest =>
    rw [← List.append_assoc]
    refine .next (.lexeme ?_ hbody) rest
    rw [List.append_assoc, List.cons_append] at h
    exact lexeme_close_iff.1 h

theorem Closes.opening (hs : Closes (d + 1) s) : Closes d ('\x7b' :: s) := by
  cases hs with
  | @next d u v hbody rest =>
    cases rest with
    | last hlast => exact .last (.braces hbody hlast)
    | @next d w v hnext rest =>
      have hsplit : '\x7b' :: (u ++ '\x7d' :: (w ++ '\x7d' :: v)) =
          ('\x7b' :: (u ++ '\x7d' :: w)) ++ '\x7d' :: v := by simp
      rw [hsplit]
      exact .next (.braces hbody hnext) rest

theorem Closes.closing (hs : Closes d s) : Closes (d + 1) ('\x7d' :: s) := .next .nil hs

theorem Round.closes {d' : Nat} {v : List Char} (h : Round d cs d' r) (hcs : cs = t ++ r)
    (hr : r = v ++ '\x7d' :: x) (hv : Closes d' v) : Closes d (t ++ v) := by
  cases h with
  | lexeme h =>
    obtain rfl := List.append_cancel_right hcs
    exact (hr ▸ hv.lexeme) h
  | opening =>
    obtain rfl : ['\x7b'] = t := List.append_cancel_right (by simpa using hcs)
    exact hv.opening
  | closing =>
    obtain rfl : ['\x7d'] = t := List.append_cancel_right (by simpa using hcs)
    exact hv.closing

theorem exists_closes (h : upToClose .code d cs = some s) :
    ∃ r, cs = s ++ '\x7d' :: r ∧ Closes d s := by
  -- A round leaves less ahead, whatever it does to the braces that are open.
  induction hn : cs.length using Nat.strongRecOn generalizing cs d s with
  | _ n ih =>
    subst hn
    rcases round_or_stop d cs with ⟨d', r, hround⟩ | ⟨rfl, r, rfl⟩ | hnone
    · obtain ⟨t, -, heq, hsearch⟩ := hround.reads
      rw [hsearch, Option.map_eq_some_iff] at h
      obtain ⟨v, hv, rfl⟩ := h
      obtain ⟨x, hx, hcloses⟩ := ih r.length hround.shorter hv rfl
      exact ⟨x, by rw [heq, hx, List.append_assoc], hround.closes heq hx hcloses⟩
    · rw [upToClose_closed] at h
      obtain rfl : s = [] := (Option.some.inj h).symm
      exact ⟨r, rfl, .last .nil⟩
    · rw [hnone] at h
      cases h

theorem upToClose_body (h : IsBody u) : upToClose .code d (u ++ '\x7d' :: r) =
    (upToClose .code d ('\x7d' :: r)).map (u ++ ·) := by
  induction h generalizing d r with
  | nil => simp
  | lexeme head rest ih =>
    rw [List.append_assoc, upToClose_lexeme (lexeme_close_iff.2 head), ih, Option.map_map]
    simp [Function.comp_def]
  | @braces u v inside rest ihu ihv =>
    have hopen : upToClose .code d ('\x7b' :: (u ++ '\x7d' :: (v ++ '\x7d' :: r))) =
        (upToClose .code d (v ++ '\x7d' :: r)).map fun y => '\x7b' :: (u ++ '\x7d' :: y) := by
      rw [upToClose_opening, ihu, upToClose_closing, Option.map_map, Option.map_map]
      rfl
    simp only [List.cons_append, List.append_assoc]
    rw [hopen, ihv, Option.map_map]
    rfl

theorem upToClose_eq_some_iff :
    upToClose .code 0 cs = some s ↔ IsBody s ∧ ∃ r, cs = s ++ '\x7d' :: r := by
  constructor
  · intro h
    obtain ⟨r, hr, hcloses⟩ := exists_closes h
    cases hcloses with
    | last hbody => exact ⟨hbody, r, hr⟩
  · rintro ⟨hbody, r, rfl⟩
    rw [upToClose_body hbody, upToClose_closed]
    simp

/-- `s` stands behind the first opening of a body, up to a brace, and is derived from the grammar. -/
def IsBodyOf (text s : List Char) : Prop :=
  ∃ m r, Grammar.bodyOpening.Leftmost text m ∧ text.drop m.stop = s ++ '\x7d' :: r ∧ IsBody s

theorem body?_eq_some_iff {text : List Char} : body? text = some s ↔ IsBodyOf text s := by
  constructor
  · intro h
    unfold body? at h
    cases hm : Grammar.bodyOpening.search? text with
    | none =>
      rw [hm] at h
      cases h
    | some m =>
      rw [hm] at h
      obtain ⟨hbody, r, hr⟩ := upToClose_eq_some_iff.1 h
      exact ⟨m, r, search?_eq_some_iff.1 hm, hr, hbody⟩
  · rintro ⟨m, r, hm, hr, hbody⟩
    rw [body?, search?_eq_some_iff.2 hm]
    exact upToClose_eq_some_iff.2 ⟨hbody, r, hr⟩

/-- What the search comes to at a place: it is done, it is lost, or it goes on behind what one round
reads. -/
inductive Advances (d : Nat) (cs : List Char) : Prop
  | done (depth : d = 0) {r : List Char} (ahead : cs = '\x7d' :: r)
      (found : upToClose .code d cs = some [])
  | lost (found : upToClose .code d cs = none)
  | round {t r : List Char} {d' : Nat} (step : Round d cs d' r) (ahead : cs = t ++ r)
      (shorter : r.length < cs.length)
      (found : upToClose .code d cs = (upToClose .code d' r).map (t ++ ·))

theorem advances (d : Nat) (cs : List Char) : Advances d cs := by
  rcases round_or_stop d cs with ⟨d', r, hround⟩ | ⟨rfl, r, rfl⟩ | hnone
  · obtain ⟨t, -, hcs, hsearch⟩ := hround.reads
    exact .round hround hcs hround.shorter hsearch
  · exact .done rfl rfl upToClose_closed
  · exact .lost hnone

/-- The body of a text is the one text that the grammar allows behind the first opening, if there is
any, and the search for it advances with every round. -/
theorem body?_iff_grammar (text : List Char) :
    (∀ s, body? text = some s ↔ IsBodyOf text s) ∧
      (∀ s s', IsBodyOf text s → IsBodyOf text s' → s = s') ∧
      (body? text = none ↔ ∀ s, ¬ IsBodyOf text s) ∧
      ∀ d cs, Advances d cs := by
  refine ⟨fun s => body?_eq_some_iff, ?_, ?_, advances⟩
  · intro s s' h h'
    have hsome : some s = some s' := (body?_eq_some_iff.2 h).symm.trans (body?_eq_some_iff.2 h')
    exact Option.some.inj hsome
  · rw [Option.eq_none_iff_forall_ne_some]
    exact forall_congr' fun s => not_congr body?_eq_some_iff

example : body? "var body: some View \x7b Text(\"\x7d\") // \x7d\n \x7d".toList =
    some " Text(\"\x7d\") // \x7d\n ".toList := by
  decide +kernel

end TestScaffold.Swift
