import TestScaffold.Proofs.Pattern.Scanning
import TestScaffold.Proofs.Text.Words
import TestScaffold.Swift.Grammar

namespace TestScaffold.Swift

open Text Pattern

structure Identifier where
  first : Char
  rest : List Char
  first_ok : isNameStart first = true
  rest_ok : ∀ c ∈ rest, isNameChar c = true

namespace Identifier

def text (i : Identifier) : List Char := i.first :: i.rest

theorem isNameChar_of_mem (i : Identifier) : ∀ c ∈ i.text, isNameChar c = true := by
  rintro c hc
  rcases List.mem_cons.1 hc with rfl | hc
  · simp [isNameChar, i.first_ok]
  · exact i.rest_ok c hc

theorem isWordText (i : Identifier) : IsWordText i.text :=
  ⟨by simp [text], fun c hc => isWord_of_isNameChar (i.isNameChar_of_mem c hc)⟩

theorem not_isBlank_head? (i : Identifier) (r : List Char) :
    ∀ c ∈ (i.text ++ r).head?, isBlank c = false := by
  rintro c ⟨⟩
  exact isBlank_eq_false_of_isWord (i.isWordText.2 _ List.mem_cons_self)

end Identifier

namespace Grammar

variable {s t : Cursor Slot} {b : Option Char} {o : Nat} {r w : List Char}
  {k : List (Slot × Stretch)}

theorem over_blanks : blanks.Over fun c => isBlank c = true := fun _ h => h

theorem mem_blanks (h : t ∈ blanks.ways s) : ∃ u, s.Reads u t ∧ ∀ c ∈ u, isBlank c = true :=
  over_blanks.reads h

theorem mem_someBlanks (h : t ∈ someBlanks.ways s) :
    ∃ c u, s.Reads (c :: u) t ∧ isBlank c = true ∧ ∀ d ∈ u, isBlank d = true := by
  obtain ⟨m, hm, h⟩ := mem_seq.1 h
  obtain ⟨c, hc, hread⟩ := reads_one hm
  obtain ⟨u, hu, hub⟩ := mem_blanks h
  exact ⟨c, u, hread.trans hu, hc, hub⟩

theorem reads_char {c : Char} (h : t ∈ (Pattern.char c : Grammar).ways s) : s.Reads [c] t := by
  obtain ⟨d, hd, hread⟩ := reads_one h
  obtain rfl := eq_of_beq hd
  exact hread

theorem mem_char {c : Char} (h : t ∈ (Pattern.char c : Grammar).ways s) : s.ahead = c :: t.ahead :=
  (reads_char h).ahead

theorem mem_name (h : t ∈ name.ways s) : ∃ i : Identifier, s.Reads i.text t := by
  obtain ⟨m, hm, ht⟩ := mem_seq.1 h
  obtain ⟨c, hc, hfirst⟩ := reads_one hm
  have hover : (star (.one isNameChar) : Grammar).Over fun c => isNameChar c = true := fun _ h => h
  obtain ⟨u, hu, hrest⟩ := hover.reads ht
  exact ⟨⟨c, u, hc, hrest⟩, hfirst.trans hu⟩

theorem mem_wordEdge (h : t ∈ wordEdge.ways s) :
    (s.before.any isWord != s.ahead.head?.any isWord) = true ∧ t = s := mem_place.1 h

theorem free_of_wordEdge {w r : List Char} (h : t ∈ wordEdge.ways s) (hs : s.ahead = w ++ r)
    (hw : IsWordText w) : s.before.any isWord = false := by
  obtain ⟨c, v, rfl, hc⟩ := hw.head
  have hedge := (mem_wordEdge h).1
  simp only [hs, List.cons_append, List.head?_cons, Option.any_some, hc] at hedge
  simpa using hedge

def Keyword (w : List Char) (s : Cursor Slot) : Prop :=
  s.before.any isWord = false ∧ ∃ c r, s.ahead = w ++ c :: r ∧ isBlank c = true

theorem keyword_of_mem {w : String} {ps : List Grammar} (hw : IsWordText w.toList)
    (h : t ∈ (all (wordEdge :: lit w :: someBlanks :: ps)).ways s) : Keyword w.toList s := by
  obtain ⟨m₁, h₁, htail⟩ := mem_all_cons.1 h
  obtain ⟨m₂, h₂, htail⟩ := mem_all_cons.1 htail
  obtain ⟨m₃, h₃⟩ := mem_all_head htail
  obtain ⟨-, hm⟩ := mem_wordEdge h₁
  have hs := hm ▸ (reads_lit h₂).ahead
  obtain ⟨c, u, hblanks, hc, -⟩ := mem_someBlanks h₃
  refine ⟨free_of_wordEdge h₁ hs hw, c, u ++ m₃.ahead, ?_, hc⟩
  rw [hs, hblanks.ahead]
  rfl

def LedBy (w : List Char) (p : Grammar) : Prop := ∀ s, ∀ t ∈ p.ways s, Keyword w s

theorem prefers_wordEdge (hw : IsWordText w) (hb : b.any isWord = false) :
    wordEdge.Prefers ⟨b, o, w ++ r, k⟩ ⟨b, o, w ++ r, k⟩ := by
  obtain ⟨c, v, rfl, hc⟩ := hw.head
  exact prefers_place (by simp [hb, hc])

theorem prefers_blanks {u : List Char} (hu : ∀ c ∈ u, isBlank c = true)
    (hr : ∀ c ∈ r.head?, isBlank c = false) :
    blanks.Prefers ⟨b, o, u ++ r, k⟩ ⟨u.getLast?.or b, o + u.length, r, k⟩ :=
  prefers_run hu hr

theorem prefers_noBlanks (hr : ∀ c ∈ r.head?, isBlank c = false) :
    blanks.Prefers ⟨b, o, r, k⟩ ⟨b, o, r, k⟩ :=
  prefers_run_none hr

theorem prefers_space (hr : ∀ c ∈ r.head?, isBlank c = false) :
    blanks.Prefers ⟨b, o, ' ' :: r, k⟩ ⟨some ' ', o + 1, r, k⟩ :=
  prefers_blanks (u := [' ']) (by decide) hr

theorem prefers_someSpace (hr : ∀ c ∈ r.head?, isBlank c = false) :
    someBlanks.Prefers ⟨b, o, ' ' :: r, k⟩ ⟨some ' ', o + 1, r, k⟩ :=
  prefers_plus (u := []) (by decide) (by simp) hr

theorem prefers_name (i : Identifier) (hr : ∀ c ∈ r.head?, isNameChar c = false) :
    name.Prefers ⟨b, o, i.text ++ r, k⟩
      ⟨i.text.getLast?.or b, o + i.text.length, r, k⟩ := by
  rw [Identifier.text, last_cons, add_length_cons]
  exact (prefers_one i.first_ok).seq (prefers_run i.rest_ok hr)

namespace LedBy

variable {p : Grammar} {u : List Char} {c : Char}

theorem silent_text (h : LedBy w p) (hw : ∀ x ∈ w.head?, x ∉ u) (hne : w ≠ []) : p.Silent b u r := by
  rintro a d v rfl o
  refine List.eq_nil_iff_forall_not_mem.2 fun t ht => ?_
  obtain ⟨-, e, r', hahead, -⟩ := h _ t ht
  obtain ⟨x, w, rfl⟩ := List.exists_cons_of_ne_nil hne
  obtain ⟨rfl, -⟩ := List.cons.inj hahead
  exact hw d rfl (by simp)

theorem silent_word (h : LedBy w p) (hw : IsWordText w) (hu : ∀ x ∈ u, isWord x = true)
    (hword : isWord c = false) (hblank : isBlank c = false) : p.Silent b u (c :: r) := by
  rintro a d v rfl o
  refine List.eq_nil_iff_forall_not_mem.2 fun t ht => ?_
  obtain ⟨hfree, e, r', hahead, he⟩ := h _ t ht
  rcases List.eq_nil_or_concat a with rfl | ⟨a, x, rfl⟩
  · obtain ⟨-, rfl, -⟩ := run_unique hu hw.2 hword (isWord_eq_false_of_isBlank he) hahead
    simp [he] at hblank
  · have hx : isWord x = true := hu x (by simp)
    simp [hx] at hfree

end LedBy

end Grammar

end TestScaffold.Swift
