import TestScaffold.Text.Ranges

namespace TestScaffold.Text

/-- Tab to carriage return, the four ASCII separators and the space, NEL, and the space and line
separators of Unicode. The zero width space and the byte order mark are not blank. -/
def blankRanges : Ranges :=
  [(0x9, 0xd), (0x1c, 0x20), (0x85, 0x85), (0xa0, 0xa0), (0x1680, 0x1680), (0x2000, 0x200a),
   (0x2028, 0x2029), (0x202f, 0x202f), (0x205f, 0x205f), (0x3000, 0x3000)]

def isBlank (c : Char) : Bool := blankRanges.has c

def isWhite (c : Char) : Bool := isBlank c && !('\x1c' ≤ c && c ≤ '\x1f')

def dropEndWhile (p : Char → Bool) (cs : List Char) : List Char :=
  (cs.reverse.dropWhile p).reverse

def stripOf (p : Char → Bool) (cs : List Char) : List Char :=
  dropEndWhile p (cs.dropWhile p)

def strip (cs : List Char) : List Char := stripOf isBlank cs

def stripped (s : String) : String := String.ofList (strip s.toList)

def allBlank (cs : List Char) : Bool := cs.all isBlank

def blankText (s : String) : Bool := allBlank s.toList

def pieces (sep : Char → Bool) : List Char → List (List Char)
  | [] => [[]]
  | c :: cs => if sep c then [] :: pieces sep cs else (pieces sep cs).modifyHead (c :: ·)

def words (cs : List Char) : List (List Char) :=
  (pieces isBlank cs).filter (!·.isEmpty)

def wordsOf (s : String) : List String :=
  ((s.splitOn "\n").flatMap (·.splitOn " ")).filter (!·.isEmpty)

theorem dropEndWhile_append_of_neg {p : Char → Bool} {cs : List Char} {c : Char}
    (h : p c = false) : dropEndWhile p (cs ++ [c]) = cs ++ [c] := by
  simp [dropEndWhile, h]

theorem pieces_ne_nil (sep : Char → Bool) (cs : List Char) : pieces sep cs ≠ [] := by
  induction cs with
  | nil => simp [pieces]
  | cons c cs ih =>
    cases h : sep c with
    | true => simp [pieces, h]
    | false =>
      obtain ⟨w, ws, hw⟩ := List.exists_cons_of_ne_nil ih
      simp [pieces, h, hw]

theorem not_sep_of_mem_pieces {sep : Char → Bool} {cs w : List Char} {c : Char}
    (hw : w ∈ pieces sep cs) (hc : c ∈ w) : sep c = false := by
  induction cs generalizing w with
  | nil => simp_all [pieces]
  | cons d cs ih =>
    cases h : sep d with
    | true =>
      simp only [pieces, h, if_true, List.mem_cons] at hw
      rcases hw with rfl | hw
      · simp at hc
      · exact ih hw hc
    | false =>
      obtain ⟨v, vs, hv⟩ := List.exists_cons_of_ne_nil (pieces_ne_nil sep cs)
      simp only [pieces, h, hv, List.modifyHead_cons, Bool.false_eq_true, if_false,
        List.mem_cons] at hw
      rcases hw with rfl | hw
      · rcases List.mem_cons.1 hc with rfl | hc
        · exact h
        · exact ih (hv ▸ List.mem_cons_self) hc
      · exact ih (hv ▸ List.mem_cons_of_mem _ hw) hc

theorem ne_nil_of_mem_words {cs w : List Char} (h : w ∈ words cs) : w ≠ [] := by
  have := (List.mem_filter.1 h).2
  simpa using this

theorem isBlank_of_mem_words {cs w : List Char} {c : Char} (h : w ∈ words cs) (hc : c ∈ w) :
    isBlank c = false :=
  not_sep_of_mem_pieces (List.mem_filter.1 h).1 hc

end TestScaffold.Text
