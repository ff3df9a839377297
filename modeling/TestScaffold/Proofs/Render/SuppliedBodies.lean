import TestScaffold.Proofs.Render.TestNames

namespace TestScaffold.Text

variable {cs : List Char}

def OneBreak (cs : List Char) : Prop := ∀ c ∈ cs, isLineBreak c = true → c = '\n'

instance (cs : List Char) : Decidable (OneBreak cs) :=
  inferInstanceAs (Decidable (∀ c ∈ cs, isLineBreak c = true → c = '\n'))

theorem lines_eq_pieces (h : OneBreak cs) (hne : cs ≠ []) (hlast : cs.getLast? ≠ some '\n') :
    lines cs = pieces (· == '\n') cs := by
  induction cs with
  | nil => exact absurd rfl hne
  | cons c cs ih =>
    have hreturn : c ≠ '\r' := by
      rintro rfl
      exact absurd (h '\r' List.mem_cons_self (by decide)) (by decide)
    have hbreak : isLineBreak c = (c == '\n') := by
      rw [Bool.eq_iff_iff, beq_iff_eq]
      refine ⟨h c List.mem_cons_self, ?_⟩
      rintro rfl
      decide
    rw [lines, hbreak, pieces]
    · rcases eq_or_ne cs [] with rfl | hcs
      · have hc : c ≠ '\n' := by simpa using hlast
        simp [hc, lines, pieces]
      · have hrest : lines cs = pieces (· == '\n') cs := by
          refine ih (fun d hd => h d (List.mem_cons_of_mem c hd)) hcs ?_
          rwa [List.getLast?_cons_of_ne_nil hcs] at hlast
        obtain ⟨l, ls, hpieces⟩ := List.exists_cons_of_ne_nil (pieces_ne_nil (· == '\n') cs)
        rw [hrest, hpieces]
        rfl
    · exact fun _ hc => absurd hc hreturn

end TestScaffold.Text

namespace TestScaffold.Render

open Text

structure TestFunction where
  unit : String
  isAsync : Bool
  throws : Bool
  inside : List String
  deriving DecidableEq

/-- The lines of a body: no line feeds before and behind it, and eight spaces before every line that is
not blank. -/
def givenLines (body : String) : List String :=
  let text := stripOf (· == '\n') body.toList
  if text.isEmpty then []
  else (pieces (· == '\n') text).map fun l =>
    if allBlank l then String.ofList l else "        " ++ String.ofList l

namespace TestFunction

def opening (t : TestFunction) : String :=
  "    func test" ++ capitalizeFirst t.unit ++ "()" ++ (if t.isAsync then " async" else "") ++
    (if t.throws then " throws" else "") ++ " \x7b"

def block (t : TestFunction) : List String := "" :: t.opening :: (t.inside ++ ["    \x7d"])

def withBody (t : TestFunction) (body : String) : TestFunction :=
  { t with throws := true, inside := givenLines body }

def supplied (bodies : Entries String) (t : TestFunction) : TestFunction :=
  ((bodies.get? t.unit).map t.withBody).getD t

end TestFunction

def subjectOf (m : DeclarationModel) : String := m.subject?.getD "<#SystemUnderTest#>"

def classFront (m : DeclarationModel) : List String :=
  ["import XCTest", "", "class " ++ m.subject?.getD "Generated" ++ "Tests: XCTestCase \x7b"] ++
    if m.isEmpty then [] else fixture (subjectOf m)

def writtenTest (m : DeclarationModel) (u : Fact) : TestFunction :=
  ⟨u.name, u.isAsync, u.isThrowing, (statements (subjectOf m) u).map (indented 2)⟩

def writtenTests (m : DeclarationModel) : List TestFunction := m.units.map (writtenTest m)

def testClass (m : DeclarationModel) (ts : List TestFunction) : String :=
  joinLines (classFront m ++ (ts.flatMap TestFunction.block ++ ["\x7d"]))

variable {m : DeclarationModel} {bodies : Entries String} {body l : String}

theorem bodyLines_eq (h : OneBreak body.toList) : bodyLines body = givenLines body := by
  rw [bodyLines, givenLines]
  rcases eq_or_ne (stripOf (· == '\n') body.toList) [] with hnil | hne
  · simp [hnil, lines]
  · have hbreak : OneBreak (stripOf (· == '\n') body.toList) :=
      fun c hc => h c (stripOf_subset _ _ hc)
    have hlast : (stripOf (· == '\n') body.toList).getLast? ≠ some '\n' :=
      fun hc => absurd (getLast?_stripOf _ _ '\n' hc) (by decide)
    rw [lines_eq_pieces hbreak hne hlast]
    simp [hne, indentedUnlessBlank, indented, blankText]

theorem length_givenLines (body : String) : (givenLines body).length =
    if stripOf (· == '\n') body.toList = [] then 0
    else (stripOf (· == '\n') body.toList).count '\n' + 1 := by
  rw [givenLines]
  rcases eq_or_ne (stripOf (· == '\n') body.toList) [] with hnil | hne
  · simp [hnil]
  · simp [hne, length_pieces, List.count]

theorem newline_not_mem_givenLines (hl : l ∈ givenLines body) : '\n' ∉ l.toList := by
  simp only [givenLines] at hl
  split at hl
  · cases hl
  · obtain ⟨w, hw, rfl⟩ := List.mem_map.1 hl
    have hfree : '\n' ∉ w := fun hc => absurd (not_sep_of_mem_pieces hw hc) (by decide)
    split
    · simpa using hfree
    · simpa using hfree

theorem block_supplied {u : Fact} (h : ∀ body, bodies.get? u.name = some body → OneBreak body.toList) :
    "" :: unitTest (subjectOf m) (bodies.get? u.name) u =
      ((writtenTest m u).supplied bodies).block := by
  have hblock (given : Bool) (inside : List String) :
      "" :: indented 1 (signature u given) :: (inside ++ [indented 1 "\x7d"]) =
        TestFunction.block ⟨u.name, u.isAsync, u.isThrowing || given, inside⟩ := by
    have htest : "    func test" = String.ofList (List.replicate (4 * 1) ' ') ++ ("func " ++ "test") := rfl
    have hopening : indented 1 (signature u given) =
        TestFunction.opening ⟨u.name, u.isAsync, u.isThrowing || given, inside⟩ := by
      -- Not `rw`: the equation of a chain of appended texts takes seconds to derive.
      delta TestFunction.opening indented signature testName
      rw [htest]
      simp only [String.append_assoc]
    rw [hopening]
    rfl
  rw [unitTest_eq, hblock]
  cases hb : bodies.get? u.name with
  | none =>
    have hsame : (writtenTest m u).supplied bodies = writtenTest m u :=
      congrArg (fun body? => (body?.map (writtenTest m u).withBody).getD (writtenTest m u)) hb
    rw [hsame, Option.isSome_none, Bool.or_false]
    rfl
  | some body =>
    have hgiven : (writtenTest m u).supplied bodies = (writtenTest m u).withBody body :=
      congrArg (fun body? => (body?.map (writtenTest m u).withBody).getD (writtenTest m u)) hb
    have hinside : insideTest (subjectOf m) (some body) u = givenLines body := bodyLines_eq (h body hb)
    rw [hgiven, hinside, Option.isSome_some, Bool.or_true]
    rfl

theorem unitTests_eq_testClass (h : ∀ k body, bodies.get? k = some body → OneBreak body.toList) :
    unitTests m bodies = testClass m ((writtenTests m).map (·.supplied bodies)) := by
  have hblocks : m.units.flatMap (fun u => "" :: unitTest (subjectOf m) (bodies.get? u.name) u) =
      ((writtenTests m).map (·.supplied bodies)).flatMap TestFunction.block := by
    rw [writtenTests, List.flatMap_map, List.flatMap_map]
    exact List.flatMap_congr fun u _ => block_supplied (h u.name)
  rw [unitTests, unitTestLines, testClass, ← hblocks, classFront]
  cases hm : m.isEmpty with
  | true =>
    have hunits : m.units = [] := List.isEmpty_iff.1 hm
    simp [hunits]
  | false => simp [subjectOf]

def loader : DeclarationModel where
  units := [
    { kind := .function, name := "load", position := 0, modifiers := ["async"] },
    { kind := .property, name := "size", position := 1, declaredType := some "Int" }]
  typeName := some "Loader"

def loaderBodies : Entries String := [("load", "\n\nlet x = 1\n  \ntry use(x)\n"), ("store", "store()")]

end TestScaffold.Render
