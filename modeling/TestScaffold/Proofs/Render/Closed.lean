import TestScaffold.Proofs.Escalation.Outcomes
import TestScaffold.Proofs.Render.Forms
import TestScaffold.Proofs.Swift.ViewNames

namespace TestScaffold.Render

open Text Swift

def classBody (lines : List String) : String := "\n" ++ joinLines lines

def classEnd (m : ViewModel) (o : Options) : String := joinLines ("\x7d" :: suggestionsOf m o)

variable {x : String} {ls : List String} {fs : List LineForm} {m : ViewModel} {o : Options}

theorem upToClose_classBody (hforms : Forms fs ls) (hlevel : Level fs) (hne : ls ≠ []) :
    upToClose .code 0 (classBody ls ++ classEnd m o).toList = some (classBody ls).toList := by
  have hline : "\n".toList = ['\n'] := rfl
  have hlines : List.Forall₂ HasForm fs (ls.map String.toList) :=
    List.forall₂_map_right_iff.2 hforms
  have hend : ∃ rest, (classEnd m o).toList = '\x7d' :: rest := by
    rw [classEnd, toList_joinLines (List.cons_ne_nil _ _)]
    exact ⟨_, rfl⟩
  obtain ⟨rest, hend⟩ := hend
  -- The lines close all that they open, so the brace behind them is one too many.
  rw [String.toList_append, hend, classBody, String.toList_append, hline, List.append_assoc,
    List.singleton_append, upToClose_plain (by decide), toList_joinLines hne,
    upToClose_forms hlines (hlevel 0), upToClose_closed]
  simp

theorem joinLines_file (name : String) (hne : ls ≠ []) :
    joinLines (["import XCTest", "", classLine name] ++ ls ++ "\x7d" :: suggestionsOf m o) =
      "import XCTest\n\n" ++ classLine name ++ (classBody ls ++ classEnd m o) := by
  have himport : "import XCTest\n\n" = "import XCTest\n" ++ "\n" := by decide
  have hfront : joinLines ["import XCTest", "", classLine name] =
      "import XCTest\n\n" ++ classLine name ++ "\n" := by
    simp only [joinLines, String.intercalate_cons_cons, String.intercalate_singleton,
      String.empty_append, String.append_assoc, himport]
    rfl
  rw [joinLines_append (by simp) (by simp), joinLines_append (by simp) hne, hfront, classBody,
    classEnd]
  simp only [String.append_assoc]

theorem not_blankText_of_isName (h : IsName x) : blankText x = false := by
  obtain ⟨c, w, hcw, hc⟩ := h.head
  have hblank := isBlank_eq_false_of_isWord (isWord_of_isNameChar hc)
  rw [blankText, allBlank, hcw, List.all_cons, hblank, Bool.false_and]

theorem interfaceTests_of_isName (h : IsName m.name) :
    interfaceTests m o = .ok (joinLines (interfaceTestLines m o)) := by
  rw [interfaceTests, not_blankText_of_isName h]
  rfl

variable {window : Int} {source : String}

theorem interfaceTests_closed (h : buildView window source = .ok m) (o : Options) :
    (∃ lines,
      interfaceTests m o =
        .ok ("import XCTest\n\n" ++ classLine m.name ++ (classBody lines ++ classEnd m o)) ∧
      HasForm .opening (classLine m.name).toList ∧
      Forms (classForms (shapeOf m) o) lines ∧
      upToClose .code 0 (classBody lines ++ classEnd m o).toList = some (classBody lines).toList) ∧
    ∀ c : Coordinator, c.renderView = interfaceTests → ∀ n p, ¬ c.RenderingFails source o n p := by
  obtain ⟨hname, hstates⟩ := isName_of_buildView h
  obtain ⟨ls, hheader, hforms⟩ := forms_header o hname
  have hclass : Forms (classForms (shapeOf m) o) (ls ++ (sections m o).flatten) :=
    hforms.append (List.rel_flatten (forms_sections o hstates))
  have hne : ls ++ (sections m o).flatten ≠ [] := by
    intro hnil
    rw [hnil] at hclass
    cases hclass
  refine ⟨⟨_, ?_, hasForm_classLine hname, hclass,
    upToClose_classBody hclass (level_classForms _ o) hne⟩, ?_⟩
  · rw [interfaceTests_of_isName hname, interfaceTestLines_eq, hheader, ← joinLines_file _ hne]
    simp only [List.append_assoc]
  · intro c hc n p hfails
    obtain ⟨hn, -⟩ := isName_of_buildView hfails.found
    have hrendered := hfails.rendered
    rw [hc, interfaceTests_of_isName hn] at hrendered
    cases hrendered

def hostileSource : String :=
  "import SwiftUI\nstruct V: View \x7b\n@State var on: Bool = true\nvar body: some View \x7b\n" ++
    "Button(\"on \\\"\x7d // */\") \x7b \x7d\n\x7d\n\x7d\n"

def hostileView : ViewModel where
  name := "V"
  stateVariables := [("on", "Bool")]
  elements := [{ kind := .button, name := "on \\\"\x7d // */", hasAction := true, position := 1 }]
  rawBody := "\nButton(\"on \\\"\x7d // */\") \x7b \x7d\n"

theorem interfaceTests_closed_hostile :
    buildView 200 hostileSource = .ok hostileView ∧
    ∃ lines, interfaceTests hostileView {} =
        .ok ("import XCTest\n\n" ++ classLine "V" ++ (classBody lines ++ classEnd hostileView {})) ∧
      upToClose .code 0 (classBody lines ++ classEnd hostileView {}).toList =
        some (classBody lines).toList := by
  have hview : buildView 200 hostileSource = .ok hostileView := by
    have hfound : (buildView 200 hostileSource).toOption = some hostileView := by decide +kernel
    cases hb : buildView 200 hostileSource with
    | error p => simp [hb, Except.toOption] at hfound
    | ok m => simpa [hb, Except.toOption] using hfound
  obtain ⟨⟨lines, htext, -, -, hclose⟩, -⟩ := interfaceTests_closed hview {}
  exact ⟨hview, lines, htext, hclose⟩

end TestScaffold.Render
