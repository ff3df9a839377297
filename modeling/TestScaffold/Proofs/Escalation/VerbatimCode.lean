import TestScaffold.Proofs.Escalation.Outcomes
import TestScaffold.Proofs.Render.Closed
import TestScaffold.Proofs.Reply.Fences

namespace TestScaffold

open Text Render Prompt Reply FencePattern Coordinator

structure FencedCode where
  before : List Char
  tag : List Char
  code : List Char
  after : List Char
  before_blank : ∀ c ∈ before, isBlank c = true
  tag_ok : ∀ c ∈ tag, isTagChar c = true
  stripped : strip code = code
  ne_nil : code ≠ []
  after_blank : ∀ c ∈ after, isBlank c = true

namespace FencedCode

variable (r : FencedCode)

def text : String := String.ofList (r.before ++ (fencedText r.tag r.code ++ r.after))

def answer : Code := ⟨String.ofList r.code, languageOf r.tag⟩

structure NotJson : Prop where
  tag : lowercased (String.ofList r.tag) ≠ "json"
  code : r.code.head? ≠ some '\x7b'

theorem wholeBlock?_text : wholeBlock? r.text.toList = some r.answer := by
  have hne : strip r.code ≠ [] := by
    rw [r.stripped]
    exact r.ne_nil
  rw [text, String.toList_ofList,
    wholeBlock?_fencedText r.before_blank r.after_blank r.tag_ok hne, r.stripped]
  rfl

theorem parseCode_text (provider : String) : parseCode provider r.text = .ok r.answer := by
  rw [parseCode, wholeBlock?_text]

variable {r}

theorem looksLikeJson_answer (h : r.NotJson) : looksLikeJson r.answer = false := by
  rw [answer, looksLikeJson_eq (not_isBlank_head?_strip r.stripped), getD_languageOf]
  simp [h.tag, h.code]

theorem parseView_text (h : r.NotJson) (limit : Nat) (provider : String) :
    parseView limit provider r.text = .ok (.code r.answer) := by
  rw [parseView, wholeBlock?_text, Option.filter_some, looksLikeJson_answer h]
  rfl

theorem resolveView_eq {c : Coordinator} {source : String} {t : Trace} (options : Option Options)
    (h : r.NotJson) (ha : c.available = true) (hf : c.ViewFails source)
    (hr : c.service.answer t.requests.length = .reply r.text) :
    (c.resolveView source options t).1 = .ok {
      output := String.ofList r.code
      state := .escalated
      localError := problem? (c.foundView source)
      external := true } := by
  obtain ⟨q, hends⟩ := Coordinator.ends_resolveView_available (n := t.requests.length) options hf ha
  have hunderstood : viewAgent.understood c.service (.reply r.text) =
      .ok (some (.code r.answer)) := by
    have hparse : viewAgent.parse c.service.depthLimit c.service.provider r.text = _ := parseView_text h _ _
    rw [Agent.understood, hparse]
  rw [hends.result t rfl, hr, hunderstood]
  rfl

theorem invoke_eq (r : FencedCode) {s : Service} (operation : String) (q : CodeRequest) (t : Trace)
    (hr : s.answer t.requests.length = .reply r.text) :
    ∃ response, (codeAgent.invoke s operation q t).1 = .ok (some response) ∧
      response.output = .ok r.answer := by
  obtain ⟨prompt, hprompt⟩ := codeAgent_prompt q
  obtain ⟨x, hends, hx⟩ := codeAgent.ends_invoke_reply s operation hprompt hr
  have hparse : codeAgent.parse s.depthLimit s.provider r.text = _ := r.parseCode_text s.provider
  rw [Agent.understood, hparse] at hx
  rcases x with e | ⟨e | output, model, digest⟩
  · cases hx
  · cases hx
  · obtain rfl : output = r.answer := Option.some.inj (Except.ok.inj hx)
    exact ⟨_, hends.result t rfl, rfl⟩

theorem viewFails_or_local {c : Coordinator} (hc : c.renderView = interfaceTests)
    (source : String) (options : Option Options) (t : Trace) :
    c.ViewFails source ∨ ∃ m output, (c.resolveView source options t).1 =
      .ok { output, state := .local, model := some (.view m) } := by
  rcases fails_or (c.foundView source) ViewModel.isEmpty with hf | ⟨m, hm, he⟩
  · exact .inl hf
  · have hrendered : c.renderView m (options.getD c.config.generation) =
        .ok (joinLines (interfaceTestLines m (options.getD c.config.generation))) := by
      rw [hc, interfaceTests_of_isName (isName_of_buildView hm).1]
    exact .inr ⟨m, _, (ends_resolveView_rendered options hm he hrendered).result t rfl⟩

/-- Code in a block is read as it was written. It is what the agent for code says, and it is the output
where the local search for a view has failed and the service is asked, if it does not look like JSON. -/
theorem comes_back :
    wholeBlock? r.text.toList = some r.answer ∧
    (∀ c : Coordinator, c.renderView = interfaceTests → ∀ source options t,
      c.ViewFails source ∨ ∃ m output, (c.resolveView source options t).1 =
        .ok { output, state := .local, model := some (.view m) }) ∧
    (∀ (c : Coordinator) source options t, c.available = true → c.ViewFails source → r.NotJson →
      c.service.answer t.requests.length = .reply r.text →
      (c.resolveView source options t).1 = .ok {
        output := String.ofList r.code
        state := .escalated
        localError := problem? (c.foundView source)
        external := true }) ∧
    ∀ (s : Service) operation q t, s.answer t.requests.length = .reply r.text →
      ∃ response, (codeAgent.invoke s operation q t).1 = .ok (some response) ∧
        response.output = .ok r.answer :=
  ⟨r.wholeBlock?_text, fun _ hc => viewFails_or_local hc,
    fun _ _ options _ ha hf h => resolveView_eq options h ha hf, fun _ => r.invoke_eq⟩

def answering : Coordinator where
  config := { keys := { openai := some "key" } }
  service := {
    provider := "openai"
    model := "gpt-4o"
    answer := fun _ => .reply "\n```swift\nlet x = 1\n\n  let y = 2\n``` "
    depthLimit := 990 }
  window := 100

theorem comes_back_twoStatements :
    (answering.resolveView "" none {}).1 = .ok {
      output := "let x = 1\n\n  let y = 2"
      state := .escalated
      localError := some emptySource
      external := true } ∧
    ∃ response,
      (codeAgent.invoke answering.service "ui_render" { source := "" } {}).1 = .ok (some response) ∧
      response.output = .ok ⟨"let x = 1\n\n  let y = 2", some "swift"⟩ := by
  let r : FencedCode := {
    before := ['\n']
    tag := "swift".toList
    code := "let x = 1\n\n  let y = 2".toList
    after := [' ']
    before_blank := by decide
    tag_ok := by decide
    stripped := by decide
    ne_nil := by decide
    after_blank := by decide }
  have htext : r.text = "\n```swift\nlet x = 1\n\n  let y = 2\n``` " := by decide +kernel
  have hreply : answering.service.answer 0 = .reply r.text := by rw [htext]; rfl
  obtain ⟨-, -, hview, hagent⟩ := r.comes_back
  have hfound : answering.foundView "" = .error emptySource := rfl
  have hresult := hview answering "" none {} (by decide +kernel) (.problem hfound)
    ⟨by decide +kernel, by decide⟩ hreply
  rw [hfound] at hresult
  exact ⟨hresult, hagent answering.service "ui_render" { source := "" } {} hreply⟩

end FencedCode

end TestScaffold
