import TestScaffold.Service.Client

/-!
Requests for raw completions. Each ends in the text of the first choice or in a failure of the service that
tells what went wrong, unless it slips: a text that is no string is returned, or breaks the client when it
has no length. A request also slips if it cannot be sent, or if its response cannot be read.
-/

namespace TestScaffold.Client

open Text Url

def FirstText (j t : Json) : Prop :=
  ∃ choice choices, j.get? "choices" = some (.list (choice :: choices)) ∧ choice.get? "text" = some t

def Offers (limit : Nat) (body : Body) (t : Json) : Prop :=
  ∃ j, value? limit body = .ok (some j) ∧ FirstText j t

def Fails (c : Config) (failure : ServiceFailure) (status : Option Int) (r : Except Breakdown Json) :
    Prop :=
  ∃ p : Problem, r = .error (.failed p) ∧ p.kind = .service failure c.service.provider.name status

/-- The text that is offered, or the failure that the delivery stands for. -/
inductive Typed (limit : Nat) (c : Config) : Delivery → Except Breakdown Json → Prop
  | network {message r} (h : Fails c .network none r) : Typed limit c (.failed message) r
  | status {status body r} (hstatus : 400 ≤ status) (h : Fails c (.ofStatus status) (some status) r) :
    Typed limit c (.response status body) r
  | text {status body text} (hstatus : status < 400) (h : Offers limit body (.string text)) :
    Typed limit c (.response status body) (.ok (.string text))
  | malformed {status body r} (hstatus : status < 400) (hnone : ∀ text, ¬ Offers limit body (.string text))
    (h : Fails c .malformedResponse (some status) r) : Typed limit c (.response status body) r

def isScalar : Json → Bool
  | .null | .bool _ | .int _ | .float _ => true
  | .string _ | .list _ | .object _ => false

/-- The key fits into a header, and requests go to the address `a`. -/
structure Sendable (c : Config) (key : String) (a : Url) : Prop where
  plain : isPlainKey key = true
  address : Service.completionsAddress c.service = .ok a

structure Answered (c : Config) (key : String) (status : Int) : Prop where
  sent : ∃ a, Sendable c key a ∧ a.scheme ≠ []
  success : status < 400

/-- How a request ends that is not met with a text or with a failure of the service. -/
inductive Slip (limit : Nat) (c : Config) (key : String) : Delivery → Except Breakdown Json → Prop
  | badKey {d} (h : isPlainKey key = false) : Slip limit c key d (.error .badKey)
  | badAddress {d e} (hkey : isPlainKey key = true)
    (h : Service.completionsAddress c.service = .error e) : Slip limit c key d (.error (.badAddress e))
  | noScheme {a status body} (hsent : Sendable c key a) (h : a.scheme = []) :
    Slip limit c key (.response status body) (.error .noScheme)
  | tooDeep {status body} (hanswered : Answered c key status)
    (h : value? limit body = .error .nestedTooDeep) :
    Slip limit c key (.response status body) (.error .nestedTooDeep)
  | list {status body items} (hanswered : Answered c key status) (h : Offers limit body (.list items)) :
    Slip limit c key (.response status body) (.ok (.list items))
  | object {status body members} (hanswered : Answered c key status)
    (h : Offers limit body (.object members)) :
    Slip limit c key (.response status body) (.ok (.object members))
  | scalar {status body t} (hanswered : Answered c key status) (h : Offers limit body t)
    (ht : isScalar t = true) : Slip limit c key (.response status body) (.error .wrongType)

variable {limit : Nat} {c : Config} {key : String} {d : Delivery} {r : Except Breakdown Json}
  {status : Int}
  {body : Body} {j t u : Json} {e : Breakdown}

theorem firstText?_eq_some_iff : firstText? j = some t ↔ FirstText j t := by
  constructor
  · intro h
    unfold firstText? at h
    split at h
    · rename_i choice choices hchoices
      exact ⟨choice, choices, hchoices, h⟩
    · cases h
  · rintro ⟨choice, choices, hchoices, htext⟩
    simp only [firstText?, hchoices, htext]

theorem value?_eq_error (h : value? limit body = .error e) : e = .nestedTooDeep := by
  cases body with
  | json j => cases h
  | text text =>
    simp only [value?] at h
    split at h <;> cases h
    rfl

theorem offers_iff {v : Option Json} (h : value? limit body = .ok v) :
    Offers limit body t ↔ v.bind firstText? = some t := by
  rw [Option.bind_eq_some_iff]
  constructor
  · rintro ⟨j, hj, ht⟩
    exact ⟨j, Except.ok.inj (h.symm.trans hj), firstText?_eq_some_iff.2 ht⟩
  · rintro ⟨j, rfl, ht⟩
    exact ⟨j, h, firstText?_eq_some_iff.1 ht⟩

theorem Offers.unique (h : Offers limit body t) (h' : Offers limit body u) : t = u := by
  obtain ⟨j, hj, ht⟩ := h
  rw [offers_iff hj] at h'
  exact Option.some.inj ((firstText?_eq_some_iff.2 ht).symm.trans h')

theorem reply_eq (hstatus : status < 400) : completionsReply limit c status body =
    (value? limit body).bind fun v =>
      match v.bind firstText? with
      | some t => sized t
      | none => .error (undecodable c status) := by
  rw [completionsReply, if_neg (Int.not_le.2 hstatus)]
  rfl

theorem reply_tooDeep (hstatus : status < 400) (h : value? limit body = .error .nestedTooDeep) :
    completionsReply limit c status body = .error .nestedTooDeep := by
  rw [reply_eq hstatus, h]
  rfl

theorem Offers.reply (h : Offers limit body t) (hstatus : status < 400) :
    completionsReply limit c status body = sized t := by
  obtain ⟨j, hj, ht⟩ := h
  simp only [reply_eq hstatus, hj, Except.bind, Option.bind_some, firstText?_eq_some_iff.2 ht]

theorem sized_scalar (h : isScalar t = true) : sized t = .error .wrongType := by
  cases t <;> first | rfl | cases h

theorem typed_of_success (hstatus : status < 400) (hshallow : value? limit body ≠ .error .nestedTooDeep)
    (hstring : ∀ t, Offers limit body t → ∃ text, t = .string text) :
    Typed limit c (.response status body) (completionsReply limit c status body) := by
  cases hv : value? limit body with
  | error e =>
    obtain rfl := value?_eq_error hv
    exact absurd hv hshallow
  | ok v =>
    cases ht : v.bind firstText? with
    | some t =>
      have hoffers : Offers limit body t := (offers_iff hv).2 ht
      obtain ⟨text, rfl⟩ := hstring t hoffers
      rw [hoffers.reply hstatus]
      exact .text hstatus hoffers
    | none =>
      have hreply : completionsReply limit c status body = .error (undecodable c status) := by
        simp only [reply_eq hstatus, hv, Except.bind, ht]
      have hnone (text : String) : ¬ Offers limit body (.string text) := by
        rw [offers_iff hv, ht]
        exact nofun
      rw [hreply]
      exact .malformed hstatus hnone ⟨_, rfl, rfl⟩

theorem Typed.result (h : Typed limit c d r) :
    (∃ text, r = .ok (.string text)) ∨ ∃ p, r = .error (.failed p) := by
  cases h with
  | text => exact .inl ⟨_, rfl⟩
  | network h | status _ h | malformed _ _ h =>
    obtain ⟨p, hp, -⟩ := h
    exact .inr ⟨p, hp⟩

theorem Slip.not_typed (h : Slip limit c key d r) : ¬ Typed limit c d r := by
  intro htyped
  obtain ⟨text, rfl⟩ | ⟨p, rfl⟩ := htyped.result <;> cases h

section

variable (hprovider : c.service.provider = .completions)

include hprovider

theorem complete_eq (hkey : c.apiKey? = some key) (network : Nat → Delivery) (p : Prompt)
    (s : Client) :
    (complete limit c network p s).1 =
      if isPlainKey key then
        match Service.completionsAddress c.service with
        | .ok a => replyOf limit c a (network s.sent.length)
        | .error e => .error (.badAddress e)
      else .error .badKey := by
  simp only [complete, hkey, connect, hprovider]
  cases hplain : isPlainKey key with
  | false => rfl
  | true =>
    simp only [if_true, httpRequest, hplain, address, hprovider]
    cases Service.completionsAddress c.service <;> rfl

theorem complete_sendable {a : Url} (hkey : c.apiKey? = some key) (ha : Sendable c key a)
    (network : Nat → Delivery) (p : Prompt) (s : Client) :
    (complete limit c network p s).1 = replyOf limit c a (network s.sent.length) := by
  rw [complete_eq hprovider hkey, if_pos ha.plain, ha.address]

theorem replyOf_response {a : Url} (h : a.scheme ≠ []) :
    replyOf limit c a (.response status body) = completionsReply limit c status body := by
  have hscheme : a.scheme.isEmpty = false := by simpa using h
  simp only [replyOf, hscheme, Bool.not_false, if_true, responseReply, hprovider]

theorem replyOf_noScheme {a : Url} (h : a.scheme = []) :
    replyOf limit c a (.response status body) = .error .noScheme := by
  simp only [replyOf, h, List.isEmpty_nil, Bool.not_true, Bool.false_eq_true, if_false, hprovider,
    if_true]

theorem complete_answered (hkey : c.apiKey? = some key) (h : Answered c key status)
    {network : Nat → Delivery} {s : Client} (hd : network s.sent.length = .response status body)
    (p : Prompt) : (complete limit c network p s).1 = completionsReply limit c status body := by
  obtain ⟨a, ha, hscheme⟩ := h.sent
  rw [complete_sendable hprovider hkey ha, hd, replyOf_response hprovider hscheme]

theorem Slip.result (hkey : c.apiKey? = some key) {network : Nat → Delivery} {s : Client}
    (hd : network s.sent.length = d) (p : Prompt) (h : Slip limit c key d r) :
    (complete limit c network p s).1 = r := by
  cases h with
  | badKey h => rw [complete_eq hprovider hkey, h, if_neg Bool.false_ne_true]
  | badAddress hplain h => rw [complete_eq hprovider hkey, if_pos hplain, h]
  | noScheme hsent h =>
    rw [complete_sendable hprovider hkey hsent, hd, replyOf_noScheme hprovider h]
  | tooDeep hanswered h =>
    rw [complete_answered hprovider hkey hanswered hd]
    exact reply_tooDeep hanswered.success h
  | list hanswered h | object hanswered h =>
    rw [complete_answered hprovider hkey hanswered hd, h.reply hanswered.success]
    rfl
  | scalar hanswered h ht =>
    rw [complete_answered hprovider hkey hanswered hd, h.reply hanswered.success]
    exact sized_scalar ht

theorem typed_of_no_slip (hkey : c.apiKey? = some key) {network : Nat → Delivery} {s : Client}
    (hd : network s.sent.length = d) (p : Prompt) (h : ∀ r, ¬ Slip limit c key d r) :
    Typed limit c d (complete limit c network p s).1 := by
  have hplain : isPlainKey key = true := by
    cases hplain : isPlainKey key with
    | true => rfl
    | false => exact (h _ (.badKey hplain)).elim
  cases ha : Service.completionsAddress c.service with
  | error e => exact (h _ (.badAddress hplain ha)).elim
  | ok a =>
    have hsent : Sendable c key a := ⟨hplain, ha⟩
    rw [complete_sendable hprovider hkey hsent, hd]
    cases d with
    | failed message => exact .network ⟨_, rfl, rfl⟩
    | response status body =>
      have hscheme : a.scheme ≠ [] := fun hscheme => h _ (.noScheme hsent hscheme)
      rw [replyOf_response hprovider hscheme]
      rcases Int.lt_or_le status 400 with hstatus | hstatus
      · have hanswered : Answered c key status := ⟨⟨a, hsent, hscheme⟩, hstatus⟩
        exact typed_of_success hstatus (fun hdeep => h _ (.tooDeep hanswered hdeep))
          fun t ht => by
            -- A text of any other form than a string slips.
            cases t with
            | string text => exact ⟨text, rfl⟩
            | list items => exact (h _ (.list hanswered ht)).elim
            | object members => exact (h _ (.object hanswered ht)).elim
            | null | bool | int | float => exact (h _ (.scalar hanswered ht rfl)).elim
      · rw [completionsReply, if_pos hstatus]
        exact .status hstatus ⟨_, rfl, rfl⟩

/-- With a key for raw completions, each slip ends as told, and what does not slip is typed. -/
theorem complete_typed_unless (hkey : c.apiKey? = some key) (network : Nat → Delivery) (p : Prompt)
    (s : Client) :
    (∀ r, Slip limit c key (network s.sent.length) r → (complete limit c network p s).1 = r) ∧
    (Typed limit c (network s.sent.length) (complete limit c network p s).1 ↔
      ∀ r, ¬ Slip limit c key (network s.sent.length) r) := by
  have hslip {r : Except Breakdown Json} (h : Slip limit c key (network s.sent.length) r) :
      (complete limit c network p s).1 = r := h.result hprovider hkey rfl p
  refine ⟨fun _ => hslip, fun htyped r h => ?_, typed_of_no_slip hprovider hkey rfl p⟩
  rw [hslip h] at htyped
  exact h.not_typed htyped

end

theorem visibleBut_eq (others : String) (x : Char) :
    visibleBut others x = ('!' ≤ x && x ≤ '~' && !others.toList.contains x) := by
  rw [visibleBut, String.contains_char_eq, List.contains_eq_mem]

theorem read_eq_ofCut {s : String} (hlength : s.length ≤ lengthLimit)
    (hplain : ∀ x ∈ s.toList, isControl x = false) : Url.read s = ofCut (cut s.toList) := by
  have hcontrol : s.any isControl = false := by
    rw [show s.any isControl = s.toList.any isControl from String.contains_bool_eq]
    simpa using hplain
  simp only [Url.read, hcontrol, Nat.not_lt.2 hlength, if_false, Bool.false_eq_true]

theorem ofCut_plain {scheme host path : List Char} (hscheme : lower scheme = scheme)
    (hhost : readHost host = .ok host) (huser : cutUser host = ([], host, []))
    (hpath : settlePath path = path) (hsafe : ∀ x ∈ path, pathSafe x = true)
    (hfits : ∀ b, pathFits b true path = true) (hne : scheme ≠ []) (hne' : host ≠ []) :
    ofCut { scheme, authority := host, path } = .ok { scheme, host, path } := by
  have hnil : quote userSafe [] = [] := rfl
  have hempty {x : List Char} (hx : x ≠ []) : x.isEmpty = false := by simpa using hx
  simp [ofCut, huser, hhost, hnil, hempty hne, hempty hne', readPort, hfits, hpath, hscheme,
    quote_eq_self hsafe, bind, Except.bind, pure, Except.pure]

def testConfig : Config where
  service := {
    provider := .completions
    endpoint := "https://example.test/v1/completions"
    model := "code-model" }
  keys := { completions := some "token" }

def testAddress : Url where
  scheme := "https".toList
  host := "example.test".toList
  path := "/v1/completions".toList

theorem address_testConfig : Service.completionsAddress testConfig.service = .ok testAddress := by
  have hquoted : quote hostSafe "example.test".toList = "example.test".toList := by
    apply quote_eq_self
    simp only [hostSafe, visibleBut_eq]
    decide
  have hhost : readHost "example.test".toList = .ok "example.test".toList := by
    have hruns : fourRuns 3 false "example.test".toList = false := by decide
    have hlower : lower "example.test".toList = "example.test".toList := by decide +kernel
    simp only [readHost, hruns, hlower, hquoted]
    rfl
  have hsafe : ∀ x ∈ "/v1/completions".toList, pathSafe x = true := by
    simp only [pathSafe, visibleBut_eq]
    decide
  have hcut := ofCut_plain (show lower "https".toList = "https".toList by decide +kernel) hhost
    (by decide) (by decide) hsafe (by decide) (by decide) (by decide)
  have hread : Url.read "https://example.test/v1/completions" = .ok testAddress :=
    (read_eq_ofCut (by decide) (by decide)).trans hcut
  rw [Service.completionsAddress, testConfig, hread]
  rfl

theorem answered_testConfig : Answered testConfig "token" 200 :=
  ⟨⟨testAddress, ⟨by decide, address_testConfig⟩, by decide⟩, by decide⟩

def offering (t : Json) : Body := .json (.object [("choices", .list [.object [("text", t)]])])

theorem offers_offering (t : Json) : Offers limit (offering t) t := ⟨_, rfl, _, _, rfl, rfl⟩

def answeredString : Delivery := .response 200 (offering (.string "let x = 1"))

theorem complete_typed_unless_string :
    (complete 990 testConfig (fun _ => answeredString) { text := "p" } {}).1 =
      .ok (.string "let x = 1") ∧
    Typed 990 testConfig answeredString
      (complete 990 testConfig (fun _ => answeredString) { text := "p" } {}).1 := by
  have hkey : testConfig.apiKey? = some "token" := by decide
  have hoffers : Offers 990 (offering (.string "let x = 1")) (.string "let x = 1") := offers_offering _
  refine ⟨?_, (complete_typed_unless rfl hkey (fun _ => answeredString) _ {}).2.2 fun r h => ?_⟩
  · rw [complete_answered rfl hkey answered_testConfig rfl, hoffers.reply (by decide)]
    rfl
  · cases h with
    | badKey h => exact absurd h (by decide)
    | badAddress _ h => exact nomatch h.symm.trans address_testConfig
    | noScheme hsent h =>
      obtain rfl := Except.ok.inj (hsent.address.symm.trans address_testConfig)
      exact absurd h (by decide)
    | tooDeep _ h => cases h
    | list _ h | object _ h => exact nomatch Offers.unique h hoffers
    | scalar _ h ht =>
      obtain rfl := Offers.unique h hoffers
      cases ht

theorem complete_offering_no_string :
    (complete 990 testConfig (fun _ => .response 200 (offering .null)) { text := "p" } {}).1 =
      .error .wrongType ∧
    ¬ Typed 990 testConfig (.response 200 (offering .null)) (.error .wrongType) ∧
    (complete 990 testConfig (fun _ => .response 200 (offering (.list []))) { text := "p" } {}).1 =
      .ok (.list []) ∧
    ¬ Typed 990 testConfig (.response 200 (offering (.list []))) (.ok (.list [])) := by
  have hkey : testConfig.apiKey? = some "token" := by decide
  have hnull : Slip 990 testConfig "token" (.response 200 (offering .null)) (.error .wrongType) :=
    .scalar answered_testConfig (offers_offering _) rfl
  have hlist : Slip 990 testConfig "token" (.response 200 (offering (.list []))) (.ok (.list [])) :=
    .list answered_testConfig (offers_offering _)
  exact ⟨hnull.result rfl hkey rfl _, hnull.not_typed, hlist.result rfl hkey rfl _, hlist.not_typed⟩

end TestScaffold.Client
