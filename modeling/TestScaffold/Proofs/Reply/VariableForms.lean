import TestScaffold.Proofs.Model.Variables
import TestScaffold.Proofs.Reply.CodeOrJson
import TestScaffold.Render.InterfaceTests

namespace TestScaffold.Reply

open Decoder

inductive IsNothing : Json → Prop
  | null : IsNothing .null
  | string : IsNothing (.string "")
  | list : IsNothing (.list [])
  | object : IsNothing (.object [])
  | bool : IsNothing (.bool false)
  | int : IsNothing (.int 0)
  | float {x : Float} (h : (x == 0) = true) : IsNothing (.float x)

def Nameless (item : Json) : Prop := ∀ name ∈ item.get? "name", IsNothing name

inductive Padded : List Json → List Json → Prop
  | nil : Padded [] []
  | keep {items padded : List Json} (item : Json) (h : Padded items padded) :
      Padded (item :: items) (item :: padded)
  | extra {items padded : List Json} {item : Json} (hitem : Nameless item) (h : Padded items padded) :
      Padded items (item :: padded)

def variableItem (v : String × Json) : Json := .object [("name", .string v.1), ("type", v.2)]

def compoundIn : Json → Bool
  | .list items => items.any (itemName? · == some .compound)
  | _ => false

variable {items padded : List Json} {item x y : Json} {vs : List (String × Json)} {names : List String}
  {ms ms' : Entries Json}

theorem itemName?_of_nameless (h : Nameless item) : itemName? item = none := by
  unfold itemName?
  cases hname : item.get? "name" with
  | none => rfl
  | some name =>
    cases h name hname with
    | float hx => simp [hx]
    | _ => rfl

theorem namedItems_padded (h : Padded items padded) : namedItems padded = namedItems items := by
  unfold namedItems
  generalize ([] : List (ItemName × Json)) = es
  induction h generalizing es with
  | nil => rfl
  | keep item h ih => exact ih _
  | extra hitem h ih =>
    rw [List.foldl_cons, itemName?_of_nameless hitem]
    exact ih es

theorem compoundIn_padded (h : Padded items padded) :
    compoundIn (.list padded) = compoundIn (.list items) := by
  change padded.any (itemName? · == some .compound) = items.any (itemName? · == some .compound)
  induction h with
  | nil => rfl
  | keep item h ih => rw [List.any_cons, List.any_cons, ih]
  | extra hitem h ih =>
    rw [List.any_cons, itemName?_of_nameless hitem, ih]
    rfl

def namedEntry (v : String × Json) : ItemName × Json := (.text v.1, v.2)

theorem itemName?_variableItem {v : String × Json} (h : v.1 ≠ "") :
    itemName? (variableItem v) = some (.text v.1) := by
  have hname : (variableItem v).get? "name" = some (.string v.1) := rfl
  simp [itemName?, hname, h]

theorem putItem_namedEntry (n : String) (j : Json) (es : List (String × Json)) :
    putItem (.text n) j (es.map namedEntry) = (Entries.put n j es).map namedEntry := by
  induction es with
  | nil => rfl
  | cons e es ih =>
    by_cases h : e.1 = n
    · simp [putItem, Entries.put, namedEntry, ItemName.same, h]
    · simp [putItem, Entries.put, namedEntry, ItemName.same, h, ← ih]

theorem namedItems_concat {k : ItemName} (h : itemName? item = some k) (items : List Json) :
    namedItems (items ++ [item]) = putItem k ((item.get? "type").getD (.string "")) (namedItems items) := by
  rw [namedItems, List.foldl_append, List.foldl_cons, List.foldl_nil, h]
  rfl

theorem namedItems_variables (h : ∀ v ∈ vs, v.1 ≠ "") :
    namedItems (vs.map variableItem) = (Entries.ofList vs).map namedEntry := by
  induction vs using List.reverseRecOn with
  | nil => rfl
  | append_singleton vs v ih =>
    rw [List.forall_mem_append, List.forall_mem_singleton] at h
    have htype : (variableItem v).get? "type" = some v.2 := rfl
    rw [List.map_append, List.map_singleton, namedItems_concat (itemName?_variableItem h.2), htype,
      Option.getD_some, ih h.1, putItem_namedEntry, Entries.ofList_concat]

theorem compoundIn_variables (h : ∀ v ∈ vs, v.1 ≠ "") :
    compoundIn (.list (vs.map variableItem)) = false := by
  rw [compoundIn, List.any_map, List.any_eq_false]
  intro v hv
  simp [itemName?_variableItem (h v hv)]

/-- The list gives the variables, by items that have their names and types. -/
structure Lists (padded : List Json) (vs : List (String × Json)) : Prop where
  named : ∀ v ∈ vs, v.1 ≠ ""
  items : Padded (vs.map variableItem) padded

structure Alike (x y : Json) : Prop where
  types : variableTypes x = variableTypes y
  compound : compoundIn x = compoundIn y

theorem Lists.alike (h : Lists padded vs) : Alike (.list padded) (.object (Entries.ofList vs)) where
  types := by
    rw [variableTypes, namedItems_padded h.items, namedItems_variables h.named, List.map_map]
    rfl
  compound := by
    rw [compoundIn_padded h.items, compoundIn_variables h.named]
    rfl

theorem variableTypes_object (vs : List (String × String)) :
    variableTypes (.object (Entries.ofList (vs.map fun v => (v.1, .string v.2)))) =
      .valid (Entries.ofList vs) := by
  rw [Entries.ofList_map Json.string vs, variableTypes, table, List.map_map]
  · induction Entries.ofList vs with
    | nil => rfl
    | cons e es ih =>
      rw [List.map_cons, Checked.all, ih]
      rfl
  · intro items h
    cases h

section

variable {R : Json → Json → Prop}

theorem rel_refl (hR : ∀ x, R x x) (x : Option Json) : Option.Rel R x x := by
  cases x with
  | none => exact .none
  | some j => exact .some (hR j)

theorem rel_imp {S : Json → Json → Prop} {x y : Option Json} (h : Option.Rel R x y)
    (hRS : ∀ {x y}, R x y → S x y) : Option.Rel S x y := by
  cases h with
  | none => exact .none
  | some hxy => exact .some (hRS hxy)

theorem findSome?_rel (names : List String) (h : ∀ n ∈ names, Option.Rel R (ms.get? n) (ms'.get? n)) :
    Option.Rel (fun p q : String × Json => p.1 = q.1 ∧ R p.2 q.2)
      (names.findSome? fun n => (ms.get? n).map (n, ·))
      (names.findSome? fun n => (ms'.get? n).map (n, ·)) := by
  induction names with
  | nil => exact .none
  | cons n names ih =>
    rw [List.forall_mem_cons] at h
    obtain ⟨hn, hnames⟩ := h
    rw [List.findSome?_cons, List.findSome?_cons]
    revert hn
    generalize ms.get? n = x, ms'.get? n = y
    rintro (hxy | _)
    · exact .some ⟨rfl, hxy⟩
    · exact ih hnames

theorem field_congr {α : Type} {d : Decoder α} (default? : Option α)
    (h : ∀ n ∈ names, Option.Rel (fun x y => d x = d y) (ms.get? n) (ms'.get? n)) :
    field ms names d default? = field ms' names d default? := by
  have hfound := findSome?_rel names h
  unfold field
  revert hfound
  generalize (names.findSome? fun n => (ms.get? n).map (n, ·)) = found
  generalize (names.findSome? fun n => (ms'.get? n).map (n, ·)) = found'
  rintro (⟨⟨hn, hd⟩⟩ | _)
  · dsimp only
    rw [hn, hd]
  · rfl

end

theorem hasCompoundName_object (ms : Entries Json) : hasCompoundName (.object ms) =
    [stateNames, environmentNames].any fun names =>
      (names.findSome? fun n => (ms.get? n).map (n, ·)).any (compoundIn ·.2) := by
  unfold hasCompoundName
  refine congrArg (List.any _) (funext fun names => ?_)
  induction names with
  | nil => rfl
  | cons n names ih =>
    rw [List.findSome?_cons, List.findSome?_cons]
    simp only [Json.get?] at ih ⊢
    cases ms.get? n with
    | none => exact ih
    | some x => cases x <;> rfl

theorem get?_member {key : String} (x : Json) (before after : Entries Json) (n : String) :
    Entries.get? (before ++ (key, x) :: after) n =
      (before.get? n).or (if key = n then some x else after.get? n) := by
  simp only [Entries.get?, List.find?_append, List.find?_cons, Option.map_or]
  by_cases h : key = n
  · simp [h]
  · have hkey : (key == n) = false := by simpa using h
    simp [hkey, h]

/-- The objects have the same members, except that the one lists variables where the other has an object. -/
structure TwoForms (ms ms' : Entries Json) : Prop where
  other : ∀ n, n ∉ stateNames ++ environmentNames → ms.get? n = ms'.get? n
  form : ∀ n, ms.get? n = ms'.get? n ∨ ∃ padded vs, Lists padded vs ∧
    ms.get? n = some (.list padded) ∧ ms'.get? n = some (.object (Entries.ofList vs))

namespace TwoForms

theorem of_member {key : String} (hkey : key ∈ stateNames ++ environmentNames) (h : Lists padded vs)
    (before after : Entries Json) : TwoForms (before ++ (key, .list padded) :: after)
      (before ++ (key, .object (Entries.ofList vs)) :: after) where
  other n hn := by
    have hne : key ≠ n := fun heq => hn (heq ▸ hkey)
    simp [get?_member, hne]
  form n := by
    rw [get?_member, get?_member]
    cases before.get? n with
    | some j => exact .inl rfl
    | none =>
      by_cases heq : key = n
      · exact .inr ⟨padded, vs, h, by simp [heq], by simp [heq]⟩
      · exact .inl (by simp [heq])

theorem alike (h : TwoForms ms ms') (n : String) : Option.Rel Alike (ms.get? n) (ms'.get? n) := by
  rcases h.form n with hn | ⟨padded, vs, hvs, hx, hy⟩
  · rw [hn]
    exact rel_refl (fun x => ⟨rfl, rfl⟩) _
  · rw [hx, hy]
    exact .some hvs.alike

theorem field_eq {α : Type} (h : TwoForms ms ms') (d : Decoder α) (default? : Option α)
    (hn : ∀ n ∈ names, n ∉ stateNames ++ environmentNames) :
    field ms names d default? = field ms' names d default? := by
  refine field_congr default? fun n hmem => ?_
  rw [h.other n (hn n hmem)]
  exact rel_refl (R := fun x y => d x = d y) (fun x => rfl) _

theorem field_variableTypes (h : TwoForms ms ms') (names : List String)
    (default? : Option (Entries String)) :
    field ms names variableTypes default? = field ms' names variableTypes default? :=
  field_congr default? fun n _ => rel_imp (h.alike n) Alike.types

theorem decode_eq (h : TwoForms ms ms') :
    ViewReply.decode (.object ms) = ViewReply.decode (.object ms') := by
  simp only [ViewReply.decode, record]
  rw [h.field_eq string _ (by decide), h.field_eq (list _) _ (by decide),
    h.field_variableTypes stateNames, h.field_variableTypes environmentNames]
  iterate 4 rw [h.field_eq bool _ (by decide)]

theorem hasCompoundName_eq (h : TwoForms ms ms') :
    hasCompoundName (.object ms) = hasCompoundName (.object ms') := by
  rw [hasCompoundName_object, hasCompoundName_object]
  refine congrArg (List.any _) (funext fun names => ?_)
  have hfound := findSome?_rel names fun n _ => h.alike n
  revert hfound
  generalize (names.findSome? fun n => (ms.get? n).map (n, ·)) = found
  generalize (names.findSome? fun n => (ms'.get? n).map (n, ·)) = found'
  rintro (⟨⟨-, hxy⟩⟩ | _)
  · exact hxy.compound
  · rfl

end TwoForms

theorem parseView_object {limit : Nat} {provider reply : String}
    (h : Json.ofText limit (jsonText reply) = .ok (.object ms)) :
    parseView limit provider reply =
      (parseJson limit "view_analysis" provider ViewReply.decode hasCompoundName reply).map .view := by
  cases hblock : wholeBlock? reply.toList with
  | none => exact parseView_json hblock
  | some c =>
    have hcode : Json.ofText limit c.code = .ok (.object ms) := by
      rw [jsonText, hblock] at h
      exact h
    rw [parseView_of_block hblock]
    split
    · rfl
    · rename_i hlooks
      have hparse : parseView limit provider reply = .ok (.code c) := by
        rw [parseView_of_block hblock, if_neg hlooks]
      exact absurd hcode ((parseView_code_ne_object hparse).2 ms)

theorem TwoForms.parse_eq {limit : Nat} {provider reply reply' : String} (h : TwoForms ms ms')
    (hr : Json.ofText limit (jsonText reply) = .ok (.object ms))
    (hr' : Json.ofText limit (jsonText reply') = .ok (.object ms')) :
    viewAgent.parse limit provider reply = viewAgent.parse limit provider reply' := by
  change parseView limit provider reply = parseView limit provider reply'
  rw [parseView_object hr, parseView_object hr', parseJson_eq hr, parseJson_eq hr', h.decode_eq,
    h.hasCompoundName_eq]

theorem seq_eq_valid {α β : Type} {f : Checked (α → β)} {x : Checked α} {b : β}
    (h : f <*> x = .valid b) : ∃ g a, f = .valid g ∧ x = .valid a ∧ g a = b := by
  cases f with
  | valid g =>
    cases x with
    | valid a =>
      cases h
      exact ⟨g, a, rfl, rfl, rfl⟩
    | invalid ps => cases h
  | invalid ps => cases x <;> cases h

theorem fields_of_decode {v : ViewReply} (h : ViewReply.decode (.object ms) = .valid v) :
    field ms stateNames variableTypes (some []) = .valid v.stateVariables ∧
    field ms environmentNames variableTypes (some []) = .valid v.environmentObjects := by
  simp only [ViewReply.decode, record] at h
  obtain ⟨withMenu, environment, hmenu, henvironment, hv⟩ := seq_eq_valid h
  obtain ⟨withAlert, menu, halert, -, rfl⟩ := seq_eq_valid hmenu
  obtain ⟨withTabs, alert, htabs, -, rfl⟩ := seq_eq_valid halert
  obtain ⟨withNavigation, tabs, hnavigation, -, rfl⟩ := seq_eq_valid htabs
  obtain ⟨withState, navigation, hstates, -, rfl⟩ := seq_eq_valid hnavigation
  obtain ⟨withElements, state, helements, hstate, rfl⟩ := seq_eq_valid hstates
  obtain ⟨withName, elements, hname, -, rfl⟩ := seq_eq_valid helements
  cases hfield : field ms ["name"] string none with
  | valid name =>
    rw [hfield] at hname
    cases hname
    cases hv
    exact ⟨hstate, henvironment⟩
  | invalid ps =>
    rw [hfield] at hname
    cases hname

def typed (v : String × String) : String × Json := (v.1, .string v.2)

theorem field_lists {vs : List (String × String)} (default? : Option (Entries String))
    (h : Lists padded (vs.map typed)) (hfound : names.findSome? ms.get? = some (.list padded)) :
    field ms names variableTypes default? = .valid (Entries.ofList vs) := by
  have hvalue : variableTypes (.list padded) = .valid (Entries.ofList vs) := by
    rw [h.alike.types]
    exact variableTypes_object vs
  have hpairs : (names.findSome? fun n => (ms.get? n).map (n, ·)).map (·.2) = some (.list padded) := by
    rw [List.map_findSome?]
    simpa [Function.comp_def] using hfound
  obtain ⟨⟨n, j⟩, hn, rfl⟩ := Option.map_eq_some_iff.1 hpairs
  unfold field
  rw [hn]
  dsimp only
  rw [hvalue]
  rfl

/-- A reply may give the variables as a list or as an object. The two are understood alike, are valid or
not for the same reasons, and become the same view with the same tests, in which a name stands where it is
given first with the type that is given last. -/
theorem variable_forms (h : TwoForms ms ms') :
    ViewReply.decode (.object ms) = ViewReply.decode (.object ms') ∧
    (∀ limit provider reply reply', Json.ofText limit (jsonText reply) = .ok (.object ms) →
      Json.ofText limit (jsonText reply') = .ok (.object ms') →
        viewAgent.parse limit provider reply = viewAgent.parse limit provider reply') ∧
    (∀ v v', ViewReply.decode (.object ms) = .valid v → ViewReply.decode (.object ms') = .valid v' →
      (∀ source, v.toModel source = v'.toModel source ∧
        ∀ o, Render.interfaceTests (v.toModel source) o = Render.interfaceTests (v'.toModel source) o) ∧
      (∀ padded vs, Lists padded (vs.map typed) →
        stateNames.findSome? ms.get? = some (.list padded) →
          v'.stateVariables = Entries.ofList vs ∧
          ∀ source, (v'.toModel source).booleanState =
            (vs.map (·.1)).eraseDups.filter fun n => Entries.get? vs.reverse n == some "Bool") ∧
      (∀ padded vs, Lists padded (vs.map typed) →
        environmentNames.findSome? ms.get? = some (.list padded) →
          v'.environmentObjects = Entries.ofList vs)) ∧
    ∀ (vs : List (String × String)) u t d limit, Json.Blanks u → Json.Written d t (.members (vs.map typed)) →
      d < limit →
        Json.read limit ('\x7b' :: (u ++ t)) = .ok (.object (Entries.ofList (vs.map typed))) := by
  refine ⟨h.decode_eq, fun limit provider reply reply' => h.parse_eq, ?_, ?_⟩
  · intro v v' hv hv'
    obtain rfl : v = v' := Checked.valid.inj (by rw [← hv, ← hv', h.decode_eq])
    obtain ⟨hstate, henvironment⟩ := fields_of_decode hv
    refine ⟨fun source => ⟨rfl, fun o => rfl⟩, fun padded vs hvs hfound => ?_,
      fun padded vs hvs hfound => ?_⟩
    · rw [field_lists _ hvs hfound] at hstate
      obtain hvalue : Entries.ofList vs = v.stateVariables := Checked.valid.inj hstate
      exact ⟨hvalue.symm, fun source => ViewModel.booleanState_eq hvalue.symm⟩
    · rw [field_lists _ hvs hfound] at henvironment
      exact (Checked.valid.inj henvironment).symm
  · intro vs u t d limit hu hwritten hd
    rw [(Json.Written.object hu hwritten).isText.read_eq, if_pos (Nat.succ_le_of_lt hd)]

def listedText : String := "\x7b\"name\":\"S\",\"stateVariables\":" ++
  "[\x7b\"name\":\"on\",\"type\":\"Int\"\x7d,null,\x7b\"name\":\"on\",\"type\":\"Bool\"\x7d]\x7d"
def mappedText : String :=
  "\x7b\"name\":\"S\",\"stateVariables\":\x7b\"on\":\"Int\",\"on\":\"Bool\"\x7d\x7d"

def listedState : List Json :=
  [variableItem ("on", .string "Int"), .null, variableItem ("on", .string "Bool")]

theorem lists_listedState : Lists listedState ([("on", "Int"), ("on", "Bool")].map typed) where
  named := by decide
  items := .keep _ (.extra (by intro name hname; cases hname) (.keep _ .nil))

section

open Json

variable {d e : Nat} {q s t : List Char} {k : String} {j : Json} {js : List Json}

theorem written_compactItem (h : Written d t (.value j)) (hs : Written e s (.items js)) :
    Written (max d e) (t ++ ',' :: s) (.items (j :: js)) :=
  .item h blanks_nil blanks_nil hs

theorem written_variableItem {n : String} (hn : stringRest q = .ok (n, []))
    (ht : stringRest t = .ok (k, [])) :
    Written 1 ('\x7b' :: '"' :: ("name\"".toList ++ ':' :: '"' :: (q ++ ',' :: '"' ::
      ("type\"".toList ++ ':' :: '"' :: (t ++ ['\x7d']))))) (.value (variableItem (n, .string k))) := by
  have hname : stringRest "name\"".toList = .ok ("name", []) := rfl
  have htype : stringRest "type\"".toList = .ok ("type", []) := rfl
  exact .object blanks_nil
    (written_compactMember hname (.string hn) (written_compactLast htype (.string ht)))

theorem ofText_reply {limit : Nat} {x : String} (hk : stringRest q = .ok (k, [])) (h : Written d t (.value j))
    (hd : d < limit) (hname : k ≠ "name")
    (hx : x.toList = '\x7b' :: '"' :: ("name\"".toList ++ ':' :: '"' :: ("S\"".toList ++
      ',' :: '"' :: (q ++ ':' :: (t ++ ['\x7d']))))) :
    Json.ofText limit x = .ok (.object [("name", .string "S"), (k, j)]) := by
  have hkey : stringRest "name\"".toList = .ok ("name", []) := rfl
  have hvalue : stringRest "S\"".toList = .ok ("S", []) := rfl
  have hwritten := Written.object blanks_nil
    (written_compactMember hkey (.string hvalue) (written_compactLast hk h))
  rw [Entries.ofList, List.foldl_cons, List.foldl_cons] at hwritten
  simp only [Entries.put, hname.symm, if_false, List.foldl_nil] at hwritten
  exact ofText_of_written hx hwritten (Nat.succ_le_of_lt (by simpa using hd))

end

theorem ofText_listedText : Json.ofText 990 listedText =
    .ok (.object [("name", .string "S"), ("stateVariables", .list listedState)]) := by
  have hint : Json.stringRest "Int\"".toList = .ok ("Int", []) := rfl
  have hbool : Json.stringRest "Bool\"".toList = .ok ("Bool", []) := rfl
  have hon : Json.stringRest "on\"".toList = .ok ("on", []) := rfl
  have hlist : Json.Written _ _ (.value (.list listedState)) := .list Json.blanks_nil
    (written_compactItem (written_variableItem hon hint)
      (written_compactItem (.scalar (t := "null".toList) rfl)
        (.lastItem (written_variableItem hon hbool) Json.blanks_nil)))
  exact ofText_reply (q := "stateVariables\"".toList) rfl hlist (by decide) (by decide) (by decide +kernel)

theorem ofText_mappedText : Json.ofText 990 mappedText =
    .ok (.object [("name", .string "S"), ("stateVariables", .object [("on", .string "Bool")])]) := by
  have hint : Json.stringRest "Int\"".toList = .ok ("Int", []) := rfl
  have hbool : Json.stringRest "Bool\"".toList = .ok ("Bool", []) := rfl
  have hon : Json.stringRest "on\"".toList = .ok ("on", []) := rfl
  have hobject : Json.Written _ _ (.value (.object [("on", .string "Bool")])) :=
    .object Json.blanks_nil
      (written_compactMember hon (.string hint) (written_compactLast hon (.string hbool)))
  exact ofText_reply (q := "stateVariables\"".toList) rfl hobject (by decide) (by decide)
    (by decide +kernel)

theorem variable_forms_repeated :
    Json.ofText 990 listedText =
      .ok (.object [("name", .string "S"), ("stateVariables", .list listedState)]) ∧
    Json.ofText 990 mappedText =
      .ok (.object [("name", .string "S"), ("stateVariables", .object [("on", .string "Bool")])]) ∧
    viewAgent.parse 990 "stub" listedText = viewAgent.parse 990 "stub" mappedText ∧
    ∃ v : ViewReply, ViewReply.decode
        (.object [("name", .string "S"), ("stateVariables", .list listedState)]) = .valid v ∧
      v.stateVariables = [("on", "Bool")] ∧ (v.toModel "").booleanState = ["on"] := by
  have hforms : TwoForms [("name", .string "S"), ("stateVariables", .list listedState)]
      [("name", .string "S"), ("stateVariables", .object [("on", .string "Bool")])] :=
    .of_member (by decide) lists_listedState [("name", .string "S")] []
  obtain ⟨hdecode, hparse, hvariables, -⟩ := variable_forms hforms
  refine ⟨ofText_listedText, ofText_mappedText, hparse 990 "stub" listedText mappedText
    (ofText_jsonText ofText_listedText) (ofText_jsonText ofText_mappedText), ?_⟩
  have hvalid : ViewReply.decode
      (.object [("name", .string "S"), ("stateVariables", .object [("on", .string "Bool")])]) =
        .valid { name := "S", stateVariables := [("on", "Bool")] } := rfl
  refine ⟨_, hdecode.trans hvalid, ?_⟩
  obtain ⟨-, hstate, -⟩ := hvariables _ _ (hdecode.trans hvalid) hvalid
  obtain ⟨htypes, hboolean⟩ := hstate listedState _ lists_listedState rfl
  exact ⟨htypes, (hboolean "").trans (by decide)⟩

end TestScaffold.Reply
