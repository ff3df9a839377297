
namespace TestScaffold

universe u

abbrev Entries (α : Type u) := List (String × α)

namespace Entries

variable {α : Type u}

def put (k : String) (v : α) : Entries α → Entries α
  | [] => [(k, v)]
  | e :: es => if e.1 = k then (e.1, v) :: es else e :: put k v es

def ofList (es : List (String × α)) : Entries α := es.foldl (fun m e => put e.1 e.2 m) []

def get? (es : Entries α) (k : String) : Option α := (es.find? (·.1 == k)).map (·.2)

def keys (es : Entries α) : List String := es.map (·.1)

def merge (es fs : Entries α) : Entries α := fs.foldl (fun m e => put e.1 e.2 m) es

theorem keys_put (k : String) (v : α) (es : Entries α) :
    keys (put k v es) = if k ∈ keys es then keys es else keys es ++ [k] := by
  induction es with
  | nil => simp [put, keys]
  | cons e es ih =>
    by_cases h : e.1 = k
    · simp [put, keys, h]
    · have h' : ¬k = e.1 := fun g => h g.symm
      simp only [put, h, if_false]
      simp only [keys] at ih ⊢
      by_cases hk : k ∈ es.map (·.1)
      · simp_all
      · simp_all

theorem keys_ofList_subset (es : List (String × α)) : keys (ofList es) ⊆ es.map (·.1) := by
  suffices h : ∀ fs : Entries α,
      keys (es.foldl (fun m e => put e.1 e.2 m) fs) ⊆ keys fs ++ es.map (·.1) by
    simpa [ofList, keys] using h []
  induction es with
  | nil => simp
  | cons e es ih =>
    intro fs k hk
    have hput : k ∈ keys (put e.1 e.2 fs) → k ∈ keys fs ∨ k = e.1 := by
      rw [keys_put]
      split
      · exact .inl
      · simp
    rw [List.map_cons, List.mem_append, List.mem_cons]
    rcases List.mem_append.1 (ih (put e.1 e.2 fs) hk) with hk | hk
    · rcases hput hk with hk | hk
      · exact .inl hk
      · exact .inr (.inl hk)
    · exact .inr (.inr hk)

theorem get?_put_self (k : String) (v : α) (es : Entries α) : get? (put k v es) k = some v := by
  induction es with
  | nil => simp [put, get?]
  | cons e es ih =>
    by_cases h : e.1 = k
    · simp [put, get?, h]
    · simp only [put, h, if_false]
      simpa [get?, h] using ih

theorem nodup_keys_put {k : String} {v : α} {es : Entries α} (h : (keys es).Nodup) :
    (keys (put k v es)).Nodup := by
  rw [keys_put]
  split
  · exact h
  · next hk =>
    rw [List.nodup_append]
    refine ⟨h, by simp, ?_⟩
    intro a ha b hb
    rw [List.mem_singleton.1 hb]
    exact fun g => hk (g ▸ ha)

theorem put_of_not_mem {k : String} {es : Entries α} (v : α) (h : k ∉ keys es) :
    put k v es = es ++ [(k, v)] := by
  induction es with
  | nil => rfl
  | cons e es ih =>
    simp only [keys, List.map_cons, List.mem_cons, not_or] at h
    rw [put, if_neg (Ne.symm h.1), ih h.2, List.cons_append]

theorem get?_eq_some_iff {k : String} {v : α} {es : Entries α} (h : (keys es).Nodup) :
    get? es k = some v ↔ (k, v) ∈ es := by
  induction es with
  | nil => simp [get?]
  | cons e es ih =>
    obtain ⟨name, w⟩ := e
    simp only [keys, List.map_cons, List.nodup_cons] at h
    by_cases hk : name = k
    · subst hk
      have hrest : (name, v) ∉ es := fun hmem => h.1 (List.mem_map_of_mem hmem)
      simp [get?, hrest, eq_comm]
    · have hskip : get? ((name, w) :: es) k = get? es k := by simp [get?, hk]
      rw [hskip, ih h.2]
      simp [Ne.symm hk]

end Entries

end TestScaffold
