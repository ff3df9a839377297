import Mathlib.Data.List.Induction
import TestScaffold.Model

namespace TestScaffold

universe u v

namespace Entries

variable {α : Type u} {β : Type v} {k n : String} {es : List (String × α)}

theorem ofList_concat (es : List (String × α)) (e : String × α) :
    ofList (es ++ [e]) = put e.1 e.2 (ofList es) := by
  rw [ofList, List.foldl_append]
  rfl

theorem keys_ofList (es : List (String × α)) : keys (ofList es) = (es.map (·.1)).eraseDups := by
  induction es using List.reverseRecOn with
  | nil => rfl
  | append_singleton es e ih =>
    rw [ofList_concat, keys_put, ih, List.map_append, List.eraseDups_append]
    by_cases h : e.1 ∈ es.map (·.1)
    · simp [List.removeAll, h]
    · simp [List.removeAll, h, List.eraseDups_cons]

theorem nodup_keys_ofList (es : List (String × α)) : (keys (ofList es)).Nodup := by
  induction es using List.reverseRecOn with
  | nil => exact List.nodup_nil
  | append_singleton es e ih =>
    rw [ofList_concat]
    exact nodup_keys_put ih

theorem get?_put_of_ne (h : k ≠ n) (v : α) (es : Entries α) : get? (put k v es) n = get? es n := by
  induction es with
  | nil => simp [put, get?, h]
  | cons e es ih =>
    by_cases he : e.1 = k
    · simp [put, get?, he, h]
    · simp only [put, he, if_false]
      simp only [get?, List.find?_cons] at ih ⊢
      split
      · rfl
      · exact ih

theorem get?_ofList (es : List (String × α)) (n : String) : get? (ofList es) n = get? es.reverse n := by
  induction es using List.reverseRecOn with
  | nil => rfl
  | append_singleton es e ih =>
    rw [ofList_concat, List.reverse_append, List.reverse_singleton, List.singleton_append]
    by_cases h : e.1 = n
    · subst h
      rw [get?_put_self]
      simp [get?]
    · rw [get?_put_of_ne h, ih]
      simp [get?, h]

theorem get?_reverse_eq_some_iff {v : α} : get? es.reverse n = some v ↔
    ∃ before after, es = before ++ (n, v) :: after ∧ ∀ e ∈ after, e.1 ≠ n := by
  constructor
  · intro h
    obtain ⟨⟨k, w⟩, he, rfl⟩ := Option.map_eq_some_iff.1 h
    obtain ⟨hk, as, bs, hrev, has⟩ := List.find?_eq_some_iff_append.1 he
    obtain rfl : k = n := by simpa using hk
    refine ⟨bs.reverse, as.reverse, ?_, by simpa using has⟩
    have hes := congrArg List.reverse hrev
    simpa using hes
  · rintro ⟨before, after, rfl, hafter⟩
    have hfind : (before ++ (n, v) :: after).reverse.find? (·.1 == n) = some (n, v) := by
      refine List.find?_eq_some_iff_append.2 ⟨by simp, after.reverse, before.reverse, by simp, ?_⟩
      simpa using hafter
    rw [get?, hfind]
    rfl

theorem put_map (f : α → β) (k : String) (v : α) (es : Entries α) :
    put k (f v) (es.map fun e => (e.1, f e.2)) = (put k v es).map fun e => (e.1, f e.2) := by
  induction es with
  | nil => rfl
  | cons e es ih =>
    by_cases h : e.1 = k
    · simp [put, h]
    · simp [put, h, ih]

theorem ofList_map (f : α → β) (es : List (String × α)) :
    ofList (es.map fun e => (e.1, f e.2)) = (ofList es).map fun e => (e.1, f e.2) := by
  induction es using List.reverseRecOn with
  | nil => rfl
  | append_singleton es e ih =>
    rw [List.map_append, List.map_singleton, ofList_concat, ofList_concat, ih]
    exact put_map f e.1 e.2 (ofList es)

end Entries

namespace ViewModel

open Entries

variable {m : ViewModel} {es : List (String × String)}

theorem booleanState_eq (h : m.stateVariables = ofList es) :
    m.booleanState = (es.map (·.1)).eraseDups.filter fun n => get? es.reverse n == some "Bool" := by
  rw [booleanState, ← keys_ofList, h, keys, List.filter_map]
  refine congrArg (List.map _) (List.filter_congr fun e he => ?_)
  have hvalue : get? (ofList es) e.1 = some e.2 :=
    (get?_eq_some_iff (nodup_keys_ofList es)).2 he
  rw [Function.comp, ← get?_ofList, hvalue]
  rfl

theorem mem_booleanState_iff {n : String} (h : m.stateVariables = ofList es) : n ∈ m.booleanState ↔
    ∃ before after, es = before ++ (n, "Bool") :: after ∧ ∀ e ∈ after, e.1 ≠ n := by
  rw [booleanState_eq h, List.mem_filter, List.mem_eraseDups, beq_iff_eq, get?_reverse_eq_some_iff]
  constructor
  · exact fun hn => hn.2
  · rintro ⟨before, after, rfl, hafter⟩
    exact ⟨by simp, before, after, rfl, hafter⟩

end ViewModel

end TestScaffold
