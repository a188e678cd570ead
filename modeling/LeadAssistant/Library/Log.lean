/-
Module: LeadAssistant.Library.Log
Layer: Library
Purpose: Append-only logs, and properties that say of each entry how it relates to the entries
  before it. Such a property is checked entry by entry as the log grows. What the latest entry of a
  kind tells is looked up from the end.
Trusted boundary: none
Main exports: Log.EachAfter, Log.eachAfter_snoc_iff, Log.eq_of_eachAfter, Log.latest_snoc_of_some,
  Log.latest_snoc_of_none
-/
import Mathlib.Data.List.Basic
import Mathlib.Data.List.Induction

namespace Log

variable {α β : Type*} {P : List α → α → Prop} {log : List α} {x : α}

/-- Every entry satisfies `P` of the entries before it. -/
def EachAfter (P : List α → α → Prop) (log : List α) : Prop :=
  ∀ before x after, log = before ++ x :: after → P before x

/-- The newest entry tells something, or the earlier ones decide. -/
theorem latest_snoc_of_some {tells : α → Option β} {y : β} (said : tells x = some y) :
    (log ++ [x]).reverse.findSome? tells = some y := by
  rw [List.reverse_append, List.reverse_singleton, List.singleton_append, List.findSome?_cons, said]

theorem latest_snoc_of_none {tells : α → Option β} (silent : tells x = none) :
    (log ++ [x]).reverse.findSome? tells = log.reverse.findSome? tells := by
  rw [List.reverse_append, List.reverse_singleton, List.singleton_append, List.findSome?_cons,
    silent]

theorem eachAfter_nil : EachAfter P [] := by
  intro before x after split
  simp at split

/-- A log that ends in `x` is split at `x`, or before it. -/
theorem split_snoc {before after : List α} {y : α} (split : log ++ [x] = before ++ y :: after) :
    (log = before ∧ x = y) ∨ ∃ rest, log = before ++ y :: rest := by
  rcases List.eq_nil_or_concat' after with rfl | ⟨rest, last, rfl⟩
  · rcases List.append_inj' split rfl with ⟨same, last⟩
    simp only [List.cons.injEq, and_true] at last
    exact Or.inl ⟨same, last⟩
  · rw [← List.cons_append, ← List.append_assoc] at split
    exact Or.inr ⟨rest, (List.append_inj' split rfl).1⟩

theorem eachAfter_snoc_iff : EachAfter P (log ++ [x]) ↔ EachAfter P log ∧ P log x := by
  constructor
  · intro each
    constructor
    · intro before y after split
      exact each before y (after ++ [x]) (by rw [split]; simp)
    · exact each log x [] rfl
  · rintro ⟨each, last⟩ before y after split
    rcases split_snoc split with ⟨rfl, rfl⟩ | ⟨rest, earlier⟩
    · exact last
    · exact each before y rest earlier

/-- Two logs with the same view are the same when `P` and the view of an entry determine it. -/
theorem eq_of_eachAfter {view : α → β} {log' : List α}
    (determined : ∀ {before x y}, P before x → P before y → view x = view y → x = y)
    (same : log.map view = log'.map view) (each : EachAfter P log) (each' : EachAfter P log') :
    log = log' := by
  induction log using List.reverseRecOn generalizing log' with
  | nil => exact (List.map_eq_nil_iff.1 same.symm).symm
  | append_singleton before x ih =>
      rcases List.eq_nil_or_concat' log' with rfl | ⟨before', y, rfl⟩
      · simp at same
      · rw [List.map_append, List.map_append] at same
        rcases List.append_inj' same rfl with ⟨same_before, same_last⟩
        rw [eachAfter_snoc_iff] at each each'
        have earlier : before = before' := ih same_before each.1 each'.1
        simp only [List.map_cons, List.map_nil, List.cons.injEq, and_true] at same_last
        rw [earlier] at each
        rw [earlier, determined each.2 each'.2 same_last]

end Log
