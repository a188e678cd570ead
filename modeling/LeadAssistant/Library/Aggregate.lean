/-
Module: LeadAssistant.Library.Aggregate
Layer: Library
Purpose: Running aggregates. The rows of a log fall into groups; the aggregate of a group is made
  from its first row and takes in every later one. A store that is updated with each new row stays
  the aggregate of the log, because one more row changes the aggregate of its own group alone.
Trusted boundary: none
Main exports: Aggregation, Aggregation.of, Aggregation.of_snoc, Aggregation.of_induction
-/
import Mathlib.Data.List.Induction

/-- How rows of type `ρ` are grouped by `κ` and aggregated in `α`. -/
structure Aggregation (ρ κ α : Type*) where
  group : ρ → κ
  first : ρ → α
  plus : α → ρ → α

namespace Aggregation

variable {ρ κ α : Type*} [DecidableEq κ] (agg : Aggregation ρ κ α)

/-- The aggregate after one more row of its group. -/
def absorb (before : Option α) (row : ρ) : α :=
  match before with
  | none => agg.first row
  | some a => agg.plus a row

/-- The rows of one group. -/
def rowsOf (rows : List ρ) (k : κ) : List ρ := rows.filter (fun row => agg.group row = k)

/-- The aggregate of one group, if it has a row. -/
def of (rows : List ρ) (k : κ) : Option α :=
  (agg.rowsOf rows k).foldl (fun before row => some (agg.absorb before row)) none

variable {agg} {rows : List ρ} {row : ρ} {k : κ}

theorem rowsOf_snoc :
    agg.rowsOf (rows ++ [row]) k =
      if k = agg.group row then agg.rowsOf rows k ++ [row] else agg.rowsOf rows k := by
  unfold rowsOf
  rw [List.filter_append]
  by_cases own : k = agg.group row
  · simp [own]
  · have other : agg.group row ≠ k := fun same => own same.symm
    simp [own, other]

/-- One more row changes the aggregate of its group. -/
theorem of_snoc :
    agg.of (rows ++ [row]) k =
      if k = agg.group row then some (agg.absorb (agg.of rows k) row) else agg.of rows k := by
  unfold of
  rw [rowsOf_snoc]
  by_cases own : k = agg.group row
  · rw [if_pos own, if_pos own, List.foldl_append]
    rfl
  · rw [if_neg own, if_neg own]

/-- What holds of a first row of a group and is kept by every later one holds of all the rows and
the aggregate of the group, unless it is empty. -/
theorem of_induction {holds : List ρ → α → Prop}
    (first : ∀ row, agg.group row = k → holds [row] (agg.first row))
    (plus : ∀ rows row a, agg.group row = k → holds rows a → holds (rows ++ [row]) (agg.plus a row))
    (rows : List ρ) :
    (agg.rowsOf rows k = [] ∧ agg.of rows k = none) ∨
      ∃ a, agg.of rows k = some a ∧ agg.rowsOf rows k ≠ [] ∧ holds (agg.rowsOf rows k) a := by
  induction rows using List.reverseRecOn with
  | nil => exact Or.inl ⟨rfl, rfl⟩
  | append_singleton rows row ih =>
      rw [of_snoc, rowsOf_snoc]
      by_cases own : k = agg.group row
      · rw [if_pos own, if_pos own]
        rcases ih with ⟨empty, fresh⟩ | ⟨a, before, _, held⟩
        · rw [empty, fresh]
          exact Or.inr ⟨_, rfl, List.cons_ne_nil _ _, first row own.symm⟩
        · rw [before]
          exact Or.inr ⟨_, rfl, List.append_ne_nil_of_right_ne_nil _ (List.cons_ne_nil _ _),
            plus _ row a own.symm held⟩
      · rw [if_neg own, if_neg own]
        exact ih

end Aggregation
