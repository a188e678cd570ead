/-
Module: LeadAssistant.Library.Fallible
Layer: Library
Purpose: Taking a successful computation of `Except` apart: each of its parts has succeeded. The
  rule for a fold is the invariant rule of its steps.
Trusted boundary: none
Main exports: Except.bind_eq_ok_iff, Except.foldlM_invariant, Except.mapM_eq_ok,
  Except.ok_of_mapM_ok
-/
import Mathlib.Data.List.Basic

namespace Except

universe u v w

variable {ε : Type u} {α β : Type v}

theorem bind_eq_ok_iff {x : Except ε α} {f : α → Except ε β} {b : β} :
    (x >>= f) = .ok b ↔ ∃ a, x = .ok a ∧ f a = .ok b := by
  cases x with
  | error e => simp [bind, Except.bind]
  | ok a => simp [bind, Except.bind]

theorem map_eq_ok_iff {x : Except ε α} {f : α → β} {b : β} :
    x.map f = .ok b ↔ ∃ a, x = .ok a ∧ f a = b := by
  cases x with
  | error e => simp [Except.map]
  | ok a => simp [Except.map]

/-- What every successful step keeps holds at the end of a successful fold. -/
theorem foldlM_invariant {α : Type w} {f : β → α → Except ε β} {inv : β → Prop} {items : List α} {b c : β}
    (folded : items.foldlM f b = .ok c) (start : inv b)
    (kept : ∀ b a c, inv b → f b a = .ok c → inv c) : inv c := by
  induction items generalizing b with
  | nil =>
      cases folded
      exact start
  | cons a items ih =>
      rw [List.foldlM_cons, bind_eq_ok_iff] at folded
      rcases folded with ⟨next, stepped, rest⟩
      exact ih rest (kept b a next start stepped)

/-- A traversal all of whose steps succeed collects their values in order. -/
theorem mapM_eq_ok {f : α → Except ε β} {g : α → β} {items : List α}
    (each : ∀ item ∈ items, f item = .ok (g item)) : items.mapM f = .ok (items.map g) := by
  induction items with
  | nil => rfl
  | cons item items ih =>
      have rest := ih (fun other held => each other (List.mem_cons_of_mem _ held))
      rw [List.mapM_cons, each item List.mem_cons_self, rest]
      rfl

/-- Every step of a successful traversal succeeds. -/
theorem ok_of_mapM_ok {f : α → Except ε β} {items : List α} {values : List β}
    (traversed : items.mapM f = .ok values) {item : α} (held : item ∈ items) :
    ∃ value, f item = .ok value := by
  induction items generalizing values with
  | nil => cases held
  | cons first items ih =>
      rw [List.mapM_cons, bind_eq_ok_iff] at traversed
      obtain ⟨value, at_first, rest⟩ := traversed
      obtain ⟨others, at_rest, -⟩ := bind_eq_ok_iff.mp rest
      rcases List.mem_cons.mp held with rfl | later
      · exact ⟨value, at_first⟩
      · exact ih at_rest later

end Except
