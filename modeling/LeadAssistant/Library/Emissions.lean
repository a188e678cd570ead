/-
Module: LeadAssistant.Library.Emissions
Layer: Library
Purpose: What the steps of a run emit. A label function gives some steps a key; the keys that a run
  emits are a list in the order of its steps. What is taken and what is given back balance with what
  is held, and a bound for each key gives one for the whole run.
Trusted boundary: none
Main exports: emitted, emitted_snoc, count_balance, length_le_of_count_le
-/
import LeadAssistant.Library.Transition
import Mathlib.Algebra.BigOperators.Group.Finset.Piecewise
import Mathlib.Algebra.BigOperators.Ring.Finset
import Mathlib.Algebra.Order.BigOperators.Group.Finset

namespace Transition

open Finset

variable {σ ε κ : Type*}

/-- The keys that the steps of a run emit. -/
def emitted (step : σ → ε → Option σ) (label : σ → ε → Option κ) : σ → List ε → List κ
  | _, [] => []
  | s, e :: es =>
      (label s e).toList ++ match step s e with
        | some u => emitted step label u es
        | none => []

section Runs

variable {step : σ → ε → Option σ} {guard weaker : σ → ε → Prop} {label : σ → ε → Option κ}
  {s t : σ} {es fs : List ε} {e : ε}

theorem emitted_append (run : Run step guard s es t) :
    emitted step label s (es ++ fs) = emitted step label s es ++ emitted step label t fs := by
  induction run generalizing fs with
  | nil => rfl
  | @snoc t u es e before _ next ih =>
      have one : ∀ gs, emitted step label t (e :: gs) =
          (label t e).toList ++ emitted step label u gs := by
        intro gs
        simp only [emitted, next]
      rw [List.append_assoc, ih, ih, List.singleton_append, one, one]
      simp [emitted]

theorem emitted_snoc (run : Run step guard s es t) :
    emitted step label s (es ++ [e]) = emitted step label s es ++ (label t e).toList := by
  rw [emitted_append run]
  simp only [emitted]
  split <;> simp

/-- A run whose steps satisfy a guard satisfies a weaker one. -/
theorem Run.weaken (run : Run step guard s es t) (implied : ∀ s e, guard s e → weaker s e) :
    Run step weaker s es t := by
  induction run with
  | nil => exact .nil
  | snoc _ allowed next ih => exact .snoc ih (implied _ _ allowed) next

variable [DecidableEq κ]

theorem count_toList {k : κ} {o : Option κ} : o.toList.count k = if o = some k then 1 else 0 := by
  cases o with
  | none => simp
  | some j => simp [List.count_singleton]

/-- What a step takes or gives back changes what is held, so the two lists balance. -/
theorem count_balance {taken given : σ → ε → Option κ} {held : σ → Nat} {inv : σ → Prop} {k : κ}
    (run : Run step guard s es t) (start : inv s)
    (kept : ∀ s e u, inv s → guard s e → step s e = some u → inv u)
    (one : ∀ s e u, inv s → step s e = some u →
      held u + (if given s e = some k then 1 else 0) =
        held s + (if taken s e = some k then 1 else 0)) :
    held t + (emitted step given s es).count k = held s + (emitted step taken s es).count k := by
  induction run with
  | nil => rfl
  | @snoc t u es e before allowed next ih =>
      have balanced := one _ _ _ (before.invariant start kept) next
      rw [emitted_snoc before, emitted_snoc before, List.count_append, List.count_append,
        count_toList, count_toList]
      omega

end Runs

section Lists

variable [DecidableEq κ] {K : Finset κ} {keys back : List κ} {quota : Nat}

theorem sum_count_le : ∑ k ∈ K, back.count k ≤ back.length := by
  induction back with
  | nil => simp
  | cons j back ih =>
      simp only [List.count_cons, sum_add_distrib, List.length_cons]
      have once : (∑ k ∈ K, if (j == k) = true then 1 else 0) ≤ 1 := by
        simp only [beq_iff_eq, sum_ite_eq]
        split <;> omega
      omega

theorem length_eq_sum_count (inside : ∀ k ∈ keys, k ∈ K) :
    keys.length = ∑ k ∈ K, keys.count k := by
  have sum := @Multiset.sum_count_eq_card _ _ K (keys : Multiset κ) (by simpa using inside)
  simpa using sum.symm

/-- Each of the keys occurs a number of times that is bounded, but for those that come back. -/
theorem length_le_of_count_le (inside : ∀ k ∈ keys, k ∈ K)
    (each : ∀ k ∈ K, keys.count k ≤ quota + back.count k) :
    keys.length ≤ quota * K.card + back.length :=
  calc keys.length = ∑ k ∈ K, keys.count k := length_eq_sum_count inside
    _ ≤ ∑ k ∈ K, (quota + back.count k) := sum_le_sum each
    _ = quota * K.card + ∑ k ∈ K, back.count k := by
        rw [sum_add_distrib, sum_const, nsmul_eq_mul, Nat.cast_id, Nat.mul_comm]
    _ ≤ quota * K.card + back.length := Nat.add_le_add_left sum_count_le _

end Lists

end Transition
