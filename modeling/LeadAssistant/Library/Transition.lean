/-
Module: LeadAssistant.Library.Transition
Layer: Library
Purpose: Runs of a partial step function and the induction rules used on them. A system is a
  function `step : σ → ε → Option σ`; an event that is not enabled steps to `none`. A run may be
  restricted by a guard on the state before each step and its event, so one definition serves both
  the unrestricted runs of a system and the runs in which a stated condition holds at every step.
Trusted boundary: none
Main exports: Run, Run.invariant, Run.related, Run.deterministic, exec, Run.of_exec, Caused, Since
-/
import Mathlib.Data.List.Basic

namespace Transition

variable {σ ε : Type*}

/-- `Run step guard s es t`: the events `es`, taken one after another from `s`, are all enabled,
each satisfies `guard` in the state before it, and the last one ends in `t`. -/
inductive Run (step : σ → ε → Option σ) (guard : σ → ε → Prop) (s : σ) :
    List ε → σ → Prop where
  | nil : Run step guard s [] s
  | snoc {t u : σ} {es : List ε} {e : ε} (before : Run step guard s es t)
      (allowed : guard t e) (next : step t e = some u) : Run step guard s (es ++ [e]) u

/-- The guard that allows every event. -/
def anyEvent : σ → ε → Prop := fun _ _ => True

namespace Run

variable {step : σ → ε → Option σ} {guard weaker : σ → ε → Prop} {s t : σ} {es : List ε}

/-- A property that holds at the start and is kept by every allowed step holds at the end. -/
theorem invariant {inv : σ → Prop} (run : Run step guard s es t) (start : inv s)
    (kept : ∀ s e u, inv s → guard s e → step s e = some u → inv u) : inv t := by
  induction run with
  | nil => exact start
  | snoc _ allowed next ih => exact kept _ _ _ ih allowed next

/-- A reflexive and transitive relation that every allowed step from an invariant state keeps
relates the two ends of a run. -/
theorem related {inv : σ → Prop} {rel : σ → σ → Prop} (run : Run step guard s es t)
    (start : inv s) (refl : ∀ s, rel s s) (trans : ∀ {a b c}, rel a b → rel b c → rel a c)
    (kept : ∀ s e u, inv s → guard s e → step s e = some u → inv u)
    (one : ∀ s e u, inv s → guard s e → step s e = some u → rel s u) : rel s t := by
  induction run with
  | nil => exact refl s
  | snoc before allowed next ih =>
      have held := before.invariant start kept
      exact trans ih (one _ _ _ held allowed next)

/-- A run whose events are allowed in every state. -/
theorem restrict {stronger : σ → ε → Prop} (run : Run step guard s es t)
    (allowed : ∀ u, ∀ e ∈ es, stronger u e) : Run step stronger s es t := by
  induction run with
  | nil => exact .nil
  | snoc _ _ next ih =>
      refine .snoc (ih fun u e held => allowed u e ?_) (allowed _ _ ?_) next
      · exact List.mem_append_left _ held
      · exact List.mem_append_right _ (List.mem_singleton_self _)

/-- One event in front of a run. -/
theorem cons {u : σ} {e : ε} (allowed : guard s e) (next : step s e = some u)
    (rest : Run step guard u es t) : Run step guard s (e :: es) t := by
  induction rest with
  | nil => exact .snoc .nil allowed next
  | snoc _ allowed' next' ih => exact .snoc ih allowed' next'

/-- Two runs, one after the other. -/
theorem append {u : σ} {fs : List ε} (first : Run step guard s es t)
    (second : Run step guard t fs u) : Run step guard s (es ++ fs) u := by
  induction second with
  | nil => simpa using first
  | snoc _ allowed next ih =>
      rw [← List.append_assoc]
      exact .snoc ih allowed next

/-- The last step of a run. -/
theorem snoc_inv {e : ε} (run : Run step guard s (es ++ [e]) t) :
    ∃ u, Run step guard s es u ∧ guard u e ∧ step u e = some t := by
  generalize same : es ++ [e] = all at run
  cases run with
  | nil => simp at same
  | snoc before allowed next =>
      obtain ⟨rfl, last⟩ := List.append_inj' same rfl
      cases last
      exact ⟨_, before, allowed, next⟩

/-- The events of a run determine its end. -/
theorem deterministic {u : σ} (first : Run step guard s es t) (second : Run step guard s es u) :
    t = u := by
  induction first generalizing u with
  | nil =>
      generalize same : ([] : List ε) = none_ at second
      cases second with
      | nil => rfl
      | snoc => simp at same
  | snoc _ _ next ih =>
      obtain ⟨v, before, _, next'⟩ := snoc_inv second
      rw [ih before, next'] at next
      exact (Option.some.inj next).symm

end Run

/-- Execute a list of events, checking the guard before each of them. -/
def exec (step : σ → ε → Option σ) (guard : σ → ε → Prop) [∀ s e, Decidable (guard s e)] :
    σ → List ε → Option σ
  | s, [] => some s
  | s, e :: es =>
      if guard s e then
        match step s e with
        | some u => exec step guard u es
        | none => none
      else none

/-- What `exec` computes is a run. -/
theorem Run.of_exec {step : σ → ε → Option σ} {guard : σ → ε → Prop}
    [∀ s e, Decidable (guard s e)] {s t : σ} {es : List ε}
    (computed : exec step guard s es = some t) : Run step guard s es t := by
  induction es generalizing s with
  | nil =>
      simp only [exec, Option.some.injEq] at computed
      exact computed ▸ .nil
  | cons e es ih =>
      simp only [exec] at computed
      split at computed
      · rename_i allowed
        split at computed
        · rename_i next
          exact .cons allowed next (ih computed)
        · simp at computed
      · simp at computed

/-- A computed run whose end has a computed value. -/
theorem Run.exists_of_exec {α : Type*} {step : σ → ε → Option σ} {guard : σ → ε → Prop}
    [∀ s e, Decidable (guard s e)] {s : σ} {es : List ε} {value : σ → α} {a : α}
    (computed : (exec step guard s es).map value = some a) :
    ∃ t, Run step guard s es t ∧ value t = a := by
  obtain ⟨t, ends, same⟩ := Option.map_eq_some_iff.1 computed
  exact ⟨t, .of_exec ends, same⟩

instance : ∀ (s : σ) (e : ε), Decidable (anyEvent s e) := fun _ _ => isTrue trivial

section Caused

variable {step : σ → ε → Option σ} {guard : σ → ε → Prop} {s t : σ} {es : List ε} {e : ε}
  {P Q : List ε → σ → ε → Prop}

/-- One of the events of a run has a property together with the events before it and the state in
which it was taken. -/
def Caused (step : σ → ε → Option σ) (guard : σ → ε → Prop) (s : σ) (es : List ε)
    (P : List ε → σ → ε → Prop) : Prop :=
  ∃ front e back t, es = front ++ e :: back ∧ Run step guard s front t ∧ P front t e

theorem Caused.append (caused : Caused step guard s es P) (ds : List ε) :
    Caused step guard s (es ++ ds) P := by
  obtain ⟨front, e, back, t, rfl, before, holds⟩ := caused
  exact ⟨front, e, back ++ ds, t, by simp, before, holds⟩

theorem Caused.snoc (caused : Caused step guard s es P) (d : ε) :
    Caused step guard s (es ++ [d]) P :=
  caused.append [d]

/-- The event that a run ends with. -/
theorem Caused.last (before : Run step guard s es t) (holds : P es t e) :
    Caused step guard s (es ++ [e]) P :=
  ⟨es, e, [], t, rfl, before, holds⟩

/-- An event of a longer run is the last one, or one of those before. -/
theorem Caused.of_snoc (caused : Caused step guard s (es ++ [e]) P) :
    Caused step guard s es P ∨ ∃ t, Run step guard s es t ∧ P es t e := by
  obtain ⟨front, d, back, t, split, before, holds⟩ := caused
  rcases List.eq_nil_or_concat back with rfl | ⟨init, last, rfl⟩
  · obtain ⟨rfl, last⟩ := List.append_inj' split rfl
    cases last
    exact Or.inr ⟨t, before, holds⟩
  · rw [List.concat_eq_append, ← List.cons_append, ← List.append_assoc] at split
    exact Or.inl ⟨front, d, init, t, (List.append_inj' split rfl).1, before, holds⟩

theorem Caused.imp (caused : Caused step guard s es P)
    (each : ∀ front t e, P front t e → Q front t e) : Caused step guard s es Q := by
  obtain ⟨front, e, back, t, split, before, holds⟩ := caused
  exact ⟨front, e, back, t, split, before, each front t e holds⟩

/-- What has caused an event is among the events of the whole run. -/
theorem Caused.earlier (caused : Caused step guard s es fun front _ _ => Caused step guard s front P) :
    Caused step guard s es P := by
  obtain ⟨front, e, back, t, rfl, -, before⟩ := caused
  exact before.append (e :: back)

end Caused

section Since

variable {step : σ → ε → Option σ} {guard held : σ → ε → Prop} {s t u : σ} {es : List ε} {e : ε}
  {P Q : List ε → σ → ε → Prop}

/-- One of the events of a run has a property, and all that came after it another. -/
def Since (step : σ → ε → Option σ) (guard held : σ → ε → Prop) (s : σ) (es : List ε) (t : σ)
    (P : List ε → σ → ε → Prop) : Prop :=
  ∃ front e back v w, es = front ++ e :: back ∧ Run step guard s front v ∧ P front v e ∧
    step v e = some w ∧ Run step held w back t

theorem Since.last (before : Run step guard s es t) (holds : P es t e) (next : step t e = some u) :
    Since step guard held s (es ++ [e]) u P :=
  ⟨es, e, [], t, u, rfl, before, holds, next, .nil⟩

theorem Since.snoc (since : Since step guard held s es t P) (holds : held t e)
    (next : step t e = some u) : Since step guard held s (es ++ [e]) u P := by
  obtain ⟨front, d, back, v, w, rfl, before, first, taken, after⟩ := since
  exact ⟨front, d, back ++ [e], v, w, by simp, before, first, taken, .snoc after holds next⟩

theorem Since.caused (since : Since step guard held s es t P) : Caused step guard s es P := by
  obtain ⟨front, d, back, v, w, rfl, before, first, -⟩ := since
  exact ⟨front, d, back, v, rfl, before, first⟩

theorem Since.imp (since : Since step guard held s es t P)
    (each : ∀ front v e, Run step guard s front v → P front v e → Q front v e) :
    Since step guard held s es t Q := by
  obtain ⟨front, d, back, v, w, split, before, first, rest⟩ := since
  exact ⟨front, d, back, v, w, split, before, each front v d before first, rest⟩

end Since

end Transition
