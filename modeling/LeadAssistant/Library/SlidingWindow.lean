/-
Module: LeadAssistant.Library.SlidingWindow
Layer: Library
Purpose: Admission of a key once per sliding window, decided from a table that keeps the last
  sighting of each key and may forget a key whose last sighting lies outside the window. `Agrees`
  relates such a table to the whole history of sightings; by it a decision taken from the table is
  the decision taken from the history.
Trusted boundary: none
Main exports: SlidingWindow.Agrees, Agrees.record, Agrees.forget, Agrees.outside_iff
-/
import Mathlib.Data.List.Basic
import Mathlib.Order.Lattice

namespace SlidingWindow

variable {κ τ : Type*} [LinearOrder τ] {history : List (κ × τ)} {cutoff : τ} {last : κ → Option τ}

/-- Every sighting of the key lies at or before the cutoff. -/
def Outside (history : List (κ × τ)) (cutoff : τ) (k : κ) : Prop :=
  ∀ t, (k, t) ∈ history → t ≤ cutoff

/-- A kept key has its last sighting, and a forgotten key has no sighting after the cutoff. -/
structure Agrees (history : List (κ × τ)) (cutoff : τ) (last : κ → Option τ) : Prop where
  seen : ∀ {k t}, last k = some t → (k, t) ∈ history
  latest : ∀ {k t}, last k = some t → Outside history t k
  forgotten : ∀ {k}, last k = none → Outside history cutoff k

namespace Agrees

theorem nil : Agrees ([] : List (κ × τ)) cutoff (fun _ => none) where
  seen kept := by simp at kept
  latest kept := by simp at kept
  forgotten _ := by simp [Outside]

/-- Time passes. -/
theorem later {cutoff' : τ} (agrees : Agrees history cutoff last) (le : cutoff ≤ cutoff') :
    Agrees history cutoff' last where
  seen := agrees.seen
  latest := agrees.latest
  forgotten absent := fun t sighted => (agrees.forgotten absent t sighted).trans le

/-- The decision from the table is the decision from the history. -/
theorem outside_iff (agrees : Agrees history cutoff last) {k : κ} :
    (∀ t ∈ last k, t ≤ cutoff) ↔ Outside history cutoff k := by
  constructor
  · intro old
    cases kept : last k with
    | none => exact agrees.forgotten kept
    | some t =>
        intro t' sighted
        exact (agrees.latest kept t' sighted).trans (old t kept)
  · intro outside t kept
    exact outside t (agrees.seen kept)

/-- A sighting is recorded that is not earlier than any other. -/
theorem record {last' : κ → Option τ} {k : κ} {t : τ} (agrees : Agrees history cutoff last)
    (newest : ∀ sighting ∈ history, sighting.2 ≤ t) (own : last' k = some t)
    (others : ∀ k', k' ≠ k → last' k' = last k') :
    Agrees (history ++ [(k, t)]) cutoff last' where
  seen := by
    intro k' t' kept
    by_cases same : k' = k
    · rw [same, own, Option.some.injEq] at kept
      simp [same, kept]
    · rw [others k' same] at kept
      simp [agrees.seen kept]
  latest := by
    intro k' t' kept t'' sighted
    rcases List.mem_append.1 sighted with before | this
    · by_cases same : k' = k
      · rw [same, own, Option.some.injEq] at kept
        exact kept ▸ newest _ before
      · rw [others k' same] at kept
        exact agrees.latest kept t'' before
    · simp only [List.mem_singleton, Prod.mk.injEq] at this
      rw [this.1, own, Option.some.injEq] at kept
      exact le_of_eq (this.2.trans kept)
  forgotten := by
    intro k' absent t' sighted
    have ne : k' ≠ k := by
      intro same
      rw [same, own] at absent
      simp at absent
    rw [others k' ne] at absent
    rcases List.mem_append.1 sighted with before | this
    · exact agrees.forgotten absent t' before
    · simp only [List.mem_singleton, Prod.mk.injEq] at this
      exact absurd this.1 ne

/-- Keys whose last sighting is not after the cutoff may be forgotten. -/
theorem forget {last' : κ → Option τ} (agrees : Agrees history cutoff last)
    (kept : ∀ k, last' k = last k ∨ last' k = none ∧ ∃ t, last k = some t ∧ t ≤ cutoff) :
    Agrees history cutoff last' where
  seen := by
    intro k t found
    rcases kept k with same | ⟨gone, _⟩
    · exact agrees.seen (same ▸ found)
    · simp [gone] at found
  latest := by
    intro k t found
    rcases kept k with same | ⟨gone, _⟩
    · exact agrees.latest (same ▸ found)
    · simp [gone] at found
  forgotten := by
    intro k absent
    rcases kept k with same | ⟨_, t, found, old⟩
    · exact agrees.forgotten (same ▸ absent)
    · exact fun t' sighted => (agrees.latest found t' sighted).trans old

end Agrees

end SlidingWindow
