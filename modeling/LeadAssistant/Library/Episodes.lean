/-
Module: LeadAssistant.Library.Episodes
Layer: Library
Purpose: The episodes of a log: its maximal runs of consecutive entries that fail. A success closes
  the last episode, and a failure prolongs it, so a store that remembers the start of the open one
  can follow them. `firstAfter` is the entry at which an episode is first reported.
Trusted boundary: none
Main exports: Episodes.of, Episodes.of_snoc_success, Episodes.of_snoc_failure, Episodes.flatten_of,
  Episodes.firstAfter, Episodes.firstAfter_snoc
-/
import Mathlib.Data.List.Basic

namespace Episodes

variable {α : Type*} {fails : α → Bool} {log : List α} {x : α}

/-- The maximal runs of failing entries, in order. A success ends a run, so the run between two
successes in a row, or at an end of the log, is empty. -/
def of (fails : α → Bool) (log : List α) : List (List α) :=
  log.splitOnP (fun x => !fails x)

/-- A success closes the open episode. -/
theorem of_snoc_success (succeeded : fails x = false) :
    of fails (log ++ [x]) = of fails log ++ [[]] :=
  List.splitOnP_append_cons log [] (by simp [succeeded])

/-- A failure prolongs the open episode. -/
theorem of_snoc_failure (failed : fails x = true) : ∃ earlier current,
    of fails log = earlier ++ [current] ∧ of fails (log ++ [x]) = earlier ++ [current ++ [x]] := by
  induction log with
  | nil => exact ⟨[], [], rfl, List.splitOnP_eq_singleton (by simp [failed])⟩
  | cons first log ih =>
      rcases ih with ⟨earlier, current, before, after⟩
      unfold of at before after ⊢
      rw [List.cons_append, List.splitOnP_cons_eq_if_modifyHead, List.splitOnP_cons_eq_if_modifyHead,
        before, after]
      by_cases failing : fails first = true
      · rw [failing]
        cases earlier with
        | nil => exact ⟨[], first :: current, rfl, rfl⟩
        | cons episode earlier => exact ⟨(first :: episode) :: earlier, current, rfl, rfl⟩
      · rw [Bool.not_eq_true] at failing
        rw [failing]
        exact ⟨[] :: earlier, current, rfl, rfl⟩

/-- The episodes hold the failing entries, in order. -/
theorem flatten_of : (of fails log).flatten = log.filter fails := by
  induction log with
  | nil => rfl
  | cons first log ih =>
      unfold of at ih ⊢
      rw [List.splitOnP_cons_eq_if_modifyHead]
      by_cases failing : fails first = true
      · rw [List.filter_cons_of_pos failing, ← ih, failing]
        rcases List.exists_cons_of_ne_nil (List.splitOnP_ne_nil (fun x => !fails x) log) with
          ⟨episode, rest, split⟩
        rw [split]
        rfl
      · rw [List.filter_cons_of_neg failing, ← ih]
        rw [Bool.not_eq_true] at failing
        rw [failing]
        rfl

variable {reaches : α → α → Bool} {episode : List α}

/-- The first entry of an episode that is far enough from the first one. -/
def firstAfter (reaches : α → α → Bool) : List α → Option α
  | [] => none
  | first :: rest => (first :: rest).find? (reaches first)

/-- One more entry is the first of its kind when there was none before. -/
theorem firstAfter_snoc : firstAfter reaches (episode ++ [x]) =
    (firstAfter reaches episode).or (if reaches (episode.head?.getD x) x then some x else none) := by
  have last : ∀ first, [x].find? (reaches first) = if reaches first x then some x else none := by
    intro first
    by_cases reached : reaches first x = true
    · rw [List.find?_cons_of_pos reached, if_pos reached]
    · rw [List.find?_cons_of_neg reached, if_neg reached, List.find?_nil]
  cases episode with
  | nil => exact last x
  | cons first rest =>
      have split : first :: (rest ++ [x]) = (first :: rest) ++ [x] := rfl
      simp only [firstAfter, List.cons_append, List.head?_cons, Option.getD_some]
      rw [split, List.find?_append, last]
      rfl

theorem mem_of_firstAfter (found : firstAfter reaches episode = some x) : x ∈ episode := by
  cases episode with
  | nil => cases found
  | cons first rest => exact List.mem_of_find?_eq_some found

end Episodes
