/-
Module: LeadAssistant.Maintenance.RetentionDrain
Layer: Maintenance
Purpose: How long a row outlives its time. Every pass of the cleanup deletes a bounded number of rows
  of each table, oldest first, and skips those that are locked, so an expired row is gone after as
  many passes that do not find it locked as its backlog has batches, whatever the other services write
  between them.
Trusted boundary: human-reviewed spec
Main exports: Governed, governedJobs, governedQuestions, governedRuns, governedFingerprints,
  RetentionEvent, expired_drained
-/
import LeadAssistant.Library.Drain
import LeadAssistant.Maintenance.RetentionAge

namespace LeadAssistant.RetentionRepository

open Relational Transition

/-- A table with a time to live, as `_delete_batch` is called for it. -/
structure Governed {ρ κ : Type} [DecidableEq κ] (key : ρ → κ) (config : RetentionConfig) where
  table : Database → Table key
  expired : Time → ρ → Bool
  order : ρ → Time
  lock : RowLocks → κ → Bool
  cleaned : ∀ locked now db, table (config.cleanup locked now db) =
    (table db).deleteBatch (fun row => expired now row && !lock locked (key row)) order
      config.batchSize
  expired_later : ∀ {row since now}, since ≤ now → expired since row = true →
    expired now row = true

section Tables

theorem past_later {since now value : Time} {ttl : Int} (later : since ≤ now)
    (past : value < since - ttl) : value < now - ttl :=
  lt_of_lt_of_le past (Int.sub_le_sub_right later ttl)

variable (config : RetentionConfig)

def governedJobs : Governed ProcessingJob.id config where
  table db := db.processingJobs
  expired now := expiredJob now config.temporaryTtl
  order job := job.expiresAt
  lock locked := locked.job
  cleaned _ _ _ := rfl
  expired_later later expired := by
    simp only [expiredJob, Bool.or_eq_true, decide_eq_true_eq] at expired ⊢
    exact expired.imp (fun ended => lt_of_lt_of_le ended later) (past_later later)

def governedQuestions : Governed DetectedQuestion.id config where
  table db := db.detectedQuestions
  expired now := expiredQuestion now config.relevantRetention
  order question := question.expiresAt
  lock locked := locked.question
  cleaned _ _ _ := rfl
  expired_later later expired := by
    simp only [expiredQuestion, Bool.or_eq_true, decide_eq_true_eq] at expired ⊢
    exact expired.imp (fun ended => lt_of_lt_of_le ended later) (past_later later)

def governedRuns : Governed ClassificationRun.key config where
  table db := db.classificationRuns
  expired now := expiredRun now config.relevantRetention
  order run := run.createdAt
  lock locked := locked.run
  cleaned _ _ _ := rfl
  expired_later later expired := by
    simp only [expiredRun, decide_eq_true_eq] at expired ⊢
    exact past_later later expired

def governedFingerprints : Governed RecentMessageFingerprint.key config where
  table db := db.recentMessageFingerprints
  expired now := expiredFingerprint now config.fingerprintTtl
  order row := row.lastSeenAt
  lock locked := locked.fingerprint
  cleaned _ _ _ := rfl
  expired_later later expired := by
    simp only [expiredFingerprint, decide_eq_true_eq] at expired ⊢
    exact past_later later expired

end Tables

/-- The maintenance worker beside the other services. -/
inductive RetentionEvent where
  | cleanup (locked : RowLocks) (now : Time)
  | others (written : Database)

def RetentionConfig.step (config : RetentionConfig) (db : Database) : RetentionEvent → Option Database
  | .cleanup locked now => some (config.cleanup locked now db)
  | .others written => some written

section Drain

variable {ρ κ : Type} [DecidableEq κ] {key : ρ → κ} {config : RetentionConfig}

/-- Two rows under one key that age alike. -/
structure Governed.Alike (governed : Governed key config) (row other : ρ) : Prop where
  key : key other = key row
  order : governed.order other = governed.order row
  expired : ∀ now, governed.expired now other = governed.expired now row

/-- A row is still there, perhaps with other values in its other columns. -/
def Governed.Stays (governed : Governed key config) (row : ρ) (db : Database) : Prop :=
  ∃ other ∈ governed.table db, governed.Alike row other

/-- A pass of the cleanup that does not find the row locked. -/
def Governed.passes (governed : Governed key config) (row : ρ) : RetentionEvent → Bool
  | .cleanup locked _ => !governed.lock locked (key row)
  | .others _ => false

/-- The clock does not go back, and nobody writes a row that is as old as a row but was not there. -/
def Governed.Undated (governed : Governed key config) (since : Time) (row : ρ) (db : Database) :
    RetentionEvent → Prop
  | .cleanup _ now => since ≤ now
  | .others written => ∀ other ∈ governed.table written, governed.order other ≤ governed.order row →
      ∃ old ∈ governed.table db, governed.Alike old other

section Steps

variable {governed : Governed key config} {since : Time} {row : ρ} {s u : Database}
  {e : RetentionEvent}

theorem Governed.Alike.refl : governed.Alike row row := ⟨rfl, rfl, fun _ => rfl⟩

/-- A row that is as old as a row was there before. -/
theorem Governed.Undated.old (undated : governed.Undated since row s e)
    (next : config.step s e = some u) {other : ρ} (held : other ∈ governed.table u)
    (early : governed.order other ≤ governed.order row) :
    ∃ old ∈ governed.table s, governed.Alike old other := by
  cases e with
  | cleanup locked now =>
      cases next
      rw [governed.cleaned, Table.mem_deleteBatch] at held
      exact ⟨other, held.1, .refl⟩
  | others written =>
      cases next
      exact undated other held early

theorem Governed.stays_before (undated : governed.Undated since row s e)
    (next : config.step s e = some u) (stays : governed.Stays row u) : governed.Stays row s := by
  obtain ⟨other, held, alike⟩ := stays
  obtain ⟨old, there, older⟩ := undated.old next held alike.order.le
  refine ⟨old, there, older.key.symm.trans alike.key, older.order.symm.trans alike.order, ?_⟩
  exact fun now => (older.expired now).symm.trans (alike.expired now)

/-- No step adds to the backlog of a row. -/
theorem Governed.backlog_le (undated : governed.Undated since row s e)
    (next : config.step s e = some u) :
    ((governed.table u).upTo governed.order (governed.order row)).card ≤
      ((governed.table s).upTo governed.order (governed.order row)).card := by
  refine Finset.card_le_card fun k there => ?_
  obtain ⟨other, held, rfl, early⟩ := Table.mem_upTo.1 there
  obtain ⟨old, before, alike⟩ := undated.old next held early
  exact Table.mem_upTo.2 ⟨old, before, alike.key.symm, alike.order ▸ early⟩

/-- A cleanup that leaves an expired row which nobody has locked has deleted its whole batch before
it. -/
theorem Governed.backlog_step (due : governed.expired since row = true)
    (undated : governed.Undated since row s e) (next : config.step s e = some u)
    (stays : governed.Stays row u) :
    ((governed.table u).upTo governed.order (governed.order row)).card +
        (if governed.passes row e then config.batchSize else 0) ≤
      ((governed.table s).upTo governed.order (governed.order row)).card := by
  by_cases passes : governed.passes row e = true
  · rw [if_pos passes]
    cases e with
    | others written => cases passes
    | cleanup locked now =>
        cases next
        obtain ⟨other, held, alike⟩ := stays
        rw [governed.cleaned] at held ⊢
        have expired : governed.expired now other = true :=
          (alike.expired now).trans (governed.expired_later undated due)
        have chosen : (governed.expired now other && !governed.lock locked (key other)) = true := by
          rw [alike.key]
          exact Bool.and_eq_true_iff.2 ⟨expired, passes⟩
        rw [← alike.order]
        exact Table.card_upTo_deleteBatch (Table.mem_deleteBatch.1 held).1 chosen held
  · rw [if_neg passes]
    exact Governed.backlog_le undated next

end Steps

/-- An expired row is gone once the passes of the cleanup that did not find it locked have had room
for its backlog: the rows of its table up to it. -/
theorem expired_drained (governed : Governed key config) {since : Time} {row : ρ} {s t : Database}
    {es : List RetentionEvent} (due : governed.expired since row = true)
    (run : Run config.step (governed.Undated since row) s es t)
    (room : ((governed.table s).upTo governed.order (governed.order row)).card ≤
      config.batchSize * es.countP (governed.passes row)) : ¬ governed.Stays row t := by
  intro stays
  have spent : ((governed.table t).upTo governed.order (governed.order row)).card +
      config.batchSize * es.countP (governed.passes row) ≤
      ((governed.table s).upTo governed.order (governed.order row)).card :=
    run.cost_le (fun _ _ _ undated next => Governed.stays_before undated next)
      (fun _ _ _ undated next => Governed.backlog_step due undated next) stays
  obtain ⟨other, there, alike⟩ := stays
  have left : 0 < ((governed.table t).upTo governed.order (governed.order other)).card :=
    Table.card_upTo_pos there
  rw [alike.order] at left
  omega

end Drain

/-! ### A backlog of two jobs -/

def sampleConfig : RetentionConfig where
  temporaryTtl := hours 12
  relevantRetention := days 60
  fingerprintTtl := days 14
  batchSize := 1
  temporaryTtl_pos := by decide
  relevantRetention_pos := by decide
  fingerprintTtl_pos := by decide
  batchSize_pos := by decide

def sampleExpiring (id : UUID) (created : Time) : ProcessingJob :=
  JobRepository.newRow ⟨1, -100, id, "hello", 0, none, none, none⟩ id created

def sampleBacklog : Database where
  processingJobs := ⟨[sampleExpiring 6 1, sampleExpiring 5 0], by decide⟩

/-- What is left of it, and a job that has just been queued. -/
def sampleQueued : Database where
  processingJobs := ⟨[sampleExpiring 6 1, sampleExpiring 7 (hours 12)], by decide⟩

/-- A session that has locked the newer job. -/
def sampleLocks : RowLocks where
  job id := id = 6

/-- Two passes delete the newer job, although it is locked in a pass between them and another one is
queued. -/
theorem expired_drained_sample : ∃ t,
    Run sampleConfig.step ((governedJobs sampleConfig).Undated (hours 12 + 2) (sampleExpiring 6 1))
      sampleBacklog [.cleanup {} (hours 12 + 2), .others sampleQueued,
        .cleanup sampleLocks (hours 12 + 3), .cleanup {} (hours 12 + 4)] t ∧
      ¬ (governedJobs sampleConfig).Stays (sampleExpiring 6 1) t := by
  have left : ((governedJobs sampleConfig).table
      (sampleConfig.cleanup {} (hours 12 + 2) sampleBacklog)).rows = [sampleExpiring 6 1] := rfl
  have undated : (governedJobs sampleConfig).Undated (hours 12 + 2) (sampleExpiring 6 1)
      (sampleConfig.cleanup {} (hours 12 + 2) sampleBacklog) (.others sampleQueued) := by
    intro other held early
    rcases List.mem_cons.1 held with rfl | queued
    · refine ⟨sampleExpiring 6 1, ?_, .refl⟩
      rw [← Table.mem_rows, left]
      exact List.mem_singleton_self _
    · rw [List.mem_singleton.1 queued] at early
      exact absurd early (by decide)
  have later : (hours 12 + 2 : Time) ≤ hours 12 + 3 := by decide
  have last : (hours 12 + 2 : Time) ≤ hours 12 + 4 := by decide
  have run : Run sampleConfig.step
      ((governedJobs sampleConfig).Undated (hours 12 + 2) (sampleExpiring 6 1)) sampleBacklog
      [.cleanup {} (hours 12 + 2), .others sampleQueued, .cleanup sampleLocks (hours 12 + 3),
        .cleanup {} (hours 12 + 4)]
      (sampleConfig.cleanup {} (hours 12 + 4)
        (sampleConfig.cleanup sampleLocks (hours 12 + 3) sampleQueued)) :=
    .cons le_rfl rfl (.cons undated rfl (.cons later rfl (.cons last rfl .nil)))
  exact ⟨_, run, expired_drained (governedJobs sampleConfig) (by decide) run (by decide)⟩

end LeadAssistant.RetentionRepository
