/-
Module: LeadAssistant.Pipeline.Moves
Layer: Pipeline
Purpose: What one step of the pipeline does, and that an open iteration always finds the row it has
  claimed: the row is locked, so nobody else changes it, and no committed row is PROCESSING, so the
  stale-lock recovery has nothing to recover.
Trusted boundary: none
Main exports: Move, step_move, Tracked, tracked_step, Tracked.outcome
-/
import LeadAssistant.Pipeline.Outcomes

namespace LeadAssistant.Pipeline

open Relational Transition

/-- What one step does. -/
inductive Move (s : State) (e : Event) : State → Prop where
  | admitted (job : NewJob) (newId : UUID) (now : Time) (jobs : Table ProcessingJob.id)
      (event : e = .enqueue job newId now) (fresh : newId ∉ s.usedIds)
      (absent : s.db.jobFor? job.telegramChatId job.telegramMessageId = none)
      (inserted : s.db.processingJobs.insert? (JobRepository.newRow job newId now) = some jobs) :
      Move s e { s with
        db := s.db.setProcessingJobs jobs
        admitted := s.admitted ++ [(job.telegramChatId, job.telegramMessageId)]
        usedIds := s.usedIds ++ [newId] }
  | repeated (job : NewJob) (newId : UUID) (now : Time) (event : e = .enqueue job newId now)
      (present : (s.db.jobFor? job.telegramChatId job.telegramMessageId).isSome) :
      Move s e { s with
        admitted := s.admitted ++ [(job.telegramChatId, job.telegramMessageId)]
        usedIds := s.usedIds ++ [newId] }
  | idle : Move s e s
  | claimed (iteration : Iteration) (row : ProcessingJob) (opened : Table Iteration.jobId)
      (held : s.db.processingJobs.get? iteration.jobId = some row) (claims : iteration.Claims row)
      (inserted : s.opened.insert? iteration = some opened) : Move s e { s with opened := opened }
  | rolledBack (iteration : Iteration) (held : iteration ∈ s.opened) :
      Move s e (s.rolledBack iteration.jobId)
  | committed (iteration : Iteration) (held : iteration ∈ s.opened) (w : Surroundings)
      (error : Option HandlerError) (u : Database)
      (ran : iteration.run w s.db = (error, .ok u)) : Move s e (s.committed iteration error u)
  | recovered (staleBefore now : Time) :
      Move s e { s with db := JobRepository.recoverStale staleBefore now s.db }

section Steps

variable {s u : State} {e : Event}

/-- The row a worker claims is there, and its worker may take it. -/
theorem claimed?_spec {worker : Worker} {workerId : String} {now : Time} {job : ProcessingJob}
    (claimed : s.claimed? worker workerId now = some job) :
    ∃ row, s.db.processingJobs.get? job.id = some row ∧
      Iteration.Claims ⟨worker, job, now⟩ row := by
  cases worker with
  | stage1 =>
      rcases Option.map_eq_some_iff.1 claimed with ⟨row, first, rfl⟩
      rcases Table.mem_of_firstBy first with ⟨held, chosen⟩
      simp only [JobRepository.claimable, Bool.and_eq_true, Bool.or_eq_true,
        decide_eq_true_eq] at chosen
      exact ⟨row, Table.get?_of_mem held, chosen.1.2, workerId, chosen.1.1, rfl⟩
  | replyChain =>
      rcases Option.map_eq_some_iff.1 claimed with ⟨row, first, rfl⟩
      rcases Table.mem_of_firstBy first with ⟨held, chosen⟩
      simp only [DownstreamJobRepository.claimable, Bool.and_eq_true, decide_eq_true_eq] at chosen
      exact ⟨row, Table.get?_of_mem held, chosen.1.1.1.2, workerId, chosen.1.1.1.1,
        Option.isNone_iff_eq_none.1 chosen.1.1.2, rfl⟩
  | classification =>
      rcases Option.map_eq_some_iff.1 claimed with ⟨row, first, rfl⟩
      rcases Table.mem_of_firstBy first with ⟨held, chosen⟩
      simp only [DownstreamJobRepository.claimable, Bool.and_eq_true, decide_eq_true_eq] at chosen
      exact ⟨row, Table.get?_of_mem held, chosen.1.1.1.2, workerId, chosen.1.1.1.1, chosen.1.1.2, rfl⟩

theorem step_move (next : step s e = some u) : Move s e u := by
  cases e with
  | enqueue job newId now =>
      simp only [step] at next
      split at next
      · simp at next
      · rename_i fresh
        unfold JobRepository.enqueue at next
        cases present : s.db.jobFor? job.telegramChatId job.telegramMessageId with
        | some existing =>
            rw [present] at next
            cases next
            exact .repeated job newId now rfl (by rw [present]; rfl)
        | none =>
            rw [present] at next
            dsimp only at next
            split at next
            · simp at next
            · rename_i enqueued
              split at enqueued
              · cases enqueued
              · split at enqueued
                · rename_i jobs inserted
                  cases enqueued
                  cases next
                  exact .admitted job newId now jobs rfl fresh present inserted
                · cases enqueued
  | claim worker workerId now =>
      simp only [step] at next
      split at next
      · cases next
        exact .idle
      · rename_i job claimed
        rcases Option.map_eq_some_iff.1 next with ⟨opened, inserted, rfl⟩
        rcases claimed?_spec claimed with ⟨row, held, claims⟩
        exact .claimed _ row opened held claims inserted
  | finish jobId surroundings =>
      simp only [step] at next
      split at next
      · simp at next
      · rename_i iteration found
        have held := Table.mem_of_get? found
        cases Table.key_of_get? found
        split at next
        · cases next
          exact .rolledBack iteration held
        · rename_i error db ran
          cases next
          exact .committed iteration held surroundings error db ran
  | crash jobId =>
      simp only [step] at next
      split at next
      · simp at next
      · rename_i iteration found
        have held := Table.mem_of_get? found
        cases Table.key_of_get? found
        cases next
        exact .rolledBack iteration held
  | recoverStale staleBefore now =>
      cases next
      exact .recovered staleBefore now

end Steps

/-- Each open iteration finds the row it has claimed, no committed row is PROCESSING, and every
row's id was taken from the used ones. -/
structure Tracked (s : State) : Prop where
  claims : ∀ iteration ∈ s.opened, ∃ row,
    s.db.processingJobs.get? iteration.jobId = some row ∧ iteration.Claims row
  settled : ∀ row ∈ s.db.processingJobs, row.status ≠ .processing
  used : ∀ row ∈ s.db.processingJobs, row.id ∈ s.usedIds

section Tracking

variable {s u : State} {e : Event} {iteration : Iteration} {row left : ProcessingJob}
  {db db' : Database} {error : Option HandlerError}

/-- A downstream worker leaves the status of the row it claims. -/
theorem Iteration.Claims.downstream (claims : iteration.Claims row)
    (worker : iteration.worker ≠ .stage1) :
    DownstreamJobRepository.isDownstream iteration.job.status = true := by
  rcases claims with ⟨_, workerId, claimed⟩
  split at claimed
  · rename_i stage1
    exact absurd stage1 worker
  · rw [claimed.2.2]
    exact claimed.1
  · rw [claimed.2.2]
    exact claimed.1

theorem not_processing_of_downstream {status : ProcessingJobStatus}
    (downstream : DownstreamJobRepository.isDownstream status = true) : status ≠ .processing := by
  rintro rfl
  exact absurd downstream (by decide)

theorem Outcome.settled (outcome : Outcome iteration db db' error (some left))
    (claims : iteration.Claims row) : left.status ≠ .processing := by
  cases outcome with
  | retried error delay retryable due same =>
      unfold Iteration.retried
      dsimp only
      split
      · exact ProcessingJobStatus.noConfusion
      · rename_i downstream
        exact not_processing_of_downstream (claims.downstream downstream)
  | failed error errorCode spent same => exact ProcessingJobStatus.noConfusion
  | routed run status worker message sent records =>
      show status ≠ .processing
      rintro rfl
      unfold routeOf at sent
      split at sent <;> simp at sent
  | loaded snapshot worker same =>
      exact not_processing_of_downstream (claims.downstream (by simp [worker]))
  | chosen run worker awaiting message relevant records accepted =>
      exact ProcessingJobStatus.noConfusion

theorem not_failed_of_downstream {status : ProcessingJobStatus}
    (downstream : DownstreamJobRepository.isDownstream status = true) : status ≠ .failed := by
  rintro rfl
  exact absurd downstream (by decide)

/-- A job is left FAILED after an error that is not retried any more, and after nothing else. -/
theorem Outcome.spent_of_failed (outcome : Outcome iteration db db' error (some left))
    (claims : iteration.Claims row) (failed : left.status = .failed) :
    ∃ raised, error = some raised ∧
      (raised.retryable = true → retryDelay? iteration.job.attemptCount = none) := by
  cases outcome with
  | retried raised delay retryable due same =>
      unfold Iteration.retried at failed
      dsimp only at failed
      split at failed
      · cases failed
      · rename_i downstream
        exact absurd failed (not_failed_of_downstream (claims.downstream downstream))
  | failed raised errorCode spent same => exact ⟨raised, rfl, spent⟩
  | routed run status worker message sent records =>
      have failed : status = .failed := failed
      subst failed
      unfold routeOf at sent
      split at sent <;> simp at sent
  | loaded snapshot worker same =>
      exact absurd failed (not_failed_of_downstream (claims.downstream (by simp [worker])))
  | chosen run worker awaiting message relevant records accepted => cases failed

/-- The stale-lock recovery finds no row. -/
theorem Tracked.recovered (tracked : Tracked s) {staleBefore now : Time} :
    JobRepository.recoverStale staleBefore now s.db = s.db := by
  unfold JobRepository.recoverStale
  have same : s.db.processingJobs.updateWhere (JobRepository.isStale staleBefore)
      (JobRepository.recovered now) (fun job _ => JobRepository.recovered_id now job) =
        s.db.processingJobs := by
    rw [Table.updateWhere_eq_self_iff]
    intro row held stale
    unfold JobRepository.isStale at stale
    simp only [Bool.and_eq_true, decide_eq_true_eq] at stale
    exact absurd stale.1 (tracked.settled row held)
  rw [same]
  rfl

/-- The outcome of an iteration that commits, with the row it had claimed. -/
theorem Tracked.outcome (tracked : Tracked s) (held : iteration ∈ s.opened) {w : Surroundings}
    (ran : iteration.run w s.db = (error, .ok db)) :
    ∃ row, s.db.processingJobs.get? iteration.jobId = some row ∧ iteration.Claims row ∧
      ∃ left, LeavesRow s.db db iteration.jobId left ∧ Outcome iteration s.db db error left := by
  rcases tracked.claims iteration held with ⟨row, found, claims⟩
  exact ⟨row, found, claims, run_outcome claims found ran⟩

theorem LeavesRow.get?_of_ne {jobId k : UUID} {left : Option ProcessingJob}
    (leaves : LeavesRow db db' jobId left) (ne : k ≠ jobId) :
    db'.processingJobs.get? k = db.processingJobs.get? k := by
  rw [leaves k, if_neg ne]

/-- A row after an iteration is the one it leaves, or one that was there. -/
theorem LeavesRow.mem {jobId : UUID} {left : Option ProcessingJob} {x : ProcessingJob}
    (leaves : LeavesRow db db' jobId left) (held : x ∈ db'.processingJobs) :
    left = some x ∧ x.id = jobId ∨ x ∈ db.processingJobs ∧ x.id ≠ jobId := by
  have found := Table.get?_of_mem held
  rw [leaves x.id] at found
  by_cases own : x.id = jobId
  · rw [if_pos own] at found
    exact Or.inl ⟨found, own⟩
  · rw [if_neg own] at found
    exact Or.inr ⟨Table.mem_of_get? found, own⟩

theorem Tracked.committed (tracked : Tracked s) (held : iteration ∈ s.opened) {w : Surroundings}
    (ran : iteration.run w s.db = (error, .ok db)) :
    Tracked (s.committed iteration error db) := by
  rcases tracked.outcome held ran with ⟨row, found, claims, left, leaves, outcome⟩
  constructor
  · intro other open_
    rcases Table.mem_erase.1 open_ with ⟨before, ne⟩
    rcases tracked.claims other before with ⟨row', found', claims'⟩
    exact ⟨row', (leaves.get?_of_ne ne).trans found', claims'⟩
  · intro x held'
    rcases leaves.mem held' with ⟨rfl, _⟩ | ⟨before, _⟩
    · exact outcome.settled claims
    · exact tracked.settled x before
  · intro x held'
    rcases leaves.mem held' with ⟨_, own⟩ | ⟨before, _⟩
    · have same := Table.key_of_get? found
      have known := tracked.used row (Table.mem_of_get? found)
      rw [same, ← own] at known
      exact known
    · exact tracked.used x before

theorem tracked_step (tracked : Tracked s) (next : step s e = some u) : Tracked u := by
  cases step_move next with
  | admitted job newId now jobs event fresh absent inserted =>
      constructor
      · intro iteration open_
        rcases tracked.claims iteration open_ with ⟨row, found, claims⟩
        refine ⟨row, ?_, claims⟩
        have other : iteration.jobId ≠ newId := by
          intro same
          have known := tracked.used row (Table.mem_of_get? found)
          rw [Table.key_of_get? found, same] at known
          exact fresh known
        have kept := @Table.get?_insert? _ _ _ _ _ _ _ iteration.jobId inserted
        have skipped : iteration.jobId ≠ (JobRepository.newRow job newId now).id := other
        rw [if_neg skipped] at kept
        exact kept.trans found
      · intro row held
        rcases (Table.mem_insert? inserted).1 held with before | rfl
        · exact tracked.settled row before
        · exact ProcessingJobStatus.noConfusion
      · intro row held
        rcases (Table.mem_insert? inserted).1 held with before | rfl
        · exact List.mem_append_left _ (tracked.used row before)
        · exact List.mem_append_right _ (List.mem_singleton_self _)
  | repeated job newId now event present =>
      exact ⟨tracked.claims, tracked.settled,
        fun row held => List.mem_append_left _ (tracked.used row held)⟩
  | idle => exact tracked
  | claimed iteration row opened held claims inserted =>
      refine ⟨?_, tracked.settled, tracked.used⟩
      intro other open_
      rcases (Table.mem_insert? inserted).1 open_ with before | rfl
      · exact tracked.claims other before
      · exact ⟨row, held, claims⟩
  | rolledBack iteration held =>
      exact ⟨fun other open_ => tracked.claims other (Table.mem_erase.1 open_).1,
        tracked.settled, tracked.used⟩
  | committed iteration held w error db ran => exact tracked.committed held ran
  | recovered staleBefore now =>
      rw [tracked.recovered]
      exact tracked

end Tracking

end LeadAssistant.Pipeline
