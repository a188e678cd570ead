/-
Module: LeadAssistant.Pipeline.Outcomes
Layer: Pipeline
Purpose: What an iteration that commits can do, said once: an error is retried or fails the job, and
  a success routes it, drops it, loads its chain, decides it or persists its question. Each function
  on the way has one lemma that says what it leaves.
Trusted boundary: none
Main exports: LeavesRow, SameRecords, Records, Iteration.Claims, Outcome, run_outcome
-/
import LeadAssistant.Pipeline.Pipeline
import LeadAssistant.Library.Fallible

namespace LeadAssistant.Pipeline

open Relational

/-- The row of one job is `left`, and all other jobs are as before. -/
def LeavesRow (db u : Database) (jobId : UUID) (left : Option ProcessingJob) : Prop :=
  ∀ k, u.processingJobs.get? k = if k = jobId then left else db.processingJobs.get? k

/-- Runs, questions and notifications are as before. -/
structure SameRecords (db u : Database) : Prop where
  runs : u.classificationRuns = db.classificationRuns
  questions : u.detectedQuestions = db.detectedQuestions
  notifications : u.botNotifications = db.botNotifications

/-- A run is recorded, unless there is one of its message and stage. -/
structure Records (db u : Database) (run : ClassificationRun) : Prop where
  runs : db.classificationRuns.insert? run = some u.classificationRuns ∨
    (db.classificationRuns.get? run.key).isSome ∧ u.classificationRuns = db.classificationRuns
  questions : u.detectedQuestions = db.detectedQuestions
  notifications : u.botNotifications = db.botNotifications

/-- A new question of a message, with its notification. -/
structure Persists (db u : Database) (job : ProcessingJob) : Prop where
  absent : db.questionFor? job.telegramChatId job.telegramMessageId = none
  runs : u.classificationRuns = db.classificationRuns
  inserted : ∃ question notification,
    question.telegramChatId = job.telegramChatId ∧
    question.telegramMessageId = job.telegramMessageId ∧
    notification.questionId = question.id ∧
    db.detectedQuestions.insert? question = some u.detectedQuestions ∧
    db.botNotifications.insert? notification = some u.botNotifications

section Rows

variable {db u v : Database} {job : ProcessingJob} {jobId : UUID}
  {left left' : Option ProcessingJob} {change : ProcessingJob → ProcessingJob}

theorem LeavesRow.trans (first : LeavesRow db u jobId left) (second : LeavesRow u v jobId left') :
    LeavesRow db v jobId left' := by
  intro k
  rw [second k, first k]
  split <;> rfl

theorem leavesRow_put (held : (db.processingJobs.get? job.id).isSome) :
    LeavesRow db (db.putProcessingJob job) job.id (some job) :=
  fun _ => Table.get?_put held

theorem leavesRow_complete : LeavesRow db (JobRepository.complete jobId db) jobId none :=
  fun _ => Table.get?_erase

theorem sameRecords_put : SameRecords db (db.putProcessingJob job) := ⟨rfl, rfl, rfl⟩

/-- A locked row is there, so its change cannot fail. -/
theorem modify_eq (held : db.processingJobs.get? jobId = some job) :
    JobRepository.modify jobId change db = .ok (db.putProcessingJob (change job)) := by
  unfold JobRepository.modify
  rw [held]

/-- The change of a locked row that keeps its id. -/
theorem modify_spec (held : db.processingJobs.get? jobId = some job)
    (keeps : (change job).id = job.id)
    (changed : JobRepository.modify jobId change db = .ok u) :
    LeavesRow db u jobId (some (change job)) ∧ SameRecords db u := by
  rw [modify_eq held] at changed
  cases changed
  have same_id : (change job).id = jobId := keeps.trans (Table.key_of_get? held)
  constructor
  · rw [← same_id]
    apply leavesRow_put
    rw [same_id, held]
    rfl
  · exact sameRecords_put

theorem route_spec {status : ProcessingJobStatus}
    (held : db.processingJobs.get? jobId = some job)
    (routed : JobRepository.route jobId status db = .ok u) :
    LeavesRow db u jobId (some (JobRepository.routed status job)) ∧ SameRecords db u := by
  unfold JobRepository.route at routed
  split at routed
  · cases routed
  · exact modify_spec held rfl routed

end Rows

section Handlers

variable {db u : Database} {job : ProcessingJob} {now : Time} {adapter : ClassificationAdapter}

theorem recordStage_spec {telegramChatId telegramMessageId : Int} {stage : Nat} {queuedAt : Time}
    {model : String} {response : ClassificationResponse} {pricing : ClassificationPricing}
    {inserted : Bool}
    (recorded : UsageRepository.recordStage telegramChatId telegramMessageId stage queuedAt model
      response pricing now db = .ok (inserted, u)) :
    u.processingJobs = db.processingJobs ∧ ∃ run : ClassificationRun,
      run.key = (telegramChatId, telegramMessageId, stage) ∧ run.result = response.result.name ∧
      Records db u run ∧
      (inserted = true → db.classificationRuns.insert? run = some u.classificationRuns) := by
  rcases UsageRepository.recordStage_cases rfl recorded with
    ⟨-, ⟨taken, refused, same⟩ | ⟨_, stored, frame, -, -⟩⟩
  · subst same
    refine ⟨rfl, _, rfl, rfl, ⟨Or.inr ⟨taken, rfl⟩, rfl, rfl⟩, fun fresh => ?_⟩
    exact absurd fresh (refused ▸ Bool.false_ne_true)
  · rw [frame]
    exact ⟨rfl, _, rfl, rfl, ⟨Or.inl stored, rfl, rfl⟩, fun _ => stored⟩

/-- Where Stage 1 sends a job, by the result it has recorded. -/
def routeOf : StageResult → Option ProcessingJobStatus
  | .contextRequired => some .awaitingReplyContext
  | .relevant => some .awaitingRelevantProcessing
  | .irrelevant => none

theorem stage1_spec {disposition : JobDisposition} (processing : job.status = .processing)
    (held : db.processingJobs.get? job.id = some job)
    (handled : Stage1ClassificationHandler.call adapter job now db = .ok (disposition, u)) :
    ∃ (response : ClassificationResponse) (run : ClassificationRun),
      adapter.classify job.messageText = .ok response ∧ run.result = response.result.name ∧
      run.key = (job.telegramChatId, job.telegramMessageId, 1) ∧ Records db u run ∧
      match routeOf run.result with
      | some status => disposition = .retain ∧
          LeavesRow db u job.id (some (JobRepository.routed status job))
      | none => disposition = .complete ∧ u.processingJobs = db.processingJobs := by
  unfold Stage1ClassificationHandler.call at handled
  rw [if_neg (by simp [processing]), Except.bind_eq_ok_iff] at handled
  rcases handled with ⟨response, answered, handled⟩
  rw [Except.bind_eq_ok_iff] at handled
  rcases handled with ⟨⟨inserted, recorded⟩, stored, handled⟩
  rcases recordStage_spec stored with ⟨jobs, run, message, result, records, _⟩
  have held' : recorded.processingJobs.get? job.id = some job := by
    rw [jobs]
    exact held
  have routes : ∀ status, JobRepository.route job.id status recorded = .ok u →
      LeavesRow db u job.id (some (JobRepository.routed status job)) ∧ Records db u run := by
    intro status routed
    rcases route_spec held' routed with ⟨leaves, same⟩
    constructor
    · intro k
      rw [leaves k, jobs]
    · constructor
      · rw [same.runs]
        exact records.runs
      · exact same.questions.trans records.questions
      · exact same.notifications.trans records.notifications
  refine ⟨response, run, answered, result, message, ?_⟩
  rw [result]
  unfold ClassificationResult.name
  dsimp only at handled
  split at handled
  · rename_i context
    rcases Except.bind_eq_ok_iff.1 handled with ⟨routed, route, finished⟩
    cases finished
    rw [if_pos context]
    exact ⟨(routes _ route).2, rfl, (routes _ route).1⟩
  · rename_i context
    rw [if_neg context]
    split at handled
    · rename_i relevant
      rcases Except.bind_eq_ok_iff.1 handled with ⟨routed, route, finished⟩
      cases finished
      rw [if_pos relevant]
      exact ⟨(routes _ route).2, rfl, (routes _ route).1⟩
    · rename_i irrelevant
      cases handled
      rw [if_neg irrelevant]
      exact ⟨records, rfl, jobs⟩

open ReplyChainLoader in
theorem snapshot_spec {timestamps : TimestampCodec} {history : MessageHistory}
    (handled : ReplyChainSnapshotHandler.call timestamps history job now db = .ok u) :
    ∃ chain stored, getReplyChain history job.telegramChatId job.telegramMessageId = some chain ∧
      (serializeReplyChain timestamps chain).storable = true ∧
      db.processingJobs.get? job.id = some stored ∧
      LeavesRow db u job.id (some (DownstreamJobRepository.loaded
        (serializeReplyChain timestamps chain) now stored)) ∧ SameRecords db u := by
  unfold ReplyChainSnapshotHandler.call at handled
  split at handled
  · cases handled
  · rename_i chain loaded
    unfold DownstreamJobRepository.saveReplyChain at handled
    split at handled
    · cases handled
    · rename_i storable
      cases held : db.processingJobs.get? job.id with
      | none =>
          unfold JobRepository.modify at handled
          rw [held] at handled
          cases handled
      | some stored =>
          have storable : (serializeReplyChain timestamps chain).storable = true := by
            simpa using storable
          exact ⟨chain, stored, loaded, storable, rfl, modify_spec held rfl handled⟩

theorem classify_spec {chain : ReplyChain} (held : db.processingJobs.get? job.id = some job)
    (handled : Stage2ClassificationService.classify adapter job chain now db = .ok u) :
    job.status = .awaitingReplyContext ∧ ∃ run : ClassificationRun,
      run.key = (job.telegramChatId, job.telegramMessageId, 2) ∧ Records db u run ∧
      db.classificationRuns.insert? run = some u.classificationRuns ∧
      (run.result = .relevant ∧ LeavesRow db u job.id
          (some (JobRepository.routed .awaitingRelevantProcessing job)) ∨
        run.result = .irrelevant ∧ LeavesRow db u job.id none) := by
  unfold Stage2ClassificationService.classify at handled
  split at handled
  · cases handled
  · rename_i awaiting
    simp only [ne_eq, not_not] at awaiting
    refine ⟨awaiting, ?_⟩
    dsimp only at handled
    split at handled
    · cases handled
    · split at handled
      · cases handled
      · rcases Except.bind_eq_ok_iff.1 handled with ⟨targetText, _, handled⟩
        rcases Except.bind_eq_ok_iff.1 handled with ⟨response, _, handled⟩
        split at handled
        · rcases Except.bind_eq_ok_iff.1 handled with ⟨_, raised, _⟩
          cases raised
        · rename_i final
          rcases Except.bind_eq_ok_iff.1 handled with ⟨⟨inserted, recorded⟩, stored, handled⟩
          dsimp only at handled
          split at handled
          · rcases Except.bind_eq_ok_iff.1 handled with ⟨_, raised, _⟩
            cases raised
          · rename_i fresh
            rcases recordStage_spec stored with ⟨jobs, run, message, result, records, accepted⟩
            have accepted := accepted (by simpa using fresh)
            refine ⟨run, message, ?_⟩
            rw [result]
            unfold ClassificationResult.name
            rw [if_neg final]
            split at handled
            · rename_i relevant
              have held' : recorded.processingJobs.get? job.id = some job := by
                rw [jobs]
                exact held
              rcases route_spec held' handled with ⟨leaves, same⟩
              have stored_runs : db.classificationRuns.insert? run = some u.classificationRuns := by
                rw [same.runs]
                exact accepted
              refine ⟨⟨Or.inl stored_runs, same.questions.trans records.questions,
                same.notifications.trans records.notifications⟩, stored_runs, ?_⟩
              left
              rw [if_pos relevant]
              refine ⟨rfl, fun k => ?_⟩
              rw [leaves k, jobs]
            · rename_i irrelevant
              cases handled
              refine ⟨⟨Or.inl accepted, records.questions, records.notifications⟩, accepted, ?_⟩
              right
              rw [if_neg irrelevant]
              refine ⟨rfl, fun k => ?_⟩
              rw [leavesRow_complete k, jobs]

/-- The chain rows change neither the runs, nor the questions, nor the notifications, nor the
jobs, nor the usage. -/
theorem insertChainMessage_frame {rows : List QuestionChainMessage}
    (chained : rows.foldlM Database.insertChainMessage db = .ok u) :
    SameRecords db u ∧ u.processingJobs = db.processingJobs ∧
      u.apiUsageDaily = db.apiUsageDaily := by
  apply Except.foldlM_invariant chained
  · exact ⟨⟨rfl, rfl, rfl⟩, rfl, rfl⟩
  · intro v row w same inserted
    unfold Database.insertChainMessage at inserted
    split at inserted
    · cases inserted
    · split at inserted
      · cases inserted
      · split at inserted
        · cases inserted
        · cases inserted
          exact ⟨⟨same.1.runs, same.1.questions, same.1.notifications⟩, same.2⟩

theorem insertDetectedQuestion_spec {question : DetectedQuestion}
    (asked : db.insertDetectedQuestion question = .ok u) :
    ∃ questions, db.detectedQuestions.insert? question = some questions ∧
      u = db.setDetectedQuestions questions := by
  unfold Database.insertDetectedQuestion at asked
  split at asked
  · cases asked
  · split at asked
    · cases asked
    · split at asked
      · cases asked
      · rename_i questions inserted
        cases asked
        exact ⟨questions, inserted, rfl⟩

theorem insertBotNotification_spec {notification : BotNotification}
    (notified : db.insertBotNotification notification = .ok u) :
    ∃ notifications, db.botNotifications.insert? notification = some notifications ∧
      u = db.setBotNotifications notifications := by
  unfold Database.insertBotNotification at notified
  split at notified
  · cases notified
  · rename_i notifications inserted
    cases notified
    exact ⟨notifications, inserted, rfl⟩

theorem persist_spec {operatorTelegramUserId : Int} {service : Option TranslationService}
    {chain : ReplyChain} {newId questionId : UUID}
    (handled : RelevantQuestionPersistenceService.persist operatorTelegramUserId service job chain
      newId now db = .ok (questionId, u)) :
    job.status = .awaitingRelevantProcessing ∧ u.apiUsageDaily = db.apiUsageDaily ∧
      LeavesRow db u job.id none ∧
      ((db.questionFor? job.telegramChatId job.telegramMessageId).isSome ∧ SameRecords db u ∨
        Persists db u job) := by
  unfold RelevantQuestionPersistenceService.persist at handled
  split at handled
  · cases handled
  · rename_i awaiting
    simp only [ne_eq, not_not] at awaiting
    refine ⟨awaiting, ?_⟩
    split at handled
    · cases handled
    · split at handled
      · rename_i existing
        cases handled
        exact ⟨rfl, leavesRow_complete, Or.inl ⟨by rw [existing]; rfl, rfl, rfl, rfl⟩⟩
      · rename_i absent
        split at handled
        · cases handled
        · rename_i classification _
          split at handled
          · split at handled
            · cases handled
            · dsimp only at handled
              split at handled
              · cases handled
              · split at handled
                · cases handled
                · rename_i translation _
                  rcases Except.bind_eq_ok_iff.1 handled with ⟨asked, asking, handled⟩
                  rcases Except.bind_eq_ok_iff.1 handled with ⟨rows, _, handled⟩
                  rcases Except.bind_eq_ok_iff.1 handled with ⟨chained, chaining, handled⟩
                  rcases Except.bind_eq_ok_iff.1 handled with ⟨notified, notifying, handled⟩
                  cases handled
                  rcases insertDetectedQuestion_spec asking with ⟨questions, inserted, rfl⟩
                  rcases insertChainMessage_frame chaining with ⟨same, jobs, usage⟩
                  rcases insertBotNotification_spec notifying with ⟨notifications, told, rfl⟩
                  refine ⟨usage, ?_, ?_⟩
                  · intro k
                    rw [leavesRow_complete k]
                    show (if k = job.id then none else chained.processingJobs.get? k) = _
                    rw [jobs]
                    rfl
                  · right
                    have asked_once : db.detectedQuestions.insert?
                        (RelevantQuestionPersistenceService.newQuestion newId job chain
                          classification translation now) = some chained.detectedQuestions := by
                      rw [same.questions]
                      exact inserted
                    have told_once : db.botNotifications.insert?
                        (RelevantQuestionPersistenceService.newNotification newId
                          operatorTelegramUserId now) = some notifications := by
                      have before : chained.botNotifications = db.botNotifications :=
                        same.notifications
                      rw [← before]
                      exact told
                    exact ⟨absent, same.runs, _, _, rfl, rfl, rfl, asked_once, told_once⟩
          · cases handled

end Handlers

namespace Iteration

/-- The claim of an iteration: it has changed a row that is due and that its worker may take. -/
def Claims (iteration : Iteration) (row : ProcessingJob) : Prop :=
  row.nextAttemptAt ≤ iteration.startedAt ∧ ∃ workerId, match iteration.worker with
    | .stage1 => (row.status = .pending ∨ row.status = .retry) ∧
        iteration.job = JobRepository.claimed workerId iteration.startedAt row
    | .replyChain => DownstreamJobRepository.isDownstream row.status = true ∧
        row.replyChainSnapshot = none ∧
        iteration.job = DownstreamJobRepository.claimed workerId iteration.startedAt row
    | .classification => DownstreamJobRepository.isDownstream row.status = true ∧
        row.replyChainSnapshot.isSome = true ∧
        iteration.job = DownstreamJobRepository.claimed workerId iteration.startedAt row

/-- The row after a failure that is retried. -/
def retried (iteration : Iteration) (error : HandlerError) (delay : Nat) : ProcessingJob :=
  let retryAt := iteration.startedAt + seconds delay
  match iteration.worker with
  | .stage1 => JobRepository.retried (clipped error.errorCode) retryAt none iteration.job
  | _ => DownstreamJobRepository.retried (clipped error.errorCode) retryAt iteration.job

end Iteration

/-- The delay after the failure of an attempt that is not the last. -/
def retryDelay? (attemptCount : Nat) : Option Nat :=
  [15, 60, 300, 1800][attemptCount - 1]?

/-- What an iteration that commits has done, with the error of its handler and the row it leaves. -/
inductive Outcome (iteration : Iteration) (db u : Database) :
    Option HandlerError → Option ProcessingJob → Prop where
  | retried (error : HandlerError) (delay : Nat) (retryable : error.retryable = true)
      (due : retryDelay? iteration.job.attemptCount = some delay) (same : SameRecords db u) :
      Outcome iteration db u (some error) (some (iteration.retried error delay))
  | failed (error : HandlerError) (errorCode : String)
      (spent : error.retryable = true → retryDelay? iteration.job.attemptCount = none)
      (same : SameRecords db u) :
      Outcome iteration db u (some error) (some (JobRepository.failed errorCode none iteration.job))
  | routed (run : ClassificationRun) (status : ProcessingJobStatus)
      (worker : iteration.worker = .stage1)
      (message : run.key = (iteration.job.telegramChatId, iteration.job.telegramMessageId, 1))
      (sent : routeOf run.result = some status) (records : Records db u run) :
      Outcome iteration db u none (some (JobRepository.routed status iteration.job))
  | dropped (run : ClassificationRun) (worker : iteration.worker = .stage1)
      (message : run.key = (iteration.job.telegramChatId, iteration.job.telegramMessageId, 1))
      (sent : routeOf run.result = none) (records : Records db u run) :
      Outcome iteration db u none none
  | loaded (snapshot : Json) (worker : iteration.worker = .replyChain) (same : SameRecords db u) :
      Outcome iteration db u none
        (some (DownstreamJobRepository.loaded snapshot iteration.startedAt iteration.job))
  | chosen (run : ClassificationRun) (worker : iteration.worker = .classification)
      (awaiting : iteration.job.status = .awaitingReplyContext)
      (message : run.key = (iteration.job.telegramChatId, iteration.job.telegramMessageId, 2))
      (relevant : run.result = .relevant) (records : Records db u run)
      (accepted : db.classificationRuns.insert? run = some u.classificationRuns) :
      Outcome iteration db u none
        (some (JobRepository.routed .awaitingRelevantProcessing iteration.job))
  | declined (run : ClassificationRun) (worker : iteration.worker = .classification)
      (awaiting : iteration.job.status = .awaitingReplyContext)
      (message : run.key = (iteration.job.telegramChatId, iteration.job.telegramMessageId, 2))
      (irrelevant : run.result = .irrelevant) (records : Records db u run)
      (accepted : db.classificationRuns.insert? run = some u.classificationRuns) :
      Outcome iteration db u none none
  | duplicate (worker : iteration.worker = .classification)
      (awaiting : iteration.job.status = .awaitingRelevantProcessing)
      (existing : (db.questionFor? iteration.job.telegramChatId
        iteration.job.telegramMessageId).isSome) (same : SameRecords db u) :
      Outcome iteration db u none none
  | persisted (worker : iteration.worker = .classification)
      (awaiting : iteration.job.status = .awaitingRelevantProcessing)
      (persists : Persists db u iteration.job) : Outcome iteration db u none none

section Settling

variable {db u : Database} {job row : ProcessingJob} {startedAt : Time} {error : HandlerError}

/-- An error is retried after the delay of its attempt, or it is final. -/
theorem delayAfter_spec {attemptCount : Nat} {delay : Option Int}
    (scheduled : RetryPolicy.delayAfter {} error attemptCount = .ok delay) :
    (∃ n, error.retryable = true ∧ retryDelay? attemptCount = some n ∧ delay = some (seconds n)) ∨
      (error.retryable = true → retryDelay? attemptCount = none) ∧ delay = none := by
  unfold RetryPolicy.delayAfter at scheduled
  split at scheduled
  · rename_i retryable
    unfold RetryPolicy.delayAfterAttempt at scheduled
    split at scheduled
    · cases scheduled
    · cases scheduled
      have same : ({} : RetryPolicy).delaysSeconds[attemptCount - 1]? =
          retryDelay? attemptCount := rfl
      rw [same]
      cases due : retryDelay? attemptCount with
      | none => exact Or.inr ⟨fun _ => rfl, rfl⟩
      | some n => exact Or.inl ⟨n, retryable, rfl, rfl⟩
  · rename_i permanent
    cases scheduled
    exact Or.inr ⟨fun retryable => absurd retryable permanent, rfl⟩

theorem settle_error_spec (held : db.processingJobs.get? job.id = some job)
    (settled : QueueWorker.settle {} job startedAt db (.error error) = .ok u) :
    SameRecords db u ∧
      ((∃ n, error.retryable = true ∧ retryDelay? job.attemptCount = some n ∧
          LeavesRow db u job.id (some (JobRepository.retried (clipped error.errorCode)
            (startedAt + seconds n) none job))) ∨
        ∃ errorCode, (error.retryable = true → retryDelay? job.attemptCount = none) ∧
          LeavesRow db u job.id (some (JobRepository.failed errorCode none job))) := by
  unfold QueueWorker.settle at settled
  rcases Except.bind_eq_ok_iff.1 settled with ⟨delay, scheduled, settled⟩
  rcases delayAfter_spec scheduled with ⟨n, retryable, due, rfl⟩ | ⟨spent, rfl⟩
  · rcases modify_spec held rfl settled with ⟨leaves, same⟩
    exact ⟨same, Or.inl ⟨n, retryable, due, leaves⟩⟩
  · rcases modify_spec held rfl settled with ⟨leaves, same⟩
    exact ⟨same, Or.inr ⟨_, spent, leaves⟩⟩

theorem downstream_settle_error_spec (held : db.processingJobs.get? job.id = some job)
    (settled : DownstreamQueueWorker.settle {} job startedAt db (.error error) = .ok u) :
    SameRecords db u ∧
      ((∃ n, error.retryable = true ∧ retryDelay? job.attemptCount = some n ∧
          LeavesRow db u job.id (some (DownstreamJobRepository.retried (clipped error.errorCode)
            (startedAt + seconds n) job))) ∨
        ∃ errorCode, (error.retryable = true → retryDelay? job.attemptCount = none) ∧
          LeavesRow db u job.id (some (JobRepository.failed errorCode none job))) := by
  unfold DownstreamQueueWorker.settle at settled
  rcases Except.bind_eq_ok_iff.1 settled with ⟨delay, scheduled, settled⟩
  rcases delayAfter_spec scheduled with ⟨n, retryable, due, rfl⟩ | ⟨spent, rfl⟩
  · rcases modify_spec held rfl settled with ⟨leaves, same⟩
    exact ⟨same, Or.inl ⟨n, retryable, due, leaves⟩⟩
  · rcases modify_spec held rfl settled with ⟨leaves, same⟩
    exact ⟨same, Or.inr ⟨_, spent, leaves⟩⟩

end Settling

section Runs

variable {iteration : Iteration} {row : ProcessingJob} {w : Surroundings} {db u v : Database}
  {error : Option HandlerError}

theorem guarded_eq_ok {α : Type} {fault : Option HandlerError} {handled : Except HandlerError α}
    {a : α} (ok : guarded fault handled = .ok a) : handled = .ok a := by
  cases fault with
  | none => exact ok
  | some error => cases ok

theorem Iteration.Claims.processing (claims : iteration.Claims row)
    (worker : iteration.worker = .stage1) : iteration.job.status = .processing := by
  rcases claims with ⟨_, workerId, claimed⟩
  rw [worker] at claimed
  rw [claimed.2]
  rfl

theorem SameRecords.of_flushed (same : SameRecords (iteration.flushed db) u) : SameRecords db u :=
  ⟨same.runs, same.questions, same.notifications⟩

theorem Records.of_flushed {run : ClassificationRun}
    (records : Records (iteration.flushed db) u run) : Records db u run :=
  ⟨records.runs, records.questions, records.notifications⟩

theorem stage1_outcome (worker : iteration.worker = .stage1) (claims : iteration.Claims row)
    (held : (iteration.flushed db).processingJobs.get? iteration.job.id = some iteration.job)
    (settled : QueueWorker.settle {} iteration.job iteration.startedAt (iteration.flushed db)
      (iteration.classified w (iteration.flushed db)) = .ok u)
    (reported : (match iteration.classified w (iteration.flushed db) with
      | .ok _ => none | .error error => some error) = error) :
    ∃ left, LeavesRow (iteration.flushed db) u iteration.job.id left ∧
      Outcome iteration db u error left := by
  cases handled : iteration.classified w (iteration.flushed db) with
  | error raised =>
      rw [handled] at settled reported
      cases reported
      rcases settle_error_spec held settled with ⟨same, again | final⟩
      · rcases again with ⟨n, retryable, due, leaves⟩
        have row_eq : iteration.retried raised n = JobRepository.retried (clipped raised.errorCode)
            (iteration.startedAt + seconds n) none iteration.job := by
          unfold Iteration.retried
          rw [worker]
        exact ⟨_, row_eq ▸ leaves, .retried raised n retryable due same.of_flushed⟩
      · rcases final with ⟨errorCode, spent, leaves⟩
        exact ⟨_, leaves, .failed raised errorCode spent same.of_flushed⟩
  | ok answer =>
      rcases answer with ⟨disposition, v⟩
      rw [handled] at settled reported
      cases reported
      rcases stage1_spec (claims.processing worker) held (guarded_eq_ok handled) with
        ⟨_, run, _, _, message, records, sent⟩
      cases route : routeOf run.result with
      | some status =>
          rw [route] at sent
          rcases sent with ⟨rfl, leaves⟩
          cases settled
          exact ⟨_, leaves, .routed run status worker message route records.of_flushed⟩
      | none =>
          rw [route] at sent
          rcases sent with ⟨rfl, jobs⟩
          cases settled
          have same : Records (iteration.flushed db) (JobRepository.complete iteration.job.id v)
              run := ⟨records.runs, records.questions, records.notifications⟩
          refine ⟨none, fun k => ?_, .dropped run worker message route same.of_flushed⟩
          rw [leavesRow_complete k, jobs]

/-- The outcome of a downstream handler that has returned. -/
theorem handedOn_outcome (downstream : iteration.worker ≠ .stage1)
    (held : (iteration.flushed db).processingJobs.get? iteration.job.id = some iteration.job)
    (handled : iteration.handedOn w (iteration.flushed db) = .ok u) :
    ∃ left, LeavesRow (iteration.flushed db) u iteration.job.id left ∧
      Outcome iteration db u none left := by
  have ran := guarded_eq_ok handled
  cases worker : iteration.worker with
  | stage1 => exact absurd worker downstream
  | replyChain =>
      rw [worker] at ran
      rcases snapshot_spec ran with ⟨chain, stored, _, _, found, leaves, same⟩
      cases held.symm.trans found
      exact ⟨_, leaves, .loaded _ worker same.of_flushed⟩
  | classification =>
      rw [worker] at ran
      dsimp only at ran
      unfold DownstreamClassificationHandler.call at ran
      split at ran
      · cases ran
      · split at ran
        · cases ran
        · split at ran
          · cases ran
          · split at ran
            · rcases classify_spec held ran with ⟨awaiting, run, message, records, accepted, decided⟩
              rcases decided with ⟨relevant, leaves⟩ | ⟨irrelevant, leaves⟩
              · exact ⟨_, leaves, .chosen run worker awaiting message relevant records.of_flushed
                  accepted⟩
              · exact ⟨_, leaves, .declined run worker awaiting message irrelevant
                  records.of_flushed accepted⟩
            · rcases Except.map_eq_ok_iff.1 ran with ⟨⟨questionId, v⟩, persisted, rfl⟩
              rcases persist_spec persisted with ⟨awaiting, _, leaves, existing | persists⟩
              · exact ⟨_, leaves, .duplicate worker awaiting existing.1 existing.2.of_flushed⟩
              · exact ⟨_, leaves, .persisted worker awaiting
                  ⟨persists.absent, persists.runs, persists.inserted⟩⟩
            · cases ran

theorem downstream_outcome (downstream : iteration.worker ≠ .stage1)
    (held : (iteration.flushed db).processingJobs.get? iteration.job.id = some iteration.job)
    (settled : DownstreamQueueWorker.settle {} iteration.job iteration.startedAt
      (iteration.flushed db) (iteration.handedOn w (iteration.flushed db)) = .ok u)
    (reported : (match iteration.handedOn w (iteration.flushed db) with
      | .ok _ => none | .error error => some error) = error) :
    ∃ left, LeavesRow (iteration.flushed db) u iteration.job.id left ∧
      Outcome iteration db u error left := by
  cases handled : iteration.handedOn w (iteration.flushed db) with
  | error raised =>
      rw [handled] at settled reported
      cases reported
      rcases downstream_settle_error_spec held settled with ⟨same, again | final⟩
      · rcases again with ⟨n, retryable, due, leaves⟩
        have row_eq : iteration.retried raised n = DownstreamJobRepository.retried
            (clipped raised.errorCode) (iteration.startedAt + seconds n) iteration.job := by
          unfold Iteration.retried
          split
          · rename_i worker
            exact absurd worker downstream
          · rfl
        exact ⟨_, row_eq ▸ leaves, .retried raised n retryable due same.of_flushed⟩
      · rcases final with ⟨errorCode, spent, leaves⟩
        exact ⟨_, leaves, .failed raised errorCode spent same.of_flushed⟩
  | ok v =>
      rw [handled] at settled reported
      cases reported
      cases settled
      exact handedOn_outcome downstream held handled

/-- Everything that an iteration can commit. -/
theorem run_outcome (claims : iteration.Claims row)
    (held : db.processingJobs.get? iteration.jobId = some row)
    (ran : iteration.run w db = (error, .ok u)) :
    ∃ left, LeavesRow db u iteration.jobId left ∧ Outcome iteration db u error left := by
  have there : (db.processingJobs.get? iteration.job.id).isSome := by
    rw [held]
    rfl
  have flush : LeavesRow db (iteration.flushed db) iteration.job.id (some iteration.job) :=
    leavesRow_put there
  have flushed : (iteration.flushed db).processingJobs.get? iteration.job.id =
      some iteration.job := by
    rw [flush iteration.job.id, if_pos rfl]
  have outcome : ∃ left, LeavesRow (iteration.flushed db) u iteration.job.id left ∧
      Outcome iteration db u error left := by
    unfold Iteration.run at ran
    dsimp only at ran
    split at ran
    · rename_i worker
      rw [Prod.mk.injEq] at ran
      exact stage1_outcome worker claims flushed ran.2 ran.1
    · rename_i downstream
      rw [Prod.mk.injEq] at ran
      exact downstream_outcome downstream flushed ran.2 ran.1
  rcases outcome with ⟨left, leaves, outcome⟩
  exact ⟨left, flush.trans leaves, outcome⟩

end Runs

end LeadAssistant.Pipeline
