/-
Module: LeadAssistant.Repositories.Jobs
Layer: Repositories
Purpose: `JobRepository` (`queue.py`) and `DownstreamJobRepository` (`downstream.py`): one durable
  row per message, claimed by the stage-1 worker and then by two downstream phases. A claim returns
  the row as its session changed and flushed it. `now` is `NOW()`, the start of the transaction.
Trusted boundary: human-reviewed spec
Main exports: NewJob, HandlerError, JobRepository.enqueue, claim, retry, complete, route, fail,
  recoverStale, registerFingerprint, DownstreamPhase, DownstreamJobRepository.claim, saveReplyChain
-/
import LeadAssistant.Database.Models
import Mathlib.Data.Prod.Lex
import Mathlib.Order.Defs.LinearOrder
import Mathlib.Data.Int.Order.Basic

namespace LeadAssistant

open Relational

/-- What the queue workers read of an exception: it is retryable unless its `retryable` says
`False`, and its code is its `error_code` or else the name of its class. -/
structure HandlerError where
  retryable : Bool := true
  errorCode : String
deriving Repr, DecidableEq

namespace HandlerError

def lookupError : HandlerError := { errorCode := "LookupError" }

def valueError : HandlerError := { errorCode := "ValueError" }

/-- A violated constraint. -/
def integrityError : HandlerError := { errorCode := "IntegrityError" }

/-- A value that its column cannot store. -/
def dataError : HandlerError := { errorCode := "DBAPIError" }

end HandlerError

/-- Values required to enqueue one Telegram message. -/
structure NewJob where
  monitoredChatId : UUID
  telegramChatId : Int
  telegramMessageId : Int
  messageText : String
  telegramCreatedAt : Time
  topicId : Option Int := none
  senderTelegramId : Option Int := none
  senderDisplayName : Option String := none
deriving Repr, DecidableEq

namespace Database

/-- The job row of a message, by its unique constraint. -/
def jobFor? (db : Database) (telegramChatId telegramMessageId : Int) : Option ProcessingJob :=
  db.processingJobs.rows.find? (fun job =>
    job.telegramChatId = telegramChatId && job.telegramMessageId = telegramMessageId)

/-- Write one job row back. -/
def putProcessingJob (db : Database) (job : ProcessingJob) : Database :=
  db.setProcessingJobs (db.processingJobs.put job)

end Database

namespace JobRepository

/-- The row of a new job, with the defaults of its columns. -/
def newRow (job : NewJob) (id : UUID) (now : Time) : ProcessingJob where
  id := id
  monitoredChatId := job.monitoredChatId
  telegramChatId := job.telegramChatId
  telegramMessageId := job.telegramMessageId
  topicId := job.topicId
  senderTelegramId := job.senderTelegramId
  senderDisplayName := job.senderDisplayName
  messageText := job.messageText
  telegramCreatedAt := job.telegramCreatedAt
  status := .pending
  attemptCount := 0
  nextAttemptAt := now
  lockedAt := none
  lockedBy := none
  lastErrorCode := none
  lastErrorMessage := none
  replyChainSnapshot := none
  createdAt := now
  expiresAt := now + hours 24

/-- `enqueue`: insert once, and answer with the id of the row that is there. -/
def enqueue (job : NewJob) (newId : UUID) (now : Time) (db : Database) :
    Except HandlerError (UUID × Database) :=
  match db.jobFor? job.telegramChatId job.telegramMessageId with
  | some existing => .ok (existing.id, db)
  | none =>
      let row := newRow job newId now
      if !row.storable then .error .dataError
      else match db.processingJobs.insert? row with
        | some jobs => .ok (newId, db.setProcessingJobs jobs)
        | none => .error .integrityError

theorem enqueue_jobs {job : NewJob} {newId jobId : UUID} {now : Time} {db db' : Database}
    (enqueued : enqueue job newId now db = .ok (jobId, db')) :
    ∃ jobs, db' = db.setProcessingJobs jobs := by
  unfold enqueue at enqueued
  split at enqueued
  · cases enqueued
    exact ⟨db.processingJobs, rfl⟩
  · dsimp only at enqueued
    split at enqueued
    · cases enqueued
    · split at enqueued
      · rename_i jobs _
        cases enqueued
        exact ⟨jobs, rfl⟩
      · cases enqueued

/-- The rows the stage-1 worker may take. -/
def claimable (locked : UUID → Bool) (now : Time) (job : ProcessingJob) : Bool :=
  (job.status = .pending || job.status = .retry) && job.nextAttemptAt ≤ now && !locked job.id

/-- A job as its claiming session changes it. -/
def claimed (workerId : String) (now : Time) (job : ProcessingJob) : ProcessingJob :=
  { job with
    status := .processing, lockedAt := some now, lockedBy := some workerId,
    attemptCount := job.attemptCount + 1 }

/-- The oldest ready job, with rows locked by peers skipped. -/
def claim (workerId : String) (locked : UUID → Bool) (now : Time) (db : Database) :
    Option ProcessingJob :=
  (db.processingJobs.firstBy (claimable locked now)
    (fun job => toLex (job.createdAt, job.id))).map (claimed workerId now)

/-- `_get_locked`, then a change of the row. -/
def modify (jobId : UUID) (change : ProcessingJob → ProcessingJob) (db : Database) :
    Except HandlerError Database :=
  match db.processingJobs.get? jobId with
  | none => .error .lookupError
  | some job => .ok (db.putProcessingJob (change job))

/-- The values of `retry`. -/
def retried (errorCode : String) (retryAt : Time) (errorMessage : Option String)
    (job : ProcessingJob) : ProcessingJob :=
  { job with
    status := .retry, nextAttemptAt := retryAt, lockedAt := none, lockedBy := none,
    lastErrorCode := some errorCode, lastErrorMessage := errorMessage }

/-- Release a claimed job and make it available at the requested time. -/
def retry (jobId : UUID) (errorCode : String) (retryAt : Time) (db : Database)
    (errorMessage : Option String := none) : Except HandlerError Database :=
  modify jobId (retried errorCode retryAt errorMessage) db

/-- Delete a successfully processed temporary job. -/
def complete (jobId : UUID) (db : Database) : Database :=
  db.setProcessingJobs (db.processingJobs.erase jobId)

/-- The values of `route`. -/
def routed (status : ProcessingJobStatus) (job : ProcessingJob) : ProcessingJob :=
  { job with
    status := status, lockedAt := none, lockedBy := none, lastErrorCode := none,
    lastErrorMessage := none, attemptCount := 0 }

/-- Release a classified job into a downstream state. -/
def route (jobId : UUID) (status : ProcessingJobStatus) (db : Database) :
    Except HandlerError Database :=
  if status ≠ .awaitingRelevantProcessing ∧ status ≠ .awaitingReplyContext then .error .valueError
  else modify jobId (routed status) db

/-- The values of `fail`. -/
def failed (errorCode : String) (errorMessage : Option String) (job : ProcessingJob) :
    ProcessingJob :=
  { job with
    status := .failed, lockedAt := none, lockedBy := none, lastErrorCode := some errorCode,
    lastErrorMessage := errorMessage }

/-- Release a poison job into a terminal state for operator review. -/
def fail (jobId : UUID) (errorCode : String) (db : Database)
    (errorMessage : Option String := none) : Except HandlerError Database :=
  modify jobId (failed errorCode errorMessage) db

/-- The claims that `recover_stale` takes over. -/
def isStale (staleBefore : Time) (job : ProcessingJob) : Bool :=
  job.status = .processing && job.lockedAt.any (fun lockedAt => lockedAt < staleBefore)

def recovered (now : Time) (job : ProcessingJob) : ProcessingJob :=
  { job with
    status := .retry, nextAttemptAt := now, lockedAt := none, lockedBy := none,
    lastErrorCode := some "STALE_LOCK_RECOVERED" }

theorem recovered_id (now : Time) (job : ProcessingJob) : (recovered now job).id = job.id := rfl

/-- Return processing jobs with expired locks to the retry state. -/
def recoverStale (staleBefore now : Time) (db : Database) : Database :=
  db.setProcessingJobs (db.processingJobs.updateWhere (isStale staleBefore) (recovered now)
    (fun job _ => recovered_id now job))

/-! ### Content deduplication -/

/-- The common table expression `existing`, read in a snapshot. -/
def existing (telegramChatId : Int) (fingerprint : String)
    (snapshot : Table RecentMessageFingerprint.key) : Option Time :=
  (snapshot.get? (telegramChatId, fingerprint)).map (fun row => row.lastSeenAt)

/-- `INSERT ... ON CONFLICT DO UPDATE SET last_seen_at = now()`. -/
def recordSighting (telegramChatId : Int) (fingerprint : String) (now : Time)
    (table : Table RecentMessageFingerprint.key) : Table RecentMessageFingerprint.key :=
  match table.insert? ⟨telegramChatId, fingerprint, now⟩ with
  | some inserted => inserted
  | none => table.put ⟨telegramChatId, fingerprint, now⟩

theorem existing_recordSighting {chatId chatId' : Int} {fingerprint fingerprint' : String}
    {now : Time} {table : Table RecentMessageFingerprint.key} :
    existing chatId fingerprint (recordSighting chatId' fingerprint' now table) =
      if (chatId, fingerprint) = (chatId', fingerprint') then some now
      else existing chatId fingerprint table := by
  let row : RecentMessageFingerprint := ⟨chatId', fingerprint', now⟩
  have key : row.key = (chatId', fingerprint') := rfl
  have written : (recordSighting chatId' fingerprint' now table).get? (chatId, fingerprint) =
      if (chatId, fingerprint) = row.key then some row
      else table.get? (chatId, fingerprint) := by
    unfold recordSighting
    cases inserted : table.insert? row with
    | some rows => exact Table.get?_insert? inserted
    | none =>
        rcases Table.insert?_eq_none_iff.1 inserted with ⟨other, held, same⟩
        have taken : (table.get? row.key).isSome :=
          Option.isSome_iff_exists.2 ⟨other, Table.get?_eq_some_iff.2 ⟨held, same⟩⟩
        by_cases own : (chatId, fingerprint) = row.key
        · rw [if_pos own, own]
          exact Table.get?_put_self taken
        · rw [if_neg own]
          unfold Table.put
          rw [Table.get?_update, if_neg own]
  unfold existing
  rw [written, key]
  split <;> rfl

/-- New, or outside the rolling window; `appNow` is the application's clock. -/
def admits (window : Int) (appNow : Time) (prior : Option Time) : Bool :=
  prior.all (fun lastSeenAt => lastSeenAt ≤ appNow - window)

/-- `register_fingerprint`, with no other transaction under way. -/
def registerFingerprint (telegramChatId : Int) (fingerprint : String) (window : Int)
    (now appNow : Time) (db : Database) : Bool × Database :=
  let prior := existing telegramChatId fingerprint db.recentMessageFingerprints
  (admits window appNow prior,
    db.setFingerprints
      (recordSighting telegramChatId fingerprint now db.recentMessageFingerprints))

end JobRepository

/-- Disjoint consumers of one durable processing row. -/
inductive DownstreamPhase where
  | replyChain | classification
deriving Repr, DecidableEq

namespace DownstreamJobRepository

def STALE_LOCK_AFTER : Int := minutes 5

/-- `_STATUSES`. -/
def isDownstream (status : ProcessingJobStatus) : Bool :=
  status = .awaitingRelevantProcessing || status = .awaitingReplyContext

/-- The rows one phase may take. -/
def claimable (phase : DownstreamPhase) (locked : UUID → Bool) (now : Time)
    (job : ProcessingJob) : Bool :=
  isDownstream job.status && job.nextAttemptAt ≤ now &&
    (match phase with
      | .replyChain => job.replyChainSnapshot.isNone
      | .classification => job.replyChainSnapshot.isSome) &&
    job.lockedAt.all (fun lockedAt => lockedAt < now - STALE_LOCK_AFTER) && !locked job.id

/-- A job as its claiming session changes it; its status stays. -/
def claimed (workerId : String) (now : Time) (job : ProcessingJob) : ProcessingJob :=
  { job with
    lockedAt := some now, lockedBy := some workerId, attemptCount := job.attemptCount + 1 }

def claim (workerId : String) (phase : DownstreamPhase) (locked : UUID → Bool) (now : Time)
    (db : Database) : Option ProcessingJob :=
  (db.processingJobs.firstBy (claimable phase locked now)
    (fun job => toLex (job.createdAt, job.id))).map (claimed workerId now)

/-- The values of `save_reply_chain`. -/
def loaded (snapshot : Json) (now : Time) (job : ProcessingJob) : ProcessingJob :=
  { job with
    replyChainSnapshot := some snapshot, attemptCount := 0, nextAttemptAt := now,
    lockedAt := none, lockedBy := none, lastErrorCode := none, lastErrorMessage := none }

/-- Publish a snapshot to the classifier phase. -/
def saveReplyChain (jobId : UUID) (snapshot : Json) (now : Time) (db : Database) :
    Except HandlerError Database :=
  if !snapshot.storable then .error .dataError
  else JobRepository.modify jobId (loaded snapshot now) db

/-- The values of `retry`; the status stays. -/
def retried (errorCode : String) (retryAt : Time) (job : ProcessingJob) : ProcessingJob :=
  { job with
    nextAttemptAt := retryAt, lockedAt := none, lockedBy := none,
    lastErrorCode := some (clipped errorCode), lastErrorMessage := none }

/-- Release downstream work without routing it back through Stage 1. -/
def retry (jobId : UUID) (errorCode : String) (retryAt : Time) (db : Database) :
    Except HandlerError Database :=
  JobRepository.modify jobId (retried errorCode retryAt) db

/-- Move exhausted downstream work to terminal operator review. -/
def fail (jobId : UUID) (errorCode : String) (db : Database) : Except HandlerError Database :=
  JobRepository.fail jobId (clipped errorCode) db

end DownstreamJobRepository

end LeadAssistant
