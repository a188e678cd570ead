/-
Module: LeadAssistant.Database.Worker
Layer: Database
Purpose: The worker runtime (`worker.py`): the retry schedule and what `QueueWorker.run_once` and
  `DownstreamQueueWorker.run_once` do with the outcome of a handler. The handler runs in a
  savepoint, so an error leaves the contents as the claim flushed them. The result of an iteration
  is what it commits; an error rolls the whole iteration back.
Trusted boundary: human-reviewed spec
Main exports: RetryPolicy.delayAfterAttempt, QueueWorker.settle, DownstreamQueueWorker.settle
-/
import LeadAssistant.Classifier.Stages

namespace LeadAssistant

/-- Bounded retry schedule from the product specification. -/
structure RetryPolicy where
  delaysSeconds : List Nat := [15, 60, 300, 1800]

/-- The delay after a failed attempt, or `none` when retries are exhausted. -/
def RetryPolicy.delayAfterAttempt (policy : RetryPolicy) (attemptCount : Nat) :
    Except HandlerError (Option Int) :=
  if attemptCount < 1 then .error .valueError
  else .ok (policy.delaysSeconds[attemptCount - 1]?.map (fun delay => seconds delay))

/-- The delay after an error, which a permanent error does not have. -/
def RetryPolicy.delayAfter (policy : RetryPolicy) (error : HandlerError) (attemptCount : Nat) :
    Except HandlerError (Option Int) :=
  if error.retryable then policy.delayAfterAttempt attemptCount else .ok none

/-- The rest of `QueueWorker.run_once` after its handler. `flushed` holds the claimed row. -/
def QueueWorker.settle (policy : RetryPolicy) (job : ProcessingJob) (startedAt : Time)
    (flushed : Database) (handled : Except HandlerError (JobDisposition × Database)) :
    Except HandlerError Database :=
  match handled with
  | .ok (.retain, db) => .ok db
  | .ok (.complete, db) => .ok (JobRepository.complete job.id db)
  | .error error => do
      let delay ← policy.delayAfter error job.attemptCount
      let errorCode := clipped error.errorCode
      match delay with
      | none => JobRepository.fail job.id errorCode flushed
      | some delay => JobRepository.retry job.id errorCode (startedAt + delay) flushed

/-- The rest of `DownstreamQueueWorker.run_once` after its handler. -/
def DownstreamQueueWorker.settle (policy : RetryPolicy) (job : ProcessingJob) (startedAt : Time)
    (flushed : Database) (handled : Except HandlerError Database) : Except HandlerError Database :=
  match handled with
  | .ok db => .ok db
  | .error error => do
      let delay ← policy.delayAfter error job.attemptCount
      let errorCode := clipped error.errorCode
      match delay with
      | none => DownstreamJobRepository.fail job.id errorCode flushed
      | some delay => DownstreamJobRepository.retry job.id errorCode (startedAt + delay) flushed

end LeadAssistant
