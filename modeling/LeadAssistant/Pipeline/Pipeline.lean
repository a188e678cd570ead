/-
Module: LeadAssistant.Pipeline.Pipeline
Layer: Pipeline
Purpose: The classification pipeline as one transition system. An iteration of a worker claims a
  row and locks it until it commits or is rolled back; any number of iterations of the stage-1, the
  reply-chain and the classification workers are open at a time, and ingestion and the stale-lock
  recovery commit in between. The handler's statements take effect at the commit: they touch the
  locked row and rows of its message alone. A handler can also fail with an error of its
  environment, whatever it would have done.
Trusted boundary: human-reviewed spec
Main exports: Worker, Phase, Iteration, Commit, State, Event, step
-/
import LeadAssistant.Library.Transition
import LeadAssistant.Classifier.Relevant
import LeadAssistant.Database.Worker

namespace LeadAssistant.Pipeline

open Relational

/-- The three workers that claim processing rows. -/
inductive Worker where
  | stage1 | replyChain | classification
deriving Repr, DecidableEq

/-- The phases of a job, in the order in which it passes through them. -/
inductive Phase where
  | stage1 | chainLoad | stage2 | persistence
deriving Repr, DecidableEq

def Phase.index : Phase → Nat
  | .stage1 => 0
  | .chainLoad => 1
  | .stage2 => 2
  | .persistence => 3

/-- An open iteration: the claimed row as its session changed it, and `NOW()`. -/
structure Iteration where
  worker : Worker
  job : ProcessingJob
  startedAt : Time

abbrev Iteration.jobId (iteration : Iteration) : UUID := iteration.job.id

/-- What an iteration works on. -/
def Iteration.phase (iteration : Iteration) : Phase :=
  match iteration.worker with
  | .stage1 => .stage1
  | .replyChain => .chainLoad
  | .classification =>
      if iteration.job.status = .awaitingReplyContext then .stage2 else .persistence

/-- What the environment gives to a handler. -/
structure Surroundings where
  timestamps : TimestampCodec
  operatorTelegramUserId : Int
  adapter : ClassificationAdapter
  source : ReplyMessageSource
  service : Option TranslationService
  newId : UUID
  fault : Option HandlerError := none

/-- A committed iteration: the error of its handler, and the row it left. -/
structure Commit where
  jobId : UUID
  phase : Phase
  startedAt : Time
  error : Option HandlerError
  left : Option ProcessingJob

/-- The committed database and the open iterations. The messages ever admitted, the job ids ever
used and the iterations that have committed are recorded for the proofs; ids are never used again. -/
structure State where
  db : Database
  opened : Table Iteration.jobId := ∅
  admitted : List (Int × Int) := []
  usedIds : List UUID := []
  commits : List Commit := []

inductive Event where
  | enqueue (job : NewJob) (newId : UUID) (now : Time)
  | claim (worker : Worker) (workerId : String) (now : Time)
  | finish (jobId : UUID) (surroundings : Surroundings)
  | crash (jobId : UUID)
  | recoverStale (staleBefore now : Time)

/-- The outcome of a handler: an error of its environment, or what its code does. -/
def guarded {α : Type} (fault : Option HandlerError) (handled : Except HandlerError α) :
    Except HandlerError α :=
  match fault with
  | some error => .error error
  | none => handled

namespace Iteration

/-- The contents after the claim is flushed. -/
def flushed (iteration : Iteration) (db : Database) : Database :=
  db.putProcessingJob iteration.job

/-- `Stage1ClassificationHandler`, in its savepoint. -/
def classified (iteration : Iteration) (w : Surroundings) (db : Database) :
    Except HandlerError (JobDisposition × Database) :=
  guarded w.fault
    (Stage1ClassificationHandler.call w.adapter iteration.job iteration.startedAt db)

/-- `ReplyChainSnapshotHandler` or `DownstreamClassificationHandler`, in its savepoint. -/
def handedOn (iteration : Iteration) (w : Surroundings) (db : Database) :
    Except HandlerError Database :=
  guarded w.fault (match iteration.worker with
    | .replyChain =>
        ReplyChainSnapshotHandler.call w.timestamps w.source iteration.job iteration.startedAt db
    | _ => DownstreamClassificationHandler.call w.timestamps w.adapter w.operatorTelegramUserId
        w.service iteration.job w.newId iteration.startedAt db)

/-- The handler's error, and what the iteration commits. -/
def run (iteration : Iteration) (w : Surroundings) (db : Database) :
    Option HandlerError × Except HandlerError Database :=
  let flushed := iteration.flushed db
  match iteration.worker with
  | .stage1 =>
      let handled := iteration.classified w flushed
      ((match handled with | .ok _ => none | .error error => some error),
        QueueWorker.settle {} iteration.job iteration.startedAt flushed handled)
  | _ =>
      let handled := iteration.handedOn w flushed
      ((match handled with | .ok _ => none | .error error => some error),
        DownstreamQueueWorker.settle {} iteration.job iteration.startedAt flushed handled)

end Iteration

namespace State

/-- A row lock held by an open iteration. -/
def locked (s : State) (jobId : UUID) : Bool :=
  (s.opened.get? jobId).isSome

/-- The row a worker claims. -/
def claimed? (s : State) (worker : Worker) (workerId : String) (now : Time) :
    Option ProcessingJob :=
  match worker with
  | .stage1 => JobRepository.claim workerId s.locked now s.db
  | .replyChain => DownstreamJobRepository.claim workerId .replyChain s.locked now s.db
  | .classification => DownstreamJobRepository.claim workerId .classification s.locked now s.db

/-- The end of an iteration without a commit. -/
def rolledBack (s : State) (jobId : UUID) : State :=
  { s with opened := s.opened.erase jobId }

/-- The end of an iteration that commits. -/
def committed (s : State) (iteration : Iteration) (error : Option HandlerError)
    (db : Database) : State :=
  { s with
    db := db
    opened := s.opened.erase iteration.jobId
    commits := s.commits ++ [⟨iteration.jobId, iteration.phase, iteration.startedAt, error,
      db.processingJobs.get? iteration.jobId⟩] }

end State

/-- One step of the pipeline. An iteration whose own statements fail is rolled back. -/
def step (s : State) : Event → Option State
  | .enqueue job newId now =>
      if newId ∈ s.usedIds then none
      else match JobRepository.enqueue job newId now s.db with
        | .error _ => none
        | .ok (_, db) =>
            some { s with
              db := db
              admitted := s.admitted ++ [(job.telegramChatId, job.telegramMessageId)]
              usedIds := s.usedIds ++ [newId] }
  | .claim worker workerId now =>
      match s.claimed? worker workerId now with
      | none => some s
      | some job =>
          (s.opened.insert? ⟨worker, job, now⟩).map (fun opened => { s with opened := opened })
  | .finish jobId surroundings =>
      match s.opened.get? jobId with
      | none => none
      | some iteration =>
          match iteration.run surroundings s.db with
          | (_, .error _) => some (s.rolledBack jobId)
          | (error, .ok db) => some (s.committed iteration error db)
  | .crash jobId =>
      match s.opened.get? jobId with
      | none => none
      | some _ => some (s.rolledBack jobId)
  | .recoverStale staleBefore now =>
      some { s with db := JobRepository.recoverStale staleBefore now s.db }

end LeadAssistant.Pipeline
