/-
Module: LeadAssistant.Repositories.Retention
Layer: Repositories
Purpose: `RetentionRepository` (`retention.py`): one bounded deletion from each table with a time
  to live, on the database's clock. Rows that other sessions have locked are skipped. Rows with equal
  order columns are taken in table order, which stands for the order of their random identifiers.
Trusted boundary: human-reviewed spec
Main exports: RetentionCleanupResult, RowLocks, RetentionRepository.cleanupOnce
-/
import LeadAssistant.Database.Models
import Mathlib.Data.Int.Order.Basic

namespace LeadAssistant

open Relational

/-- Rows removed by one bounded cleanup pass. -/
structure RetentionCleanupResult where
  processingJobs : Nat
  detectedQuestions : Nat
  classificationRuns : Nat
  messageFingerprints : Nat
deriving Repr, DecidableEq

/-- The rows that other sessions have locked. -/
structure RowLocks where
  job : UUID → Bool := fun _ => false
  question : UUID → Bool := fun _ => false
  run : Int × Int × Nat → Bool := fun _ => false
  fingerprint : Int × String → Bool := fun _ => false

namespace RetentionRepository

def expiredJob (now : Time) (temporaryTtl : Int) (job : ProcessingJob) : Bool :=
  job.expiresAt < now || job.createdAt < now - temporaryTtl

def expiredQuestion (now : Time) (relevantRetention : Int) (question : DetectedQuestion) : Bool :=
  question.expiresAt < now || question.detectedAt < now - relevantRetention

def expiredRun (now : Time) (relevantRetention : Int) (run : ClassificationRun) : Bool :=
  run.createdAt < now - relevantRetention

def expiredFingerprint (now : Time) (fingerprintTtl : Int) (row : RecentMessageFingerprint) :
    Bool :=
  row.lastSeenAt < now - fingerprintTtl

/-- Delete questions with the rows that refer to them: the foreign keys cascade, and the operator's
pointer is set to `NULL`. -/
def deleteQuestions (questionIds : List UUID) (db : Database) : Database :=
  { db with
    detectedQuestions := db.detectedQuestions.deleteWhere (fun row => row.id ∈ questionIds)
    questionChainMessages :=
      db.questionChainMessages.deleteWhere (fun row => row.questionId ∈ questionIds)
    botNotifications := db.botNotifications.deleteWhere (fun row => row.questionId ∈ questionIds)
    replyVersions := db.replyVersions.deleteWhere (fun row => row.questionId ∈ questionIds)
    outboundCommands := db.outboundCommands.deleteWhere (fun row => row.questionId ∈ questionIds)
    operatorSessions := db.operatorSessions.updateWhere
      (fun row => row.activeQuestionId.any (fun active => active ∈ questionIds))
      (fun row => { row with activeQuestionId := none }) (fun _ _ => rfl) }

/-- `cleanup_once`: the candidates of each table are chosen `FOR UPDATE SKIP LOCKED`. -/
def cleanupOnce (locked : RowLocks) (temporaryTtl relevantRetention fingerprintTtl : Int)
    (batchSize : Nat) (now : Time) (db : Database) : RetentionCleanupResult × Database :=
  let jobs := db.processingJobs.batch
    (fun job => expiredJob now temporaryTtl job && !locked.job job.id)
    (fun job => job.expiresAt) batchSize
  let questions := db.detectedQuestions.batch
    (fun question => expiredQuestion now relevantRetention question && !locked.question question.id)
    (fun question => question.expiresAt) batchSize
  let runs := db.classificationRuns.batch
    (fun run => expiredRun now relevantRetention run && !locked.run run.key)
    (fun run => run.createdAt) batchSize
  let fingerprints := db.recentMessageFingerprints.batch
    (fun row => expiredFingerprint now fingerprintTtl row && !locked.fingerprint row.key)
    (fun row => row.lastSeenAt) batchSize
  (⟨jobs.length, questions.length, runs.length, fingerprints.length⟩,
    { deleteQuestions (questions.map (fun question => question.id)) db with
      processingJobs := db.processingJobs.deleteBatch
        (fun job => expiredJob now temporaryTtl job && !locked.job job.id)
        (fun job => job.expiresAt) batchSize
      classificationRuns := db.classificationRuns.deleteBatch
        (fun run => expiredRun now relevantRetention run && !locked.run run.key)
        (fun run => run.createdAt) batchSize
      recentMessageFingerprints := db.recentMessageFingerprints.deleteBatch
        (fun row => expiredFingerprint now fingerprintTtl row && !locked.fingerprint row.key)
        (fun row => row.lastSeenAt) batchSize })

end RetentionRepository

end LeadAssistant
