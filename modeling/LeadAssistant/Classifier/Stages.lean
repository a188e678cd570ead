/-
Module: LeadAssistant.Classifier.Stages
Layer: Classifier
Purpose: The two classification stages: `Stage1ClassificationHandler` (`worker.py`) and
  `Stage2ClassificationService` (`stage2.py`). The adapter is a function of the text it is asked
  about; it may raise any error. Its instructions are fixed texts that nothing reads.
Trusted boundary: human-reviewed spec
Main exports: ClassificationAdapter, JobDisposition, Stage1ClassificationHandler.call,
  formatStage2Input, Stage2ClassificationService.classify
-/
import LeadAssistant.Classifier.Usage
import LeadAssistant.Listener.ReplyChain

namespace LeadAssistant

open Relational

/-- The classification model behind the adapter: its name, its prices and its answers. -/
structure ClassificationAdapter where
  model : String
  pricing : ClassificationPricing
  classify : String → Except HandlerError ClassificationResponse

/-- Whether a successful handler leaves or deletes its claimed queue row. -/
inductive JobDisposition where
  | complete | retain
deriving Repr, DecidableEq

namespace Stage1ClassificationHandler

/-- `__call__`: record the result and route the job by it. -/
def call (adapter : ClassificationAdapter) (job : ProcessingJob) (now : Time) (db : Database) :
    Except HandlerError (JobDisposition × Database) :=
  if job.status ≠ .processing then .ok (.retain, db)
  else do
    let response ← adapter.classify job.messageText
    let (_, recorded) ← UsageRepository.recordStage job.telegramChatId job.telegramMessageId 1
      job.createdAt adapter.model response adapter.pricing now db
    if response.result.contextRequired then
      let routed ← JobRepository.route job.id .awaitingReplyContext recorded
      pure (.retain, routed)
    else if response.result.isRelevant then
      let routed ← JobRepository.route job.id .awaitingRelevantProcessing recorded
      pure (.retain, routed)
    else pure (.complete, recorded)

end Stage1ClassificationHandler

/-- The text of one chain item in the Stage-2 input; an available item without a text is an
error. -/
def renderItem (item : ReplyChainItem) : Except HandlerError String :=
  let marker := if item.isTarget then "[TARGET]" else "[CONTEXT]"
  if item.isUnavailable then .ok (marker ++ "\n" ++ "[unavailable message]")
  else match item.text with
    | none => .error .valueError
    | some text => .ok (marker ++ "\n" ++ text)

/-- `format_stage2_input`: render an oldest-to-target chain. -/
def formatStage2Input (chain : ReplyChain) : Except HandlerError String :=
  if chain.items.length < 1 ∨ 10 < chain.items.length then .error .valueError
  else if chain.items.countP (fun item => item.isTarget) ≠ 1 ∨
      (chain.items.getLast?.any (fun item => item.isTarget)) = false then .error .valueError
  else do
    let rendered ← chain.items.mapM renderItem
    pure (String.intercalate "\n\n" rendered)

namespace Stage2ClassificationService

/-- `Stage2ClassificationError`. -/
def classificationError : HandlerError := { errorCode := "Stage2ClassificationError" }

/-- `Stage2NonFinalResultError`. -/
def nonFinalResultError : HandlerError :=
  { retryable := false, errorCode := "STAGE2_NON_FINAL_RESULT" }

/-- Run Stage 2 only after a context-required Stage 1 and never more than once. -/
def classify (adapter : ClassificationAdapter) (job : ProcessingJob) (chain : ReplyChain)
    (now : Time) (db : Database) : Except HandlerError Database :=
  if job.status ≠ .awaitingReplyContext then .error classificationError
  else
    let stage1 := db.classificationRuns.get? (job.telegramChatId, job.telegramMessageId, 1)
    let stage2 := db.classificationRuns.get? (job.telegramChatId, job.telegramMessageId, 2)
    if stage1.any (fun run => run.result = .contextRequired) = false then
      .error classificationError
    else if stage2.isSome then .error classificationError
    else do
      let targetText ← formatStage2Input chain
      let response ← adapter.classify targetText
      if response.result.contextRequired then throw nonFinalResultError
      let (inserted, recorded) ← UsageRepository.recordStage job.telegramChatId
        job.telegramMessageId 2 job.createdAt adapter.model response adapter.pricing now db
      if !inserted then throw classificationError
      if response.result.isRelevant then
        JobRepository.route job.id .awaitingRelevantProcessing recorded
      else pure (JobRepository.complete job.id recorded)

end Stage2ClassificationService

end LeadAssistant
