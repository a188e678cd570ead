/-
Module: LeadAssistant.Classifier.Relevant
Layer: Classifier
Purpose: `RelevantQuestionPersistenceService` (`relevant.py`) and the handler that reads the
  listener's snapshot (`downstream.py`). The translation service may answer each call differently,
  so its functions take the position of the message in the chain; `none` stands for an exception.
  The row of the job's chat is there while the job is, so its foreign key is not checked again.
Trusted boundary: human-reviewed spec
Main exports: TranslationResult, TranslationService, RelevantQuestionPersistenceService.translate,
  RelevantQuestionPersistenceService.persist, DownstreamClassificationHandler.call
-/
import LeadAssistant.Classifier.Stages
import LeadAssistant.Listener.ReplyChainSnapshot

namespace LeadAssistant

open Relational

/-- Translation outcome that always retains the original text path. -/
structure TranslationResult where
  originalText : String
  translatedText : Option String
  sourceLanguage : Option String
  status : TranslationStatus
  errorCode : Option String := none
deriving Repr, DecidableEq

/-- Boundary used by translation workflows. -/
structure TranslationService where
  detectLanguage : Nat → String → Option (Option String)
  translateToRussian : Nat → String → Option String → Option TranslationResult

namespace Database

/-- The question of a message, by its unique constraint. -/
def questionFor? (db : Database) (telegramChatId telegramMessageId : Int) :
    Option DetectedQuestion :=
  db.detectedQuestions.rows.find? (fun question =>
    question.telegramChatId = telegramChatId && question.telegramMessageId = telegramMessageId)

/-- The database with other chain messages. -/
def setQuestionChainMessages (db : Database) (rows : Table QuestionChainMessage.key) : Database :=
  { db with questionChainMessages := rows }

/-- The database with other notifications. -/
def setBotNotifications (db : Database) (notifications : Table BotNotification.questionId) :
    Database :=
  { db with botNotifications := notifications }

/-- `INSERT INTO detected_questions`. -/
def insertDetectedQuestion (db : Database) (question : DetectedQuestion) :
    Except HandlerError Database :=
  if !question.storable then .error .dataError
  else if (db.questionFor? question.telegramChatId question.telegramMessageId).isSome then
    .error .integrityError
  else match db.detectedQuestions.insert? question with
    | none => .error .integrityError
    | some questions => .ok (db.setDetectedQuestions questions)

/-- `INSERT INTO question_chain_messages`. -/
def insertChainMessage (db : Database) (row : QuestionChainMessage) :
    Except HandlerError Database :=
  if !row.storable then .error .dataError
  else if db.questionChainMessages.rows.any (fun other =>
      other.questionId = row.questionId && other.telegramMessageId = row.telegramMessageId) then
    .error .integrityError
  else match db.questionChainMessages.insert? row with
    | none => .error .integrityError
    | some rows => .ok (db.setQuestionChainMessages rows)

/-- `INSERT INTO bot_notifications`. -/
def insertBotNotification (db : Database) (notification : BotNotification) :
    Except HandlerError Database :=
  match db.botNotifications.insert? notification with
  | none => .error .integrityError
  | some notifications => .ok (db.setBotNotifications notifications)

end Database

namespace RelevantQuestionPersistenceService

/-- `RelevantQuestionPersistenceError`. -/
def persistenceError : HandlerError := { errorCode := "RelevantQuestionPersistenceError" }

/-- `_translate`, for a message with a text. -/
def translate (service : Option TranslationService) (position : Nat) (text : String) :
    TranslationResult :=
  match service with
  | none => ⟨text, none, none, .disabled, none⟩
  | some service =>
      let translated := (service.detectLanguage position text).bind
        (service.translateToRussian position text)
      translated.getD ⟨text, none, none, .failed, some "unexpected_translation_error"⟩

/-- The translations of the messages that have a text, in order. -/
def translations (service : Option TranslationService) (available : List ReplyChainItem) :
    List TranslationResult :=
  (available.filterMap (fun item => item.text)).mapIdx (translate service)

/-- The final relevant classification of a message. -/
def finalClassification? (job : ProcessingJob) (db : Database) : Option ClassificationRun :=
  db.classificationRuns.lastBy (fun run =>
    run.telegramChatId = job.telegramChatId && run.telegramMessageId = job.telegramMessageId &&
      run.result = .relevant) (fun run => run.stage)

/-- The question of a relevant job. -/
def newQuestion (id : UUID) (job : ProcessingJob) (chain : ReplyChain)
    (classification : ClassificationRun) (translation : TranslationResult) (now : Time) :
    DetectedQuestion where
  id := id
  monitoredChatId := some job.monitoredChatId
  telegramChatId := job.telegramChatId
  telegramMessageId := job.telegramMessageId
  topicId := chain.topicId.or job.topicId
  topicTitle := chain.topicTitle
  authorTelegramId := job.senderTelegramId
  authorDisplayName := job.senderDisplayName
  telegramCreatedAt := job.telegramCreatedAt
  originalText := job.messageText
  translatedText := translation.translatedText
  sourceLanguage := translation.sourceLanguage
  category := classification.category
  confidence := classification.confidence
  status := .detected
  detectedAt := now
  expiresAt := now + days 60

/-- The row of one available chain message; an item without a text or a time is an error. -/
def chainMessage (questionId : UUID) (position : Nat) (item : ReplyChainItem)
    (translation : TranslationResult) : Except HandlerError QuestionChainMessage :=
  match item.text, item.telegramCreatedAt with
  | some text, some telegramCreatedAt =>
      .ok
        { questionId := questionId
          position := position
          telegramMessageId := item.telegramMessageId
          replyToMessageId := item.replyToMessageId
          authorTelegramId := item.authorTelegramId
          authorDisplayName := item.authorDisplayName
          telegramCreatedAt := telegramCreatedAt
          originalText := text
          translatedText := translation.translatedText
          sourceLanguage := translation.sourceLanguage
          translationStatus := translation.status
          isTarget := item.isTarget }
  | _, _ => .error persistenceError

/-- The chain rows from the given position on. -/
def chainMessages (questionId : UUID) :
    Nat → List (ReplyChainItem × TranslationResult) → Except HandlerError (List QuestionChainMessage)
  | _, [] => .ok []
  | position, (item, translation) :: rest => do
      let row ← chainMessage questionId position item translation
      let rows ← chainMessages questionId (position + 1) rest
      pure (row :: rows)

/-- The notification of a new question. -/
def newNotification (questionId : UUID) (operatorTelegramUserId : Int) (now : Time) :
    BotNotification where
  questionId := questionId
  operatorTelegramUserId := operatorTelegramUserId
  botChatId := operatorTelegramUserId
  botMessageId := none
  status := "pending"
  attemptCount := 0
  nextAttemptAt := now
  sentAt := none
  lastError := none
  createdAt := now

/-- `persist`: create one question, its chain rows and its notification, then remove the job. -/
def persist (operatorTelegramUserId : Int) (service : Option TranslationService)
    (job : ProcessingJob) (chain : ReplyChain) (newId : UUID) (now : Time) (db : Database) :
    Except HandlerError (UUID × Database) :=
  if job.status ≠ .awaitingRelevantProcessing then .error persistenceError
  else if chain.chatId ≠ job.telegramChatId then .error persistenceError
  else match db.questionFor? job.telegramChatId job.telegramMessageId with
    | some existing => .ok (existing.id, JobRepository.complete job.id db)
    | none =>
        match finalClassification? job db with
        | none => .error persistenceError
        | some classification =>
            match chain.items.filter (fun item => item.isTarget) with
            | [target] =>
                if target.telegramMessageId ≠ job.telegramMessageId then .error persistenceError
                else
                  let available := chain.items.filter (fun item => !item.isUnavailable)
                  let translated := translations service available
                  if translated.length ≠ available.length then .error persistenceError
                  -- `list.index` raises when the target is not available.
                  else match (available.idxOf? target).bind (fun i => translated[i]?) with
                    | none => .error .valueError
                    | some translation => do
                        let asked ← db.insertDetectedQuestion
                          (newQuestion newId job chain classification translation now)
                        let rows ← chainMessages newId 0 (available.zip translated)
                        let chained ← rows.foldlM Database.insertChainMessage asked
                        let notified ← chained.insertBotNotification
                          (newNotification newId operatorTelegramUserId now)
                        pure (newId, JobRepository.complete job.id notified)
            | _ => .error persistenceError

end RelevantQuestionPersistenceService

namespace DownstreamClassificationHandler

/-- `DownstreamClassificationError`. -/
def handoffError : HandlerError :=
  { retryable := false, errorCode := "INVALID_DOWNSTREAM_HANDOFF" }

/-- Pydantic's `ValidationError`. -/
def validationError : HandlerError := { errorCode := "ValidationError" }

/-- `__call__`: consume a listener snapshot. -/
def call (timestamps : TimestampCodec) (adapter : ClassificationAdapter)
    (operatorTelegramUserId : Int) (service : Option TranslationService) (job : ProcessingJob)
    (newId : UUID) (now : Time) (db : Database) : Except HandlerError Database :=
  match job.replyChainSnapshot with
  | none => .error handoffError
  | some snapshot =>
      match deserializeReplyChain timestamps snapshot with
      | none => .error validationError
      | some chain =>
          if chain.chatId ≠ job.telegramChatId then .error handoffError
          else match job.status with
            | .awaitingReplyContext =>
                Stage2ClassificationService.classify adapter job chain now db
            | .awaitingRelevantProcessing =>
                (RelevantQuestionPersistenceService.persist operatorTelegramUserId service job chain
                  newId now db).map (fun persisted => persisted.2)
            | _ => .error handoffError

end DownstreamClassificationHandler

end LeadAssistant
