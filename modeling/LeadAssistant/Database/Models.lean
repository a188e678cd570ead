/-
Module: LeadAssistant.Database.Models
Layer: Database
Purpose: The PostgreSQL schema of `app/database/models/entities.py`, one structure per table with
  the columns the modelled code reads or returns, and the database as the record of its tables.
  Tables whose surrogate key is never read are keyed by their unique constraint instead. A column's
  length limit is a Boolean check that an insert performs.
Trusted boundary: human-reviewed spec
Main exports: DetectedQuestion, OutboundCommand, ReplyVersion, ProcessingJob, Database
-/
import LeadAssistant.Library.Table
import LeadAssistant.Library.Json
import LeadAssistant.Domain.Enums
import Mathlib.Data.Rat.Defs

namespace LeadAssistant

open Relational

/-- A `TEXT` column stores every string without a NUL character. -/
def fitsText (value : String) : Bool :=
  !value.toList.contains '\x00'

/-- A `VARCHAR(n)` column. -/
def fitsVarchar (n : Nat) (value : String) : Bool :=
  value.length ≤ n && fitsText value

/-- `code[:100]`, which fits the columns for error codes. -/
def clipped (code : String) : String :=
  String.ofList (code.toList.take 100)

/-- Telegram group selected for monitoring. -/
structure MonitoredChat where
  id : UUID
  telegramChatId : Int
  title : String
  username : Option String
  chatType : MonitoredChatType
  status : MonitoredChatStatus
  lastVerifiedAt : Option Time
  nextVerificationAt : Time
  consecutiveAccessFailures : Nat
  accessLostAt : Option Time
  lastErrorCode : Option String
deriving Repr

/-- Durable classification queue item. -/
structure ProcessingJob where
  id : UUID
  monitoredChatId : UUID
  telegramChatId : Int
  telegramMessageId : Int
  topicId : Option Int
  senderTelegramId : Option Int
  senderDisplayName : Option String
  messageText : String
  telegramCreatedAt : Time
  status : ProcessingJobStatus
  attemptCount : Nat
  nextAttemptAt : Time
  lockedAt : Option Time
  lockedBy : Option String
  lastErrorCode : Option String
  lastErrorMessage : Option String
  replyChainSnapshot : Option Json
  createdAt : Time
  expiresAt : Time

/-- The column limits of `processing_jobs` on the values of a message. -/
def ProcessingJob.storable (job : ProcessingJob) : Bool :=
  job.senderDisplayName.all (fitsVarchar 255) && fitsText job.messageText

/-- Hash and timestamp used to suppress repeated classification requests. -/
structure RecentMessageFingerprint where
  telegramChatId : Int
  fingerprint : String
  lastSeenAt : Time
deriving Repr, DecidableEq

/-- The primary key of `recent_message_fingerprints`. -/
def RecentMessageFingerprint.key (row : RecentMessageFingerprint) : Int × String :=
  (row.telegramChatId, row.fingerprint)

/-- Metadata and API usage of one classification stage. The cost is counted in units of
`USD_QUANTUM`, one millionth of a dollar. -/
structure ClassificationRun where
  telegramChatId : Int
  telegramMessageId : Int
  stage : Nat
  result : StageResult
  category : ClassificationCategory
  confidence : ℚ
  reasonCode : ClassificationReasonCode
  contextUsed : Bool
  model : String
  inputTokens : Nat
  outputTokens : Nat
  estimatedCostUsd : Int
  queuedAt : Time
  createdAt : Time

/-- `uq_classification_runs_message_stage`. -/
def ClassificationRun.key (run : ClassificationRun) : Int × Int × Nat :=
  (run.telegramChatId, run.telegramMessageId, run.stage)

/-- Relevant question retained for the operator workflow. -/
structure DetectedQuestion where
  id : UUID
  monitoredChatId : Option UUID
  telegramChatId : Int
  telegramMessageId : Int
  topicId : Option Int
  topicTitle : Option String
  authorTelegramId : Option Int
  authorDisplayName : Option String
  telegramCreatedAt : Time
  originalText : String
  translatedText : Option String
  sourceLanguage : Option String
  category : ClassificationCategory
  confidence : ℚ
  status : QuestionStatus
  detectedAt : Time
  expiresAt : Time

/-- The column limits of `detected_questions`. -/
def DetectedQuestion.storable (question : DetectedQuestion) : Bool :=
  question.topicTitle.all (fitsVarchar 255) && question.authorDisplayName.all (fitsVarchar 255) &&
    fitsText question.originalText && question.translatedText.all fitsText &&
    question.sourceLanguage.all (fitsVarchar 10)

/-- Immutable snapshot of one message in a relevant reply chain. -/
structure QuestionChainMessage where
  questionId : UUID
  position : Nat
  telegramMessageId : Int
  replyToMessageId : Option Int
  authorTelegramId : Option Int
  authorDisplayName : Option String
  telegramCreatedAt : Time
  originalText : String
  translatedText : Option String
  sourceLanguage : Option String
  translationStatus : TranslationStatus
  isTarget : Bool

/-- `uq_chain_messages_question_position`. -/
def QuestionChainMessage.key (row : QuestionChainMessage) : UUID × Nat :=
  (row.questionId, row.position)

/-- The column limits and the position check of `question_chain_messages`. -/
def QuestionChainMessage.storable (row : QuestionChainMessage) : Bool :=
  row.position ≤ 9 && row.authorDisplayName.all (fitsVarchar 255) && fitsText row.originalText &&
    row.translatedText.all fitsText && row.sourceLanguage.all (fitsVarchar 10)

/-- Reliable operator notification delivery state. -/
structure BotNotification where
  questionId : UUID
  operatorTelegramUserId : Int
  botChatId : Int
  botMessageId : Option Int
  status : String
  attemptCount : Nat
  nextAttemptAt : Time
  sentAt : Option Time
  lastError : Option String
  createdAt : Time
deriving Repr, DecidableEq

/-- The active question of one operator. -/
structure OperatorSession where
  operatorTelegramUserId : Int
  activeQuestionId : Option UUID
deriving Repr, DecidableEq

/-- Immutable operator-authored reply version. -/
structure ReplyVersion where
  questionId : UUID
  versionNumber : Nat
  text : String
  action : ReplyAction
deriving Repr, DecidableEq

/-- `uq_reply_versions_question_version`. -/
def ReplyVersion.key (version : ReplyVersion) : UUID × Nat :=
  (version.questionId, version.versionNumber)

/-- The three parts of the string `"{question_id}:{command_type}:{version}"`, which determine it. -/
structure IdempotencyKey where
  questionId : UUID
  commandType : CommandType
  version : Nat
deriving Repr, DecidableEq

/-- Idempotent MTProto send or edit command. -/
structure OutboundCommand where
  id : UUID
  questionId : UUID
  commandType : CommandType
  replyVersion : Nat
  idempotencyKey : IdempotencyKey
  telegramChatId : Int
  sourceMessageId : Int
  topicId : Option Int
  sentMessageId : Option Int
  text : String
  status : OutboundCommandStatus
  attemptCount : Nat
  nextAttemptAt : Time
  lockedAt : Option Time
  lockedBy : Option String
  lastErrorCode : Option String
  lastErrorMessage : Option String
  createdAt : Time
  completedAt : Option Time
deriving Repr, DecidableEq

/-- Installed and enabled local translation language. -/
structure TranslationLanguage where
  languageCode : String
  displayName : String
  isRequired : Bool
  isEnabled : Bool
  installationStatus : InstallationStatus
  installedAt : Option Time
  updatedAt : Time
deriving Repr, DecidableEq

/-- Durable allow-listed request for the isolated translation control plane. -/
structure TranslationManagerJob where
  id : UUID
  action : TranslationManagerAction
  languageCode : Option String
  status : TranslationManagerJobStatus
  resultCode : Option String
  createdAt : Time
  completedAt : Option Time
deriving Repr, DecidableEq

/-- Daily aggregate of classification API usage and estimated cost. -/
structure ApiUsageDaily where
  usageDate : Int
  model : String
  requestCount : Nat
  inputTokens : Nat
  outputTokens : Nat
  estimatedCostUsd : Int
deriving Repr, DecidableEq

/-- The primary key of `api_usage_daily`. -/
def ApiUsageDaily.key (row : ApiUsageDaily) : Int × String :=
  (row.usageDate, row.model)

/-- The committed contents of the database. -/
structure Database where
  monitoredChats : Table MonitoredChat.id := ∅
  processingJobs : Table ProcessingJob.id := ∅
  recentMessageFingerprints : Table RecentMessageFingerprint.key := ∅
  classificationRuns : Table ClassificationRun.key := ∅
  detectedQuestions : Table DetectedQuestion.id := ∅
  questionChainMessages : Table QuestionChainMessage.key := ∅
  botNotifications : Table BotNotification.questionId := ∅
  operatorSessions : Table OperatorSession.operatorTelegramUserId := ∅
  replyVersions : Table ReplyVersion.key := ∅
  outboundCommands : Table OutboundCommand.id := ∅
  translationLanguages : Table TranslationLanguage.languageCode := ∅
  translationManagerJobs : Table TranslationManagerJob.id := ∅
  apiUsageDaily : Table ApiUsageDaily.key := ∅

/-- The exceptions of the repositories. A violated constraint is an `integrityError`, a value its
column cannot store a `dataError`. -/
inductive RepositoryError where
  | draftUnavailable | questionFeedbackUnavailable | confirmationUnavailable
  | outboundRetryUnavailable | activeDraftConflict | integrityError | dataError
deriving Repr, DecidableEq

/-- What a repository call answers, and the contents its transaction sees afterwards. A raised
exception does not undo the statements before it; that is left to the caller's transaction. -/
abbrev Answer (α : Type) := Except RepositoryError α × Database

namespace Database

/-- `question.status = status` on the row of one question. -/
def setQuestionStatus (db : Database) (questionId : UUID) (status : QuestionStatus) : Database :=
  { db with
    detectedQuestions :=
      db.detectedQuestions.update questionId (fun question => { question with status := status }) }

/-- The database with other detected questions. -/
def setDetectedQuestions (db : Database) (questions : Table DetectedQuestion.id) : Database :=
  { db with detectedQuestions := questions }

/-- The database with other processing jobs. -/
def setProcessingJobs (db : Database) (jobs : Table ProcessingJob.id) : Database :=
  { db with processingJobs := jobs }

/-- The database with other fingerprints. -/
def setFingerprints (db : Database) (rows : Table RecentMessageFingerprint.key) : Database :=
  { db with recentMessageFingerprints := rows }

/-- The database with other translation languages. -/
def setTranslationLanguages (db : Database)
    (languages : Table TranslationLanguage.languageCode) : Database :=
  { db with translationLanguages := languages }

/-- The database with other monitored chats. -/
def setMonitoredChats (db : Database) (chats : Table MonitoredChat.id) : Database :=
  { db with monitoredChats := chats }

/-- `INSERT INTO reply_versions`. -/
def insertReplyVersion (db : Database) (version : ReplyVersion) : Option Database :=
  (db.replyVersions.insert? version).map (fun versions => { db with replyVersions := versions })

/-- `INSERT INTO outbound_commands`, refused on a taken idempotency key. -/
def insertOutboundCommand (db : Database) (command : OutboundCommand) : Option Database :=
  if db.outboundCommands.rows.any (fun row => row.idempotencyKey = command.idempotencyKey) then none
  else (db.outboundCommands.insert? command).map
    (fun commands => { db with outboundCommands := commands })

/-- Flush a command that the session read under its row lock. -/
def putOutboundCommand (db : Database) (command : OutboundCommand) : Database :=
  { db with outboundCommands := db.outboundCommands.put command }

end Database

end LeadAssistant
