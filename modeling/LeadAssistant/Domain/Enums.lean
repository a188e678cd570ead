/-
Module: LeadAssistant.Domain.Enums
Layer: Domain
Purpose: The enumerations the application stores in PostgreSQL (`app/domain/enums.py`), the
  normalized Telegram failures (`app/domain/errors.py`) and the classifier's closed vocabularies
  (`app/classifier/schemas`). Identifiers and instants are fixed here once.
Trusted boundary: human-reviewed spec
Main exports: UUID, Time, seconds, QuestionStatus, OutboundCommandStatus, ProcessingJobStatus,
  TelegramOutboundError
-/
import Mathlib.Data.Int.Notation

namespace LeadAssistant

/-- A surrogate key. `uuid4` is modelled by letting the environment pick the number; an insert
refuses one that is taken. -/
abbrev UUID := Nat

/-- An instant, in microseconds. -/
abbrev Time := Int

/-- `timedelta(seconds=n)`. -/
def seconds (n : Int) : Int := n * 1000000

/-- `timedelta(minutes=n)`. -/
def minutes (n : Int) : Int := seconds (60 * n)

/-- `timedelta(hours=n)`. -/
def hours (n : Int) : Int := minutes (60 * n)

/-- `timedelta(days=n)`. -/
def days (n : Int) : Int := hours (24 * n)

inductive MonitoredChatStatus where
  | pendingVerification | active | accessLost | readOnly | disabled | verificationFailed
deriving Repr, DecidableEq

inductive MonitoredChatType where
  | group | supergroup | forumSupergroup
deriving Repr, DecidableEq

inductive ProcessingJobStatus where
  | pending | processing | retry | failed | awaitingRelevantProcessing | awaitingReplyContext
deriving Repr, DecidableEq

inductive QuestionStatus where
  | detected | waitingForDraft | waitingConfirmation | sendRequested | sent | sendFailed
  | dismissed | cancelled
deriving Repr, DecidableEq

inductive OutboundCommandStatus where
  | pending | processing | succeeded | failed | needsReview
deriving Repr, DecidableEq

/-- `outbound_commands.command_type`. -/
inductive CommandType where
  | sendReply | editReply
deriving Repr, DecidableEq

/-- `reply_versions.action`. -/
inductive ReplyAction where
  | draft | sent | edited
deriving Repr, DecidableEq

inductive TranslationManagerAction where
  | install | enable | disable | delete | reload | test
deriving Repr, DecidableEq

inductive TranslationManagerJobStatus where
  | pending | processing | succeeded | failed
deriving Repr, DecidableEq

/-- `translation_languages.installation_status`. -/
inductive InstallationStatus where
  | notInstalled | installing | installed | failed
deriving Repr, DecidableEq

/-- Stable, operator-facing Telegram failure categories. -/
inductive TelegramErrorCode where
  | sourceMessageDeleted | chatWriteForbidden | topicClosed | topicDeleted | floodWait
  | accessLost | unknownError
deriving Repr, DecidableEq

/-- The `StrEnum` value, as it is stored in `last_error_code`. -/
def TelegramErrorCode.value : TelegramErrorCode → String
  | .sourceMessageDeleted => "SOURCE_MESSAGE_DELETED"
  | .chatWriteForbidden => "CHAT_WRITE_FORBIDDEN"
  | .topicClosed => "TOPIC_CLOSED"
  | .topicDeleted => "TOPIC_DELETED"
  | .floodWait => "FLOOD_WAIT"
  | .accessLost => "ACCESS_LOST"
  | .unknownError => "UNKNOWN_ERROR"

/-- Controls whether an outbound command may run automatically again. -/
inductive TelegramFailureKind where
  | permanent | temporary | ambiguous
deriving Repr, DecidableEq

/-- Normalized failure raised by the MTProto adapter. -/
structure TelegramOutboundError where
  code : TelegramErrorCode
  kind : TelegramFailureKind
  retryAfterSeconds : Option Nat := none
deriving Repr, DecidableEq

inductive ChatVerificationOutcome where
  | active | readOnly | accessLost | verificationFailed
deriving Repr, DecidableEq

inductive ClassificationCategory where
  | technical | operational | strategy | analytics | problemSolving | irrelevant
deriving Repr, DecidableEq

inductive ClassificationReasonCode where
  | technicalProblem | implementationQuestion | processProblem | strategyDecision
  | comparisonRequest | analyticsQuestion | requestsRecommendation | casualConversation
  | advertisement | rhetoricalQuestion | unrelatedTopic | insufficientContext
deriving Repr, DecidableEq

/-- `classification_runs.result`. -/
inductive StageResult where
  | contextRequired | relevant | irrelevant
deriving Repr, DecidableEq

inductive TranslationStatus where
  | translated | bypassed | failed | disabled
deriving Repr, DecidableEq

end LeadAssistant
