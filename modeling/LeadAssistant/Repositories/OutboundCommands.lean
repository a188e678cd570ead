/-
Module: LeadAssistant.Repositories.OutboundCommands
Layer: Repositories
Purpose: `OutboundCommandRepository` (`outbound_commands.py`): confirmation of sends and edits, the
  claim of a due command, its completion, retry and failure, manual retry and stale-lock recovery.
  A claim returns the row as its session changed it; nothing is stored until the transaction of the
  worker commits. `claim_send` and `claim_edit` differ in the command type alone. A call that raises
  writes nothing.
Trusted boundary: human-reviewed spec
Main exports: OutboundCommandRepository.confirmSend, confirmEdit, prepareEdit, claimSend, claimEdit,
  completeSend, retrySend, failSend, completeEdit, failEdit, retryFailed, recoverStale
-/
import LeadAssistant.Repositories.ReplyDrafts
import LeadAssistant.Library.Calendar
import Mathlib.Data.Prod.Lex
import Mathlib.Order.Defs.LinearOrder
import Mathlib.Data.Int.Order.Basic

namespace LeadAssistant

open Relational

/-- Stable result returned for both initial and repeated confirmations. -/
structure ConfirmedCommand where
  commandId : UUID
  replyVersion : Nat
  text : String
  created : Bool
deriving Repr, DecidableEq

/-- Durable old/new text pair shown before an edit is confirmed. -/
structure SentEditPreview where
  questionId : UUID
  oldText : String
  newText : String
deriving Repr, DecidableEq

namespace Database

/-- `_latest_final`: the published version with the highest number. -/
def latestFinal? (db : Database) (questionId : UUID) : Option ReplyVersion :=
  db.replyVersions.lastBy (fun version =>
    version.questionId = questionId && (version.action = .sent || version.action = .edited))
      (fun version => version.versionNumber)

/-- `_stored_sent_message_id`: the message of the send that completed last. -/
def storedSentMessageId (db : Database) (questionId : UUID) : Option Int :=
  (db.outboundCommands.lastBy (fun command =>
    command.questionId = questionId && command.commandType = .sendReply &&
      command.status = .succeeded && command.sentMessageId.isSome)
        (fun command => command.completedAt.getD 0)).bind (fun command => command.sentMessageId)

/-- The `send_reply` command of a question. -/
def sendCommand? (db : Database) (questionId : UUID) : Option OutboundCommand :=
  db.outboundCommands.rows.find? (fun command =>
    command.questionId = questionId && command.commandType = .sendReply)

/-- The command with a given idempotency key. -/
def commandWithKey? (db : Database) (key : IdempotencyKey) : Option OutboundCommand :=
  db.outboundCommands.rows.find? (fun command => command.idempotencyKey = key)

end Database

namespace OutboundCommandRepository

/-- `request_chat_verification`. -/
def requestChatVerification (telegramChatId : Int) (now : Time) (db : Database) : Database :=
  db.setMonitoredChats (db.monitoredChats.updateWhere
    (fun chat => chat.telegramChatId = telegramChatId && chat.status ≠ .disabled)
    (fun chat => { chat with nextVerificationAt := now }) (fun _ _ => rfl))

/-- The claims that `recover_stale` takes over. -/
def isStale (staleBefore : Time) (command : OutboundCommand) : Bool :=
  command.status = .processing && command.lockedAt.any (fun lockedAt => lockedAt < staleBefore)

/-- A stale claim as it is left for manual review. -/
def recovered (command : OutboundCommand) : OutboundCommand :=
  { command with
    status := .needsReview, lockedAt := none, lockedBy := none,
    lastErrorCode := some "STALE_LOCK_RECOVERED",
    lastErrorMessage := some "STALE_LOCK_RECOVERED" }

theorem recovered_id (command : OutboundCommand) : (recovered command).id = command.id := rfl

/-- `send_question_ids`: the questions of the stale sends. -/
def staleSendQuestions (staleBefore : Time) (db : Database) : List UUID :=
  ((db.outboundCommands.rows.filter (isStale staleBefore)).filter
    (fun command => command.commandType = .sendReply)).map (fun command => command.questionId)

theorem mem_staleSendQuestions {staleBefore : Time} {db : Database} {questionId : UUID} :
    questionId ∈ staleSendQuestions staleBefore db ↔
      ∃ command ∈ db.outboundCommands, command.commandType = .sendReply ∧
        command.questionId = questionId ∧ isStale staleBefore command = true := by
  simp only [staleSendQuestions, List.mem_map, List.mem_filter, decide_eq_true_eq, Table.mem_rows]
  constructor
  · rintro ⟨command, ⟨⟨held, old⟩, send⟩, owner⟩
    exact ⟨command, held, send, owner, old⟩
  · rintro ⟨command, held, send, owner, old⟩
    exact ⟨command, ⟨⟨held, old⟩, send⟩, owner⟩

/-- `recover_stale`: the commands first, then the questions of the recovered sends. -/
def recoverStale (staleBefore : Time) (db : Database) : Database :=
  { db with
    outboundCommands := db.outboundCommands.updateWhere (isStale staleBefore) recovered
      (fun command _ => recovered_id command)
    detectedQuestions := db.detectedQuestions.updateWhere
      (fun question => question.id ∈ staleSendQuestions staleBefore db)
      (fun question => { question with status := .sendFailed }) (fun _ _ => rfl) }

/-- `_manual_retry_allowed`. -/
def manualRetryAllowed (command : OutboundCommand) : Bool :=
  command.status = .failed && command.commandType = .editReply && command.sentMessageId.isSome &&
    command.lastErrorCode = some "UNKNOWN_ERROR"

def retryFailed (commandId : UUID) (now : Time) (db : Database) : Answer Unit :=
  match db.outboundCommands.get? commandId with
  | none => (.error .outboundRetryUnavailable, db)
  | some command =>
      if manualRetryAllowed command then
        (.ok (), db.putOutboundCommand
          { command with status := .pending, nextAttemptAt := now, lockedAt := none,
                         lockedBy := none })
      else (.error .outboundRetryUnavailable, db)

/-- The rows a claim may take: due, pending, of one type, and not locked by another session. -/
def claimable (commandType : CommandType) (locked : UUID → Bool) (now : Time)
    (command : OutboundCommand) : Bool :=
  command.commandType = commandType && command.status = .pending &&
    command.nextAttemptAt ≤ now && !locked command.id

/-- The oldest due command, with rows locked by peers skipped. -/
def due? (commandType : CommandType) (locked : UUID → Bool) (now : Time) (db : Database) :
    Option OutboundCommand :=
  db.outboundCommands.firstBy (claimable commandType locked now)
    (fun command => toLex (command.nextAttemptAt, command.createdAt))

/-- The columns `attempt_count`, a `SMALLINT`, and `locked_by`, a `VARCHAR(100)`, hold what a claim
writes. -/
def claimFits (workerId : String) (command : OutboundCommand) : Bool :=
  command.attemptCount + 1 < 2 ^ 15 && workerId.length ≤ 100

/-- A command as its claiming session changes it. -/
def claimed (workerId : String) (now : Time) (command : OutboundCommand) : OutboundCommand :=
  { command with
    status := .processing, attemptCount := command.attemptCount + 1, lockedAt := some now,
    lockedBy := some workerId }

/-- The claim of a due command, if there is one. The flush raises for a value that its column does
not hold. -/
def claim (commandType : CommandType) (workerId : String) (locked : UUID → Bool) (now : Time)
    (db : Database) : Except RepositoryError (Option OutboundCommand) :=
  match due? commandType locked now db with
  | none => .ok none
  | some command =>
      if claimFits workerId command then .ok (some (claimed workerId now command))
      else .error .dataError

def claimSend : String → (UUID → Bool) → Time → Database →
    Except RepositoryError (Option OutboundCommand) :=
  claim .sendReply

def claimEdit : String → (UUID → Bool) → Time → Database →
    Except RepositoryError (Option OutboundCommand) :=
  claim .editReply

/-- `prepare_edit`. -/
def prepareEdit (questionId : UUID) (text : String) (db : Database) : Answer SentEditPreview :=
  match db.detectedQuestions.get? questionId with
  | none => (.error .confirmationUnavailable, db)
  | some question =>
      if question.status ≠ .sent then (.error .confirmationUnavailable, db)
      else match db.latestFinal? questionId, db.storedSentMessageId questionId with
        | some current, some _ =>
            let latestNumber := db.latestVersionNumber questionId
            match db.insertReplyVersion ⟨questionId, latestNumber + 1, text, .draft⟩ with
            | none => (.error .integrityError, db)
            | some inserted => (.ok ⟨questionId, current.text, text⟩, inserted)
        | _, _ => (.error .confirmationUnavailable, db)

/-- The edit command that `confirm_edit` stores for a preview. -/
def newEditCommand (id : UUID) (now : Time) (question : DetectedQuestion) (preview : ReplyVersion)
    (sentMessageId : Int) : OutboundCommand where
  id := id
  questionId := question.id
  commandType := .editReply
  replyVersion := preview.versionNumber + 1
  idempotencyKey := ⟨question.id, .editReply, preview.versionNumber⟩
  telegramChatId := question.telegramChatId
  sourceMessageId := question.telegramMessageId
  topicId := question.topicId
  sentMessageId := some sentMessageId
  text := preview.text
  status := .pending
  attemptCount := 0
  nextAttemptAt := now
  lockedAt := none
  lockedBy := none
  lastErrorCode := none
  lastErrorMessage := none
  createdAt := now
  completedAt := none

/-- `confirm_edit`: one command per preview, found again by its idempotency key. -/
def confirmEdit (questionId : UUID) (newId : UUID) (now : Time) (db : Database) :
    Answer ConfirmedCommand :=
  match db.detectedQuestions.get? questionId with
  | none => (.error .confirmationUnavailable, db)
  | some question =>
      if question.status ≠ .sent then (.error .confirmationUnavailable, db)
      else match db.latestVersion? questionId with
        | none => (.error .confirmationUnavailable, db)
        | some preview =>
            if preview.action ≠ .draft then (.error .confirmationUnavailable, db)
            else match db.commandWithKey? ⟨questionId, .editReply, preview.versionNumber⟩ with
              | some existing =>
                  (.ok ⟨existing.id, existing.replyVersion, existing.text, false⟩, db)
              | none =>
                  match db.storedSentMessageId questionId with
                  | none => (.error .confirmationUnavailable, db)
                  | some sentMessageId =>
                      let command := newEditCommand newId now question preview sentMessageId
                      match db.insertOutboundCommand command with
                      | none => (.error .integrityError, db)
                      | some inserted =>
                          (.ok ⟨command.id, command.replyVersion, command.text, true⟩, inserted)

/-- `complete_edit`. `question` is the row the session loaded with the command: the locking read
returns the same object. -/
def completeEdit (command : OutboundCommand) (question : DetectedQuestion) (now : Time)
    (db : Database) : Answer Unit :=
  if (db.detectedQuestions.get? command.questionId).isNone ∨ question.status ≠ .sent then
    (.error .confirmationUnavailable, db)
  else match db.insertReplyVersion
      ⟨command.questionId, command.replyVersion, command.text, .edited⟩ with
    | none => (.error .integrityError, db)
    | some inserted =>
        (.ok (), inserted.putOutboundCommand
          { command with status := .succeeded, completedAt := some now, lockedAt := none,
                         lockedBy := none })

/-- `fail_edit`. -/
def failEdit (command : OutboundCommand) (errorCode : String) (db : Database) : Database :=
  db.putOutboundCommand
    { command with status := .failed, lastErrorCode := some errorCode,
                   lastErrorMessage := some errorCode, lockedAt := none, lockedBy := none }

/-- `complete_send`. `question` is the row the session loaded with the command. -/
def completeSend (command : OutboundCommand) (question : DetectedQuestion) (sentMessageId : Int)
    (now : Time) (db : Database) : Answer Unit :=
  if (db.detectedQuestions.get? command.questionId).isNone ∨ question.status ≠ .sendRequested then
    (.error .confirmationUnavailable, db)
  else
    (.ok (), (db.putOutboundCommand
      { command with sentMessageId := some sentMessageId, status := .succeeded,
                     completedAt := some now, lockedAt := none, lockedBy := none }).setQuestionStatus
        command.questionId .sent)

/-- A command that waits for its next attempt. -/
def rescheduled (command : OutboundCommand) (errorCode : String) (nextAttemptAt : Time) :
    OutboundCommand :=
  { command with status := .pending, nextAttemptAt := nextAttemptAt,
                 lastErrorCode := some errorCode, lastErrorMessage := some errorCode,
                 lockedAt := none, lockedBy := none }

/-- `retry_send`. The addition raises an `OverflowError` for a time after the last `datetime`. -/
def retrySend (command : OutboundCommand) (errorCode : String) (delaySeconds : Nat) (now : Time)
    (db : Database) : Option Database :=
  if Calendar.representable (now + seconds delaySeconds) then
    some (db.putOutboundCommand (rescheduled command errorCode (now + seconds delaySeconds)))
  else none

/-- `fail_send`. -/
def failSend (command : OutboundCommand) (errorCode : String) (needsReview : Bool)
    (db : Database) : Database :=
  (db.putOutboundCommand
    { command with status := if needsReview then .needsReview else .failed,
                   lastErrorCode := some errorCode, lastErrorMessage := some errorCode,
                   lockedAt := none, lockedBy := none }).setQuestionStatus
      command.questionId .sendFailed

/-- The send command that `confirm_send` stores for a preview. -/
def newSendCommand (id : UUID) (now : Time) (question : DetectedQuestion) (finalVersion : Nat)
    (text : String) : OutboundCommand where
  id := id
  questionId := question.id
  commandType := .sendReply
  replyVersion := finalVersion
  idempotencyKey := ⟨question.id, .sendReply, finalVersion⟩
  telegramChatId := question.telegramChatId
  sourceMessageId := question.telegramMessageId
  topicId := question.topicId
  sentMessageId := none
  text := text
  status := .pending
  attemptCount := 0
  nextAttemptAt := now
  lockedAt := none
  lockedBy := none
  lastErrorCode := none
  lastErrorMessage := none
  createdAt := now
  completedAt := none

def confirmSend (questionId : UUID) (newId : UUID) (now : Time) (db : Database) :
    Answer ConfirmedCommand :=
  match db.detectedQuestions.get? questionId with
  | none => (.error .confirmationUnavailable, db)
  | some question =>
      match db.sendCommand? questionId with
      | some existing =>
          if question.status ≠ .sendRequested then (.error .confirmationUnavailable, db)
          else (.ok ⟨existing.id, existing.replyVersion, existing.text, false⟩, db)
      | none =>
          if question.status ≠ .waitingConfirmation then (.error .confirmationUnavailable, db)
          else match db.latestVersion? questionId with
            | none => (.error .confirmationUnavailable, db)
            | some preview =>
                if preview.action ≠ .draft then (.error .confirmationUnavailable, db)
                else
                  let finalVersion := db.latestVersionNumber questionId + 1
                  match db.insertReplyVersion ⟨questionId, finalVersion, preview.text, .sent⟩ with
                  | none => (.error .integrityError, db)
                  | some versioned =>
                      let command := newSendCommand newId now question finalVersion preview.text
                      match versioned.insertOutboundCommand command with
                      | none => (.error .integrityError, versioned)
                      | some inserted =>
                          (.ok ⟨command.id, finalVersion, preview.text, true⟩,
                            inserted.setQuestionStatus questionId .sendRequested)

end OutboundCommandRepository

end LeadAssistant
