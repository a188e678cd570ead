/-
Module: LeadAssistant.Listener.Outbound
Layer: Listener
Purpose: The two outbound workers (`listener/outbound/__init__.py`): validation of a claimed send,
  the outcome of each Telegram call, and what the iteration writes for it. Telegram's answer to a
  send records whether the message was accepted: a refused call was not, an ambiguous one may have
  been.
Trusted boundary: human-reviewed spec
Main exports: SendAnswer, EditAnswer, SendReplyWorker.validate, SendReplyWorker.recordError
-/
import LeadAssistant.Repositories.OutboundCommands
import LeadAssistant.Listener.ReplyChain

namespace LeadAssistant

open Relational

/-- How one `client.send_reply` call ends. -/
inductive SendAnswer where
  /-- Telegram accepted the message and the call returns its id. -/
  | returned (messageId : Int)
  /-- The call raises a permanent or temporary error; nothing was sent. -/
  | refused (code : TelegramErrorCode) (temporary : Bool) (retryAfterSeconds : Option Nat)
  /-- The call raises an ambiguous error; the message may have been accepted. -/
  | ambiguous (code : TelegramErrorCode) (acceptedId : Option Int)
deriving Repr, DecidableEq

/-- The message Telegram accepted, whatever the caller learns of it. -/
def SendAnswer.acceptedId? : SendAnswer → Option Int
  | .returned messageId => some messageId
  | .refused _ _ _ => none
  | .ambiguous _ acceptedId => acceptedId

/-- How one `client.edit_message` call ends. -/
inductive EditAnswer where
  | returned
  | refused (code : TelegramErrorCode) (temporary : Bool) (retryAfterSeconds : Option Nat)
  | ambiguous (code : TelegramErrorCode) (applied : Bool)
deriving Repr, DecidableEq

/-- Telegram shows the new text after the call. -/
def EditAnswer.applied : EditAnswer → Bool
  | .returned => true
  | .refused _ _ _ => false
  | .ambiguous _ applied => applied

/-- The answers `client.verify_chat` may give to the outbound worker. -/
inductive VerifyAnswer where
  | result (outcome : ChatVerificationOutcome)
  | transient
deriving Repr, DecidableEq

namespace SendReplyWorker

/-- The ways `_validate` raises. -/
inductive ValidationFailure where
  | invalid
  | outbound (error : TelegramOutboundError)
  | transient
deriving Repr, DecidableEq

/-- `_validate`: the stored question first, then the chat, then the target message. -/
def validate (command : OutboundCommand) (question : DetectedQuestion) (access : VerifyAnswer)
    (target : Option ReplyMessage) : Except ValidationFailure Unit :=
  if question.status ≠ .sendRequested ∨ question.telegramChatId ≠ command.telegramChatId ∨
      question.telegramMessageId ≠ command.sourceMessageId ∨
      question.topicId ≠ command.topicId then .error .invalid
  else match access with
    | .transient => .error .transient
    | .result .readOnly => .error (.outbound ⟨.chatWriteForbidden, .permanent, none⟩)
    | .result .accessLost => .error (.outbound ⟨.accessLost, .permanent, none⟩)
    | .result .verificationFailed => .error (.outbound ⟨.accessLost, .permanent, none⟩)
    | .result .active =>
        match target with
        | none => .error (.outbound ⟨.sourceMessageDeleted, .permanent, none⟩)
        | some message =>
            if message.telegramChatId ≠ command.telegramChatId ∨
                message.telegramMessageId ≠ command.sourceMessageId ∨
                message.topicId ≠ command.topicId then .error .invalid
            else .ok ()

def retryDelays : List Nat := [15, 60, 300, 1800]

/-- The delay before the next attempt: Telegram's own for a flood wait, the schedule otherwise. -/
def retryDelay? (command : OutboundCommand) (error : TelegramOutboundError) : Option Nat :=
  if error.code = .floodWait then some (error.retryAfterSeconds.getD 0)
  else if command.attemptCount ≤ retryDelays.length then retryDelays[command.attemptCount - 1]?
  else none

/-- `_record_error`; `none` when the next attempt cannot be dated. -/
def recordError (command : OutboundCommand) (error : TelegramOutboundError) (now : Time)
    (db : Database) : Option Database :=
  let db := if error.code = .accessLost ∨ error.code = .chatWriteForbidden then
      OutboundCommandRepository.requestChatVerification command.telegramChatId now db
    else db
  match error.kind with
  | .temporary =>
      match retryDelay? command error with
      | some delay => OutboundCommandRepository.retrySend command error.code.value delay now db
      | none => some (OutboundCommandRepository.failSend command error.code.value true db)
  | .permanent => some (OutboundCommandRepository.failSend command error.code.value false db)
  | .ambiguous => some (OutboundCommandRepository.failSend command error.code.value true db)

section RecordError

variable {command : OutboundCommand} {error : TelegramOutboundError} {now : Time}
  {db after : Database}

/-- The contents that `_record_error` goes on with. -/
theorem exists_verifying : ∃ chats,
    (if error.code = .accessLost ∨ error.code = .chatWriteForbidden then
      OutboundCommandRepository.requestChatVerification command.telegramChatId now db
    else db) = db.setMonitoredChats chats := by
  split
  · exact ⟨_, rfl⟩
  · exact ⟨db.monitoredChats, rfl⟩

/-- What `_record_error` writes: a later attempt after a temporary error, or a failed send. -/
theorem recordError_cases (recorded : recordError command error now db = some after) :
    ∃ chats,
      (error.kind = .temporary ∧ ∃ delay, retryDelay? command error = some delay ∧
        Calendar.representable (now + seconds delay) = true ∧
        after = (db.setMonitoredChats chats).putOutboundCommand
          (OutboundCommandRepository.rescheduled command error.code.value
            (now + seconds delay))) ∨
      ∃ needsReview, after = OutboundCommandRepository.failSend command error.code.value needsReview
        (db.setMonitoredChats chats) := by
  obtain ⟨chats, verifying⟩ := @exists_verifying command error now db
  unfold recordError at recorded
  rw [verifying] at recorded
  refine ⟨chats, ?_⟩
  cases kind : error.kind with
  | temporary =>
      simp only [kind] at recorded
      cases chosen : retryDelay? command error with
      | some delay =>
          simp only [chosen] at recorded
          unfold OutboundCommandRepository.retrySend at recorded
          split at recorded
          · rename_i dated
            exact Or.inl ⟨rfl, delay, rfl, dated, (Option.some.inj recorded).symm⟩
          · cases recorded
      | none =>
          simp only [chosen] at recorded
          exact Or.inr ⟨true, (Option.some.inj recorded).symm⟩
  | permanent =>
      simp only [kind] at recorded
      exact Or.inr ⟨false, (Option.some.inj recorded).symm⟩
  | ambiguous =>
      simp only [kind] at recorded
      exact Or.inr ⟨true, (Option.some.inj recorded).symm⟩

/-- Only the date of a next attempt can be out of range. -/
theorem recordError_isSome_iff : (recordError command error now db).isSome = true ↔
    (error.kind = .temporary → ∀ delay, retryDelay? command error = some delay →
      Calendar.representable (now + seconds delay) = true) := by
  unfold recordError OutboundCommandRepository.retrySend
  cases error.kind with
  | temporary =>
      cases retryDelay? command error with
      | some delay => simp
      | none => simp
  | permanent => simp
  | ambiguous => simp

end RecordError

/-- The error a `ChatVerificationTransientError` is recorded as. -/
def transientError : TelegramOutboundError := ⟨.unknownError, .temporary, none⟩

/-- The rest of `run_once` after the send call: what its transaction commits, or `none` when an
exception escapes and it rolls back. -/
def settle (command : OutboundCommand) (question : DetectedQuestion) (answer : SendAnswer)
    (now : Time) (db : Database) : Option Database :=
  match answer with
  | .returned messageId =>
      match OutboundCommandRepository.completeSend command question messageId now db with
      | (.ok _, completed) => some completed
      | (.error _, _) => none
  | .refused code temporary retryAfterSeconds =>
      recordError command
        ⟨code, if temporary then .temporary else .permanent, retryAfterSeconds⟩ now db
  | .ambiguous code _ => recordError command ⟨code, .ambiguous, none⟩ now db

end SendReplyWorker

namespace EditReplyWorker

/-- The stored target an edit must have. -/
def validTarget (command : OutboundCommand) (question : DetectedQuestion) : Bool :=
  question.status = .sent && command.sentMessageId.isSome &&
    command.telegramChatId = question.telegramChatId

/-- The rest of `run_once` after the edit call. -/
def settle (command : OutboundCommand) (question : DetectedQuestion) (answer : EditAnswer)
    (now : Time) (db : Database) : Option Database :=
  match answer with
  | .returned =>
      match OutboundCommandRepository.completeEdit command question now db with
      | (.ok _, completed) => some completed
      | (.error _, _) => none
  | .refused code _ _ => some (OutboundCommandRepository.failEdit command code.value db)
  | .ambiguous code _ => some (OutboundCommandRepository.failEdit command code.value db)

end EditReplyWorker

end LeadAssistant
