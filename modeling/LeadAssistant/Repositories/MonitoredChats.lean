/-
Module: LeadAssistant.Repositories.MonitoredChats
Layer: Repositories
Purpose: `MonitoredChatRepository` (`monitored_chats.py`) but for `remove`, and the listener's pass
  over the chats that are due (`chat_verification.py`). Every change is one conditional `UPDATE`: the
  rows it may touch are a test of their own, and what it writes is a function of the old row.
Trusted boundary: human-reviewed spec
Main exports: NewMonitoredChat, ChatVerificationResult, MonitoredChatRepository.addPending,
  applyVerification, deferVerification, requestVerification, pause, resume, verifyDueChatsOnce
-/
import LeadAssistant.Repositories.OutboundCommands
import Mathlib.Algebra.Group.Nat.Defs

namespace LeadAssistant

open Relational

/-- Bot API metadata captured from a group picker result. -/
structure NewMonitoredChat where
  telegramChatId : Int
  title : String
  username : Option String
deriving Repr, DecidableEq

/-- Privacy-safe result of checking one monitored Telegram chat. -/
structure ChatVerificationResult where
  outcome : ChatVerificationOutcome
  isSupergroup : Bool := false
  isForum : Bool := false
  errorCode : Option String := none
deriving Repr, DecidableEq

/-- `MonitoredChatStatus(result.outcome.value)`. -/
def ChatVerificationOutcome.status : ChatVerificationOutcome → MonitoredChatStatus
  | .active => .active
  | .readOnly => .readOnly
  | .accessLost => .accessLost
  | .verificationFailed => .verificationFailed

/-- The chat type that a result shows. -/
def ChatVerificationResult.chatType (result : ChatVerificationResult) : MonitoredChatType :=
  if result.isForum then .forumSupergroup
  else if result.isSupergroup then .supergroup
  else .group

/-- The column limits of `monitored_chats` on the values of a picker result. -/
def NewMonitoredChat.storable (chat : NewMonitoredChat) : Bool :=
  fitsVarchar 255 chat.title && chat.username.all (fitsVarchar 255)

/-- The column limits on the values of a verification; failures are counted in a `SMALLINT`. -/
def MonitoredChat.verificationStorable (chat : MonitoredChat) : Bool :=
  chat.consecutiveAccessFailures < 2 ^ 15 && chat.lastErrorCode.all (fitsVarchar 100)

namespace MonitoredChatRepository

def DAILY_INTERVAL : Int := days 1

def CONFIRMATION_INTERVAL : Int := minutes 5

def RETRY_INTERVAL : Int := minutes 5

/-- A chat as it is added. -/
def pendingChat (id : UUID) (chat : NewMonitoredChat) (now : Time) : MonitoredChat where
  id := id
  telegramChatId := chat.telegramChatId
  title := chat.title
  username := chat.username
  chatType := .group
  status := .pendingVerification
  lastVerifiedAt := none
  nextVerificationAt := now
  consecutiveAccessFailures := 0
  accessLostAt := none
  lastErrorCode := none

/-- `add_pending`: the row of the chat, and whether this call created it. -/
def addPending (newId : UUID) (chat : NewMonitoredChat) (now : Time) (db : Database) :
    Answer (MonitoredChat × Bool) :=
  if !chat.storable then (.error .dataError, db)
  else match db.monitoredChats.rows.find? (fun other =>
      other.telegramChatId = chat.telegramChatId) with
    | some existing => (.ok (existing, false), db)
    | none =>
        match db.monitoredChats.insert? (pendingChat newId chat now) with
        | none => (.error .integrityError, db)
        | some chats => (.ok (pendingChat newId chat now, true), db.setMonitoredChats chats)

/-- `SELECT ... ORDER BY next_verification_at, id LIMIT 20`. -/
def listDueVerification (now : Time) (db : Database) : List MonitoredChat :=
  db.monitoredChats.batch
    (fun chat => chat.status ≠ .disabled && chat.nextVerificationAt ≤ now)
    (fun chat => toLex (chat.nextVerificationAt, chat.id)) 20

/-- An enabled chat, by its id. -/
def isEnabled (chatId : UUID) (chat : MonitoredChat) : Bool :=
  chat.id = chatId && chat.status ≠ .disabled

/-- An enabled chat, by its Telegram id. -/
def isEnabledInTelegram (telegramChatId : Int) (chat : MonitoredChat) : Bool :=
  chat.telegramChatId = telegramChatId && chat.status ≠ .disabled

/-- A disabled chat, by its id. -/
def isDisabled (chatId : UUID) (chat : MonitoredChat) : Bool :=
  chat.id = chatId && chat.status = .disabled

/-- The values of `apply_verification`. Two consecutive results are needed for a loss of access. -/
def verified (result : ChatVerificationResult) (now : Time) (chat : MonitoredChat) :
    MonitoredChat :=
  let accessLost := result.outcome = .accessLost
  let confirmed := 1 ≤ chat.consecutiveAccessFailures
  { chat with
    status :=
      if accessLost then if confirmed then .accessLost else chat.status
      else result.outcome.status
    chatType := result.chatType
    lastVerifiedAt := some now
    nextVerificationAt := now +
      if accessLost then if confirmed then DAILY_INTERVAL else CONFIRMATION_INTERVAL
      else DAILY_INTERVAL
    consecutiveAccessFailures := if accessLost then chat.consecutiveAccessFailures + 1 else 0
    lastErrorCode := result.errorCode
    accessLostAt :=
      if accessLost then if confirmed then some (chat.accessLostAt.getD now) else chat.accessLostAt
      else none }

/-- `SET next_verification_at = ...`. -/
def scheduled (time : Time) (chat : MonitoredChat) : MonitoredChat :=
  { chat with nextVerificationAt := time }

def paused (chat : MonitoredChat) : MonitoredChat := { chat with status := .disabled }

/-- The values of `resume`. -/
def resumed (now : Time) (chat : MonitoredChat) : MonitoredChat :=
  { chat with
    status := .pendingVerification, nextVerificationAt := now, consecutiveAccessFailures := 0 }

/-- `UPDATE monitored_chats ... WHERE ... RETURNING id`: whether a row has changed. -/
def updateChats (chosen : MonitoredChat → Bool) (change : MonitoredChat → MonitoredChat)
    (keeps : ∀ chat, (change chat).id = chat.id) (db : Database) : Answer Bool :=
  (.ok (db.monitoredChats.rows.any chosen),
    db.setMonitoredChats
      (db.monitoredChats.updateWhere chosen change (fun chat _ => keeps chat)))

/-- Persist verification, requiring two consecutive access-loss results. -/
def applyVerification (chatId : UUID) (result : ChatVerificationResult) (now : Time)
    (db : Database) : Answer Bool :=
  if db.monitoredChats.rows.any (fun chat =>
      isEnabled chatId chat && !(verified result now chat).verificationStorable) then
    (.error .dataError, db)
  else updateChats (isEnabled chatId) (verified result now) (fun _ => rfl) db

/-- Retry a transient verification without changing chat access evidence. -/
def deferVerification (chatId : UUID) (now : Time) : Database → Answer Bool :=
  updateChats (isEnabled chatId) (scheduled (now + RETRY_INTERVAL)) (fun _ => rfl)

/-- Schedule an immediate access check after a relevant Telegram error. -/
def requestVerification (telegramChatId : Int) (now : Time) : Database → Answer Bool :=
  updateChats (isEnabledInTelegram telegramChatId) (scheduled now) (fun _ => rfl)

/-- Disable a chat without deleting its history. -/
def pause (chatId : UUID) : Database → Answer Bool :=
  updateChats (isEnabled chatId) paused (fun _ => rfl)

/-- Queue a disabled chat for verification before monitoring resumes. -/
def resume (chatId : UUID) (now : Time) : Database → Answer Bool :=
  updateChats (isDisabled chatId) (resumed now) (fun _ => rfl)

end MonitoredChatRepository

/-- How `client.verify_chat` ends: with a result, or with a `ChatVerificationTransientError`. -/
abbrev VerifyChat := Int → Option ChatVerificationResult

/-- One chat of `verify_due_chats_once`, in a transaction of its own. -/
def verifyChat (client : VerifyChat) (now : Time) (chat : MonitoredChat) (db : Database) :
    Answer Bool :=
  match client chat.telegramChatId with
  | none => MonitoredChatRepository.deferVerification chat.id now db
  | some result => MonitoredChatRepository.applyVerification chat.id result now db

/-- The loop of `verify_due_chats_once` over a batch; an exception ends it. -/
def verifyChats (client : VerifyChat) (now : Time) : List MonitoredChat → Database → Database
  | [], db => db
  | chat :: rest, db =>
      match verifyChat client now chat db with
      | (.error _, _) => db
      | (.ok _, verified) => verifyChats client now rest verified

/-- Verify one bounded pending batch, preserving state on transient failures. -/
def verifyDueChatsOnce (client : VerifyChat) (now : Time) (db : Database) : Database :=
  verifyChats client now (MonitoredChatRepository.listDueVerification now db) db

end LeadAssistant
