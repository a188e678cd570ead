/-
Module: LeadAssistant.Listener.Ingestion
Layer: Listener
Purpose: `database_message_persister` (`ingestion.py`) at READ COMMITTED, one statement at a time.
  A statement reads what is committed when it starts. The upsert of a fingerprint reads its common
  table expression then, waits while another transaction has written the row and is still open, and
  writes over what is committed after the wait. The hash of a text is a parameter.
Trusted boundary: human-reviewed spec
Main exports: IncomingMessage, PersistOutcome, Persist, Intake, step
-/
import LeadAssistant.Library.Transition
import LeadAssistant.Repositories.Jobs

namespace LeadAssistant

open Relational

/-- The fields of a normalized Telegram message that the persister reads. -/
structure IncomingMessage where
  telegramChatId : Int
  telegramMessageId : Int
  topicId : Option Int
  senderTelegramId : Option Int
  senderDisplayName : Option String
  text : Option String
  telegramCreatedAt : Time
deriving Repr, DecidableEq

/-- Result of the short ingestion persistence transaction. -/
inductive PersistOutcome where
  | enqueued | duplicateSuppressed | inactiveChat
deriving Repr, DecidableEq

namespace MonitoredChatRepository

/-- `get_active_id_by_telegram_chat_id`. -/
def activeId? (telegramChatId : Int) (db : Database) : Option UUID :=
  (db.monitoredChats.rows.find? (fun chat =>
    chat.telegramChatId = telegramChatId && chat.status = .active)).map (fun chat => chat.id)

end MonitoredChatRepository

namespace Ingestion

/-- How far an open transaction has come, with its local variables. A transaction that has written
the fingerprint row holds it until it ends. -/
inductive Phase where
  | begun
  | active (monitoredChatId : UUID)
  | registering (monitoredChatId : UUID) (prior : Option Time)
  | registered (monitoredChatId : UUID) (prior : Option Time) (admitted : Bool)
  | enqueued (monitoredChatId : UUID) (prior : Option Time) (newId : UUID)
deriving Repr, DecidableEq

/-- What the statement of the upsert has read. -/
def Phase.prior? : Phase → Option (Option Time)
  | .registering _ prior | .registered _ prior _ | .enqueued _ prior _ => some prior
  | _ => none

/-- The fingerprint row is written and not yet committed. -/
def Phase.holdsRow : Phase → Bool
  | .registered .. | .enqueued .. => true
  | _ => false

/-- An open `persist` call, which is only opened for a message with a text. `startedAt` is `NOW()`
in its transaction. -/
structure Persist where
  id : Nat
  message : IncomingMessage
  text : String
  hasText : message.text = some text
  startedAt : Time
  phase : Phase

/-- What a `persist` call has returned, and whether it inserted a job. -/
structure Outcome where
  message : IncomingMessage
  result : PersistOutcome
  created : Bool
deriving Repr, DecidableEq

/-- The committed contents, the clock, the open transactions, and the calls that have returned,
which nothing reads. -/
structure Intake where
  db : Database
  clock : Time
  opened : Table Persist.id := ∅
  outcomes : List Outcome := []

inductive Event where
  | tick (now : Time)
  | begin (id : Nat) (message : IncomingMessage)
  | readChat (id : Nat)
  | startRegister (id : Nat)
  | write (id : Nat)
  | enqueue (id : Nat) (newId : UUID)
  | commit (id : Nat)
  | rollback (id : Nat)

/-- The row of `processing_jobs` that `persist` asks for. -/
def newJob (message : IncomingMessage) (text : String) (monitoredChatId : UUID) : NewJob where
  monitoredChatId := monitoredChatId
  telegramChatId := message.telegramChatId
  telegramMessageId := message.telegramMessageId
  topicId := message.topicId
  senderTelegramId := message.senderTelegramId
  senderDisplayName := message.senderDisplayName
  messageText := text
  telegramCreatedAt := message.telegramCreatedAt

namespace Intake

def setPhase (s : Intake) (id : Nat) (phase : Phase) : Intake :=
  { s with opened := s.opened.update id (fun persist => { persist with phase := phase }) }

/-- The end of a transaction; `db` is what it leaves committed. -/
def close (s : Intake) (id : Nat) (db : Database) : Intake :=
  { s with db := db, opened := s.opened.erase id }

/-- A call returns. -/
def answer (s : Intake) (message : IncomingMessage) (result : PersistOutcome) (created : Bool) :
    Intake :=
  { s with outcomes := s.outcomes ++ [⟨message, result, created⟩] }

end Intake

section Persister

variable (messageFingerprint : String → String) (window : Int)

/-- The primary key of the fingerprint row that a transaction writes. -/
def Persist.key (persist : Persist) : Int × String :=
  (persist.message.telegramChatId, messageFingerprint persist.text)

/-- Another open transaction has written the row. -/
def Intake.rowLocked (s : Intake) (persist : Persist) : Bool :=
  s.opened.rows.any (fun other => other.id ≠ persist.id && other.phase.holdsRow &&
    other.key messageFingerprint = persist.key messageFingerprint)

/-- The database with the transaction's sighting. -/
def Persist.sighted (persist : Persist) (db : Database) : Database :=
  db.setFingerprints (JobRepository.recordSighting persist.message.telegramChatId
    (messageFingerprint persist.text) persist.startedAt db.recentMessageFingerprints)

/-- What is committed for a key. -/
def Intake.lastSeen (s : Intake) (key : Int × String) : Option Time :=
  JobRepository.existing key.1 key.2 s.db.recentMessageFingerprints

/-- One statement, commit or rollback. An event that its transaction is not at, or whose statement
has to wait, is not enabled. -/
def step (s : Intake) : Event → Option Intake
  | .tick now => if s.clock ≤ now then some { s with clock := now } else none
  | .begin id message =>
      match hasText : message.text with
      | none => some (s.answer message .inactiveChat false)
      | some text =>
          (s.opened.insert? ⟨id, message, text, hasText, s.clock, .begun⟩).map
            (fun opened => { s with opened := opened })
  | .readChat id =>
      match s.opened.get? id with
      | some ⟨_, message, _, _, _, .begun⟩ =>
          match MonitoredChatRepository.activeId? message.telegramChatId s.db with
          | none => some ((s.close id s.db).answer message .inactiveChat false)
          | some monitoredChatId => some (s.setPhase id (.active monitoredChatId))
      | _ => none
  | .startRegister id =>
      match s.opened.get? id with
      | some ⟨id', message, text, hasText, startedAt, .active monitoredChatId⟩ =>
          let persist : Persist := ⟨id', message, text, hasText, startedAt, .active monitoredChatId⟩
          some (s.setPhase id
            (.registering monitoredChatId (s.lastSeen (persist.key messageFingerprint))))
      | _ => none
  | .write id =>
      match s.opened.get? id with
      | some ⟨id', message, text, hasText, startedAt, .registering monitoredChatId prior⟩ =>
          let persist : Persist :=
            ⟨id', message, text, hasText, startedAt, .registering monitoredChatId prior⟩
          if s.rowLocked messageFingerprint persist then none
          else some (s.setPhase id (.registered monitoredChatId prior
            (JobRepository.admits window s.clock prior)))
      | _ => none
  | .enqueue id newId =>
      match s.opened.get? id with
      | some ⟨_, message, text, _, startedAt, .registered monitoredChatId prior true⟩ =>
          match JobRepository.enqueue (newJob message text monitoredChatId) newId startedAt s.db with
          | .error _ => some (s.close id s.db)
          | .ok _ => some (s.setPhase id (.enqueued monitoredChatId prior newId))
      | _ => none
  | .commit id =>
      match s.opened.get? id with
      | some ⟨id', message, text, hasText, startedAt, .registered monitoredChatId prior false⟩ =>
          let persist : Persist :=
            ⟨id', message, text, hasText, startedAt, .registered monitoredChatId prior false⟩
          some ((s.close id (persist.sighted messageFingerprint s.db)).answer message
            .duplicateSuppressed false)
      | some ⟨id', message, text, hasText, startedAt, .enqueued monitoredChatId prior newId⟩ =>
          let persist : Persist :=
            ⟨id', message, text, hasText, startedAt, .enqueued monitoredChatId prior newId⟩
          match JobRepository.enqueue (newJob message text monitoredChatId) newId startedAt
              (persist.sighted messageFingerprint s.db) with
          | .error _ => none
          | .ok (_, db) =>
              some ((s.close id db).answer message .enqueued
                (s.db.jobFor? message.telegramChatId message.telegramMessageId).isNone)
      | _ => none
  | .rollback id =>
      match s.opened.get? id with
      | some _ => some (s.close id s.db)
      | none => none

end Persister

end Ingestion

end LeadAssistant
