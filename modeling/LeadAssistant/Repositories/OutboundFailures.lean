/-
Module: LeadAssistant.Repositories.OutboundFailures
Layer: Repositories
Purpose: `OutboundCommandRepository.list_failures` (`outbound_commands.py`): the failing commands,
  newest first, each with the username of its question's monitored chat. Both joins are inner joins
  on a primary key, so a command has at most one row, and none if its question has no chat.
Trusted boundary: human-reviewed spec
Main exports: OutboundFailure, OutboundCommandRepository.isFailure, chatOf?, listFailures,
  listFailures_perm
-/
import LeadAssistant.Repositories.OutboundCommands

namespace LeadAssistant

open Relational

/-- Privacy-safe outbound failure data required by the operator UI. -/
structure OutboundFailure where
  commandId : UUID
  commandType : CommandType
  status : OutboundCommandStatus
  errorCode : String
  nextAttemptAt : Time
  telegramChatId : Int
  sourceMessageId : Int
  topicId : Option Int
  sentMessageId : Option Int
  chatUsername : Option String
  retryAllowed : Bool
deriving Repr, DecidableEq

namespace OutboundCommandRepository

/-- The `WHERE` of `list_failures`. -/
def isFailure (command : OutboundCommand) : Bool :=
  command.status = .failed || command.status = .needsReview ||
    (command.status = .pending && command.lastErrorCode.isSome)

/-- `last_error_code or "UNKNOWN_ERROR"`; an empty string is false. -/
def errorCodeOf (command : OutboundCommand) : String :=
  match command.lastErrorCode with
  | none => "UNKNOWN_ERROR"
  | some code => if code = "" then "UNKNOWN_ERROR" else code

/-- The two joins of `list_failures`: the monitored chat of the command's question. -/
def chatOf? (db : Database) (command : OutboundCommand) : Option MonitoredChat :=
  (db.detectedQuestions.get? command.questionId).bind (fun question =>
    question.monitoredChatId.bind db.monitoredChats.get?)

/-- One entry of the list. -/
def failureOf (command : OutboundCommand) (username : Option String) : OutboundFailure where
  commandId := command.id
  commandType := command.commandType
  status := command.status
  errorCode := errorCodeOf command
  nextAttemptAt := command.nextAttemptAt
  telegramChatId := command.telegramChatId
  sourceMessageId := command.sourceMessageId
  topicId := command.topicId
  sentMessageId := command.sentMessageId
  chatUsername := username
  retryAllowed := manualRetryAllowed command

/-- The commands that the list is about. -/
def failures (db : Database) : List OutboundCommand := db.outboundCommands.rows.filter isFailure

/-- List current failures without exposing stored reply text or raw errors. -/
def listFailures (limit : Nat) (db : Database) : List OutboundFailure :=
  (((innerJoin (failures db) (chatOf? db)).insertionSort
    (fun a b => b.1.createdAt ≤ a.1.createdAt)).take limit).map
      (fun (command, chat) => failureOf command chat.username)

/-- The failing commands that have a chat. -/
def joinedFailures (db : Database) : List OutboundCommand :=
  (failures db).filter (fun command => (chatOf? db command).isSome)

/-- Under a limit that cuts nothing, the list holds the joined failures, each once. -/
theorem listFailures_perm {limit : Nat} {db : Database} {α : Type} (view : OutboundFailure → α)
    (column : OutboundCommand → α) (large : db.outboundCommands.rows.length ≤ limit)
    (same : ∀ command username, view (failureOf command username) = column command) :
    ((listFailures limit db).map view).Perm ((joinedFailures db).map column) := by
  have fits : ((innerJoin (failures db) (chatOf? db)).insertionSort
      (fun a b => b.1.createdAt ≤ a.1.createdAt)).length ≤ limit := by
    rw [List.length_insertionSort]
    exact length_innerJoin_le.trans ((List.length_filter_le _ _).trans large)
  have sorted := (List.perm_insertionSort (fun a b => b.1.createdAt ≤ a.1.createdAt)
    (innerJoin (failures db) (chatOf? db))).map (fun row => column row.1)
  have columns : (innerJoin (failures db) (chatOf? db)).map (fun row => column row.1) =
      (joinedFailures db).map column := by
    unfold joinedFailures
    rw [← innerJoin_map_fst, List.map_map]
    rfl
  unfold listFailures
  rw [List.take_of_length_le fits, List.map_map]
  rw [columns] at sorted
  convert sorted using 2
  funext row
  exact same row.1 row.2.username

end OutboundCommandRepository

end LeadAssistant
