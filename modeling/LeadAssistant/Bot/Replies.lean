/-
Module: LeadAssistant.Bot.Replies
Layer: Bot
Purpose: The operator's reply callbacks (`bot/handlers/replies.py`). Each opens one transaction,
  reads the active question without a lock, and decides the rest under row locks. A handler is the
  function from what it read and the contents its locked part sees to what it commits. An exception
  that leaves the transaction rolls it back; one caught inside it does not.
Trusted boundary: human-reviewed spec
Main exports: ReplyCall, ReplyCall.commit
-/
import LeadAssistant.Repositories.OperatorSessions
import LeadAssistant.Repositories.OutboundCommands

namespace LeadAssistant

open Relational

/-- The callbacks and messages of the reply flow that change the draft. -/
inductive ReplyCall where
  | reply (questionId : UUID)
  | replace (questionId : UUID)
  | continue_ (questionId : UUID)
  | text (questionId : UUID) (text : String)
  | edit (questionId : UUID)
  | cancel (questionId : UUID)
  | confirm (questionId newId : UUID) (now : Time)
deriving Repr, DecidableEq

namespace ReplyCall

/-- `replace and active not in (None, question_id)`: the draft that is given up. -/
def previous? (questionId : UUID) (replace : Bool) (active : Option UUID) : Option UUID :=
  if replace then active.filter (fun previous => previous ≠ questionId) else none

/-- The contents after that draft was cancelled; a refusal of `cancel` is caught. -/
def cancelPrevious (previous : Option UUID) (db : Database) : Database :=
  match previous with
  | some previous => (ReplyDraftRepository.cancel previous db).2
  | none => db

/-- `_open_question`. The failed `open` is caught inside the transaction, which commits what the
statements before it wrote; a conflict at the session row escapes. -/
def openQuestion (operatorUserId : Int) (questionId : UUID) (replace : Bool)
    (active : Option UUID) (db : Database) : Database :=
  if active ≠ none ∧ active ≠ some questionId ∧ !replace then db
  else
    match ReplyDraftRepository.openQuestion questionId
        (cancelPrevious (previous? questionId replace active) db) with
    | (.error _, opened) => opened
    | (.ok _, opened) =>
        match OperatorSessionRepository.openQuestion operatorUserId questionId replace opened with
        | (.ok _, bound) => bound
        | (.error _, _) => db

/-- What a handler commits, given the active question it read. A text is stored by `accept_draft`;
`continue` only reads. -/
def commit (operatorUserId : Int) (call : ReplyCall) (active : Option UUID) (db : Database) :
    Database :=
  match call with
  | .reply questionId => openQuestion operatorUserId questionId false active db
  | .replace questionId => openQuestion operatorUserId questionId true active db
  | .continue_ _ => db
  | .text questionId body =>
      if active ≠ some questionId then db
      else (ReplyDraftRepository.createVersion questionId body db).committed db
  | .edit questionId =>
      if active ≠ some questionId then db
      else (ReplyDraftRepository.reopenForEdit questionId db).committed db
  | .cancel questionId =>
      if active ≠ some questionId then db
      else match ReplyDraftRepository.cancel questionId db with
        | (.ok _, cancelled) =>
            OperatorSessionRepository.clearActiveQuestion operatorUserId cancelled
        | (.error _, _) => db
  | .confirm questionId newId now =>
      if active ≠ some questionId then db
      else match OutboundCommandRepository.confirmSend questionId newId now db with
        | (.ok _, confirmed) =>
            OperatorSessionRepository.clearActiveQuestion operatorUserId confirmed
        | (.error _, _) => db

end ReplyCall

end LeadAssistant
