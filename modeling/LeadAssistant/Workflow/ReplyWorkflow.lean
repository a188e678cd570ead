/-
Module: LeadAssistant.Workflow.ReplyWorkflow
Layer: Workflow
Purpose: The reply workflow as one transition system. The operator's calls and the maintenance pass
  are transactions taken in one step: each locks the rows it decides on until it commits. A worker
  iteration is taken in several steps, between which the claimed row is locked and its changes are
  visible to nobody: claim, validation, the Telegram call, and the rest up to the commit. It can be
  abandoned at any of them, which rolls its transaction back and leaves Telegram as it is.
Trusted boundary: human-reviewed spec
Main exports: World, Event, step, World.Fresh
-/
import LeadAssistant.Library.Transition
import LeadAssistant.Listener.Outbound

namespace LeadAssistant.ReplyWorkflow

open Relational

/-- How far an open `SendReplyWorker.run_once` has come. -/
inductive SendPhase where
  | claimed
  | validated
  | answered (answer : SendAnswer)
deriving Repr, DecidableEq

/-- An open iteration of a send worker: the objects of its session. -/
structure SendIteration where
  command : OutboundCommand
  question : DetectedQuestion
  phase : SendPhase

abbrev SendIteration.commandId (iteration : SendIteration) : UUID := iteration.command.id

/-- The message Telegram accepted in this iteration. -/
def SendIteration.acceptedId? (iteration : SendIteration) : Option Int :=
  match iteration.phase with
  | .answered answer => answer.acceptedId?
  | _ => none

/-- How far an open `EditReplyWorker.run_once` has come. -/
inductive EditPhase where
  | claimed
  | answered (answer : EditAnswer)
deriving Repr, DecidableEq

/-- An open iteration of an edit worker. -/
structure EditIteration where
  command : OutboundCommand
  question : DetectedQuestion
  phase : EditPhase

abbrev EditIteration.commandId (iteration : EditIteration) : UUID := iteration.command.id

/-- Telegram shows the text of this iteration's edit. -/
def EditIteration.applied (iteration : EditIteration) : Bool :=
  match iteration.phase with
  | .answered answer => answer.applied
  | .claimed => false

/-- A message of the account as Telegram shows it. Which question it answers is recorded for the
proofs alone. -/
structure TelegramMessage where
  chatId : Int
  messageId : Int
  questionId : UUID
  text : String
deriving Repr, DecidableEq

def TelegramMessage.key (message : TelegramMessage) : Int × Int :=
  (message.chatId, message.messageId)

/-- One `client.send_reply` call of the run. -/
structure SendCall where
  questionId : UUID
  accepted : Bool
deriving Repr, DecidableEq

/-- The committed database, the open iterations, what Telegram shows, and the calls made so far. -/
structure World where
  db : Database
  sending : Table SendIteration.commandId := ∅
  editing : Table EditIteration.commandId := ∅
  telegram : Table TelegramMessage.key := ∅
  sendCalls : List SendCall := []

inductive Event where
  | persisted (question : DetectedQuestion)
  | openQuestion (questionId : UUID)
  | createVersion (questionId : UUID) (text : String)
  | reopenForEdit (questionId : UUID)
  | cancel (questionId : UUID)
  | dismiss (questionId : UUID)
  | reopen (questionId : UUID)
  | removeChat (chatId : UUID)
  | confirmSend (questionId newId : UUID) (now : Time)
  | prepareEdit (questionId : UUID) (text : String)
  | confirmEdit (questionId newId : UUID) (now : Time)
  | retryFailed (commandId : UUID) (now : Time)
  | recoverStale (staleBefore : Time)
  | claimSend (workerId : String) (now : Time)
  | validateSend (commandId : UUID) (access : VerifyAnswer) (target : Option ReplyMessage)
      (now : Time)
  | callSend (commandId : UUID) (answer : SendAnswer)
  | finishSend (commandId : UUID) (now : Time)
  | crashSend (commandId : UUID)
  | claimEdit (workerId : String) (now : Time)
  | callEdit (commandId : UUID) (answer : EditAnswer)
  | finishEdit (commandId : UUID) (now : Time)
  | crashEdit (commandId : UUID)

namespace World

/-- A row lock held by an open iteration. -/
def locked (w : World) (commandId : UUID) : Bool :=
  (w.sending.get? commandId).isSome || (w.editing.get? commandId).isSome

/-- The end of a send iteration; `db` is what it leaves committed. -/
def closeSend (w : World) (commandId : UUID) (db : Database) : World :=
  { w with db := db, sending := w.sending.erase commandId }

/-- The end of an edit iteration. -/
def closeEdit (w : World) (commandId : UUID) (db : Database) : World :=
  { w with db := db, editing := w.editing.erase commandId }

/-- Advance an open send iteration. -/
def setSendPhase (w : World) (commandId : UUID) (phase : SendPhase) : World :=
  { w with
    sending := w.sending.update commandId (fun iteration => { iteration with phase := phase }) }

/-- Advance an open edit iteration. -/
def setEditPhase (w : World) (commandId : UUID) (phase : EditPhase) : World :=
  { w with
    editing := w.editing.update commandId (fun iteration => { iteration with phase := phase }) }

/-- `claim_send` in a new transaction, which ends at once when it claims nothing or raises. -/
def claimSend (w : World) (workerId : String) (now : Time) : Option World :=
  match OutboundCommandRepository.claimSend workerId w.locked now w.db with
  | .error _ | .ok none => some w
  | .ok (some command) =>
      match w.db.detectedQuestions.get? command.questionId with
      | none => none
      | some question =>
          (w.sending.insert? (SendIteration.mk command question .claimed)).map
            (fun sending => { w with sending := sending })

/-- `_validate` and the two handlers around it. An `OutboundValidationError` escapes, and so does an
error of `_record_error`; both roll the claim back. -/
def validateSend (w : World) (iteration : SendIteration) (access : VerifyAnswer)
    (target : Option ReplyMessage) (now : Time) : World :=
  let id := iteration.command.id
  match SendReplyWorker.validate iteration.command iteration.question access target with
  | .ok _ => w.setSendPhase id .validated
  | .error .invalid => w.closeSend id w.db
  | .error (.outbound error) =>
      w.closeSend id ((SendReplyWorker.recordError iteration.command error now w.db).getD w.db)
  | .error .transient =>
      w.closeSend id ((SendReplyWorker.recordError iteration.command
        SendReplyWorker.transientError now w.db).getD w.db)

/-- `client.send_reply`. A message Telegram accepts has an id that is new in its chat. -/
def callSend (w : World) (iteration : SendIteration) (answer : SendAnswer) : Option World :=
  let called := { w with
    sendCalls := w.sendCalls ++
      [SendCall.mk iteration.command.questionId answer.acceptedId?.isSome] }
  match answer.acceptedId? with
  | none => some (called.setSendPhase iteration.command.id (.answered answer))
  | some messageId =>
      (w.telegram.insert? (TelegramMessage.mk iteration.command.telegramChatId messageId
          iteration.command.questionId iteration.command.text)).map
        (fun telegram => { called.setSendPhase iteration.command.id (.answered answer) with
          telegram := telegram })

/-- `complete_send` or `_record_error`, and the commit. -/
def finishSend (w : World) (iteration : SendIteration) (answer : SendAnswer) (now : Time) :
    World :=
  match SendReplyWorker.settle iteration.command iteration.question answer now w.db with
  | some db => w.closeSend iteration.command.id db
  | none => w.closeSend iteration.command.id w.db

/-- `claim_edit` in a new transaction, which ends at once when it claims nothing or raises. -/
def claimEdit (w : World) (workerId : String) (now : Time) : Option World :=
  match OutboundCommandRepository.claimEdit workerId w.locked now w.db with
  | .error _ | .ok none => some w
  | .ok (some command) =>
      match w.db.detectedQuestions.get? command.questionId with
      | none => none
      | some question =>
          (w.editing.insert? (EditIteration.mk command question .claimed)).map
            (fun editing => { w with editing := editing })

/-- The target check of an edit and `client.edit_message`. -/
def callEdit (w : World) (iteration : EditIteration) (answer : EditAnswer) : World :=
  match EditReplyWorker.validTarget iteration.command iteration.question,
      iteration.command.sentMessageId with
  | true, some messageId =>
      let called := w.setEditPhase iteration.command.id (.answered answer)
      if answer.applied then
        { called with
          telegram := w.telegram.update (iteration.command.telegramChatId, messageId)
            (fun message => { message with text := iteration.command.text }) }
      else called
  | _, _ => w.closeEdit iteration.command.id
      (OutboundCommandRepository.failEdit iteration.command "INVALID_EDIT_TARGET" w.db)

/-- `complete_edit` or `fail_edit`, and the commit. -/
def finishEdit (w : World) (iteration : EditIteration) (answer : EditAnswer) (now : Time) :
    World :=
  match EditReplyWorker.settle iteration.command iteration.question answer now w.db with
  | some db => w.closeEdit iteration.command.id db
  | none => w.closeEdit iteration.command.id w.db

end World

/-- One step of the workflow. An event about an iteration that is not open, or not in the phase it
belongs to, is not enabled; nor is a manual retry of a locked command, which has to wait. -/
def step (w : World) : Event → Option World
  | .persisted question =>
      -- What the classification pipeline commits for a relevant message.
      if question.status = .detected then
        (w.db.detectedQuestions.insert? question).map
          (fun questions => { w with db := w.db.setDetectedQuestions questions })
      else none
  | .openQuestion questionId =>
      -- The handler catches the exception inside the transaction, which then commits.
      some { w with db := (ReplyDraftRepository.openQuestion questionId w.db).2 }
  | .createVersion questionId text =>
      some { w with
        db := (ReplyDraftRepository.createVersion questionId text w.db).committed w.db }
  | .reopenForEdit questionId =>
      some { w with db := (ReplyDraftRepository.reopenForEdit questionId w.db).committed w.db }
  | .cancel questionId =>
      some { w with db := (ReplyDraftRepository.cancel questionId w.db).committed w.db }
  | .dismiss questionId =>
      some { w with db := (QuestionFeedbackRepository.dismiss questionId w.db).committed w.db }
  | .reopen questionId =>
      some { w with db := (QuestionFeedbackRepository.reopen questionId w.db).committed w.db }
  | .removeChat chatId => some { w with db := MonitoredChatRepository.remove chatId w.db }
  | .confirmSend questionId newId now =>
      some { w with
        db := (OutboundCommandRepository.confirmSend questionId newId now w.db).committed w.db }
  | .prepareEdit questionId text =>
      some { w with
        db := (OutboundCommandRepository.prepareEdit questionId text w.db).committed w.db }
  | .confirmEdit questionId newId now =>
      some { w with
        db := (OutboundCommandRepository.confirmEdit questionId newId now w.db).committed w.db }
  | .retryFailed commandId now =>
      if w.locked commandId then none
      else some { w with
        db := (OutboundCommandRepository.retryFailed commandId now w.db).committed w.db }
  | .recoverStale staleBefore =>
      some { w with db := OutboundCommandRepository.recoverStale staleBefore w.db }
  | .claimSend workerId now => w.claimSend workerId now
  | .validateSend commandId access target now =>
      match w.sending.get? commandId with
      | some ⟨command, question, .claimed⟩ =>
          some (w.validateSend ⟨command, question, .claimed⟩ access target now)
      | _ => none
  | .callSend commandId answer =>
      match w.sending.get? commandId with
      | some ⟨command, question, .validated⟩ => w.callSend ⟨command, question, .validated⟩ answer
      | _ => none
  | .finishSend commandId now =>
      match w.sending.get? commandId with
      | some ⟨command, question, .answered answer⟩ =>
          some (w.finishSend ⟨command, question, .answered answer⟩ answer now)
      | _ => none
  | .crashSend commandId =>
      match w.sending.get? commandId with
      | some _ => some (w.closeSend commandId w.db)
      | none => none
  | .claimEdit workerId now => w.claimEdit workerId now
  | .callEdit commandId answer =>
      match w.editing.get? commandId with
      | some ⟨command, question, .claimed⟩ =>
          some (w.callEdit ⟨command, question, .claimed⟩ answer)
      | _ => none
  | .finishEdit commandId now =>
      match w.editing.get? commandId with
      | some ⟨command, question, .answered answer⟩ =>
          some (w.finishEdit ⟨command, question, .answered answer⟩ answer now)
      | _ => none
  | .crashEdit commandId =>
      match w.editing.get? commandId with
      | some _ => some (w.closeEdit commandId w.db)
      | none => none

/-- The start of a run: detected questions that nobody has worked on, and nothing else open. -/
structure World.Fresh (w : World) : Prop where
  detected : ∀ question ∈ w.db.detectedQuestions, question.status = .detected
  noVersion : ∀ version, version ∉ w.db.replyVersions
  noCommand : ∀ command, command ∉ w.db.outboundCommands
  noSession : ∀ session ∈ w.db.operatorSessions, session.activeQuestionId = none
  idleSends : ∀ iteration, iteration ∉ w.sending
  idleEdits : ∀ iteration, iteration ∉ w.editing
  noMessage : ∀ message, message ∉ w.telegram
  noCall : w.sendCalls = []

end LeadAssistant.ReplyWorkflow
