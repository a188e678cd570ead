/-
Module: LeadAssistant.Workflow.Changes
Layer: Workflow
Purpose: What one committed transaction of the reply workflow can do to the database, said once.
  `Change db lock db'` lists the cases with everything the guards of the code establish; `lock` is
  the claimed command that the transaction settles. Every repository call is shown to be one of the
  cases, so the invariants of the workflow are proved by cases on `Change` and never unfold a call.
Trusted boundary: none
Main exports: SameCommand, Change, Change.keeps_pending
-/
import LeadAssistant.Workflow.ReplyWorkflow
import LeadAssistant.Repositories.Views

namespace LeadAssistant.ReplyWorkflow

open Relational OutboundCommandRepository

/-- The statuses in which a question has no send command. -/
def isDrafting (status : QuestionStatus) : Bool :=
  status ≠ .sendRequested && status ≠ .sent && status ≠ .sendFailed

/-- The question status that belongs to a send command. -/
def questionStatusOf : OutboundCommandStatus → QuestionStatus
  | .pending | .processing => .sendRequested
  | .succeeded => .sent
  | .failed | .needsReview => .sendFailed

/-- Two states of one command: what no transaction ever changes is the same. -/
structure SameCommand (a b : OutboundCommand) : Prop where
  id : b.id = a.id
  questionId : b.questionId = a.questionId
  commandType : b.commandType = a.commandType
  replyVersion : b.replyVersion = a.replyVersion
  idempotencyKey : b.idempotencyKey = a.idempotencyKey
  telegramChatId : b.telegramChatId = a.telegramChatId
  sourceMessageId : b.sourceMessageId = a.sourceMessageId
  topicId : b.topicId = a.topicId
  text : b.text = a.text

theorem SameCommand.refl (command : OutboundCommand) : SameCommand command command :=
  ⟨rfl, rfl, rfl, rfl, rfl, rfl, rfl, rfl, rfl⟩

/-- One committed transaction. -/
inductive Change (db : Database) : Option UUID → Database → Prop where
  | idle : Change db none db
  | arrived {question : DetectedQuestion} {questions : Table DetectedQuestion.id}
      (detected : question.status = .detected)
      (insert : db.detectedQuestions.insert? question = some questions) :
      Change db none (db.setDetectedQuestions questions)
  | removedChat (chatId : UUID) : Change db none (MonitoredChatRepository.remove chatId db)
  | redraft {question : DetectedQuestion} {status : QuestionStatus}
      (found : db.detectedQuestions.get? question.id = some question)
      (source : isDrafting question.status = true) (target : isDrafting status = true) :
      Change db none (db.setQuestionStatus question.id status)
  | draft {question : DetectedQuestion} {text : String} {inserted : Database}
      (found : db.detectedQuestions.get? question.id = some question)
      (source : isDrafting question.status = true)
      (insert : db.insertReplyVersion
        ⟨question.id, db.latestVersionNumber question.id + 1, text, .draft⟩ = some inserted) :
      Change db none (inserted.setQuestionStatus question.id .waitingConfirmation)
  | preview {question : DetectedQuestion} {text : String} {inserted : Database}
      (found : db.detectedQuestions.get? question.id = some question)
      (sent : question.status = .sent)
      (insert : db.insertReplyVersion
        ⟨question.id, db.latestVersionNumber question.id + 1, text, .draft⟩ = some inserted) :
      Change db none inserted
  | confirmedSend {question : DetectedQuestion} {shown : ReplyVersion}
      {versioned inserted : Database} {newId : UUID} {now : Time}
      (found : db.detectedQuestions.get? question.id = some question)
      (source : question.status = .waitingConfirmation)
      (alone : db.sendCommand? question.id = none)
      (top : db.latestVersion? question.id = some shown) (isDraft : shown.action = .draft)
      (version : db.insertReplyVersion
        ⟨question.id, db.latestVersionNumber question.id + 1, shown.text, .sent⟩ = some versioned)
      (insert : versioned.insertOutboundCommand (newSendCommand newId now question
        (db.latestVersionNumber question.id + 1) shown.text) = some inserted) :
      Change db none (inserted.setQuestionStatus question.id .sendRequested)
  | confirmedEdit {question : DetectedQuestion} {shown : ReplyVersion} {inserted : Database}
      {newId : UUID} {now : Time} {sentMessageId : Int}
      (found : db.detectedQuestions.get? question.id = some question)
      (sent : question.status = .sent)
      (top : db.latestVersion? question.id = some shown) (isDraft : shown.action = .draft)
      (target : db.storedSentMessageId question.id = some sentMessageId)
      (insert : db.insertOutboundCommand
        (newEditCommand newId now question shown sentMessageId) = some inserted) :
      Change db none inserted
  | retriedEdit {row after : OutboundCommand}
      (found : db.outboundCommands.get? row.id = some row) (failed : row.status = .failed)
      (edit : row.commandType = .editReply) (same : SameCommand row after)
      (sentId : after.sentMessageId = row.sentMessageId) (pending : after.status = .pending) :
      Change db none (db.putOutboundCommand after)
  | recovered (staleBefore : Time) : Change db none (recoverStale staleBefore db)
  | retriedSend {row after : OutboundCommand} {chats : Table MonitoredChat.id}
      (found : db.outboundCommands.get? row.id = some row) (pending : row.status = .pending)
      (send : row.commandType = .sendReply) (same : SameCommand row after)
      (sentId : after.sentMessageId = row.sentMessageId) (again : after.status = .pending) :
      Change db (some row.id) ((db.setMonitoredChats chats).putOutboundCommand after)
  | settledSend {row after : OutboundCommand} {chats : Table MonitoredChat.id}
      (found : db.outboundCommands.get? row.id = some row) (pending : row.status = .pending)
      (send : row.commandType = .sendReply) (same : SameCommand row after)
      (terminal : questionStatusOf after.status ≠ .sendRequested)
      (sentId : after.status = .succeeded → after.sentMessageId.isSome = true) :
      Change db (some row.id) (((db.setMonitoredChats chats).putOutboundCommand
        after).setQuestionStatus row.questionId (questionStatusOf after.status))
  | failedEdit {row after : OutboundCommand}
      (found : db.outboundCommands.get? row.id = some row) (pending : row.status = .pending)
      (edit : row.commandType = .editReply) (same : SameCommand row after)
      (sentId : after.sentMessageId = row.sentMessageId) (failed : after.status = .failed) :
      Change db (some row.id) (db.putOutboundCommand after)
  | completedEdit {row after : OutboundCommand} {inserted : Database}
      (found : db.outboundCommands.get? row.id = some row) (pending : row.status = .pending)
      (edit : row.commandType = .editReply) (same : SameCommand row after)
      (sentId : after.sentMessageId = row.sentMessageId) (succeeded : after.status = .succeeded)
      (insert : db.insertReplyVersion
        ⟨row.questionId, row.replyVersion, row.text, .edited⟩ = some inserted) :
      Change db (some row.id) (inserted.putOutboundCommand after)

/-! ### The operator's calls -/

section Operator

variable {db : Database} {questionId : UUID}

theorem found_of_get? {question : DetectedQuestion}
    (found : db.detectedQuestions.get? questionId = some question) :
    question.id = questionId ∧ db.detectedQuestions.get? question.id = some question := by
  have same := Table.key_of_get? found
  exact ⟨same, same ▸ found⟩

theorem isDrafting_of_opensFrom {status : QuestionStatus}
    (opens : ReplyDraftRepository.opensFrom status = true) : isDrafting status = true := by
  cases status <;> simp_all [ReplyDraftRepository.opensFrom, isDrafting]

theorem openQuestion_change : Change db none (ReplyDraftRepository.openQuestion questionId db).2 := by
  unfold ReplyDraftRepository.openQuestion
  split
  · exact .idle
  · rename_i question found
    obtain ⟨rfl, found⟩ := found_of_get? found
    split
    · rename_i opens
      exact .redraft found (isDrafting_of_opensFrom opens) rfl
    · exact .idle

theorem createVersion_change {text : String} :
    Change db none ((ReplyDraftRepository.createVersion questionId text db).committed db) := by
  unfold ReplyDraftRepository.createVersion
  split
  · exact .idle
  · rename_i question found
    obtain ⟨rfl, found⟩ := found_of_get? found
    split
    · exact .idle
    · rename_i waiting
      simp only [ne_eq, not_not] at waiting
      dsimp only
      split
      · exact .idle
      · rename_i inserted insert
        split
        · exact .idle
        · exact .draft found (by simp [isDrafting, waiting]) insert

theorem reopenForEdit_change :
    Change db none ((ReplyDraftRepository.reopenForEdit questionId db).committed db) := by
  unfold ReplyDraftRepository.reopenForEdit
  split
  · exact .idle
  · rename_i question found
    obtain ⟨rfl, found⟩ := found_of_get? found
    split
    · exact .idle
    · rename_i waiting
      simp only [ne_eq, not_not] at waiting
      exact .redraft found (by simp [isDrafting, waiting]) rfl

theorem cancel_change :
    Change db none ((ReplyDraftRepository.cancel questionId db).committed db) := by
  unfold ReplyDraftRepository.cancel
  split
  · exact .idle
  · rename_i question found
    obtain ⟨rfl, found⟩ := found_of_get? found
    split
    · exact .idle
    · split
      · rename_i waiting
        refine .redraft found ?_ rfl
        rcases waiting with waiting | waiting <;> simp [isDrafting, waiting]
      · exact .idle

theorem move_change {source target : QuestionStatus} (from_ : isDrafting source = true)
    (to_ : isDrafting target = true) :
    Change db none ((QuestionFeedbackRepository.move source target questionId db).committed db) := by
  unfold QuestionFeedbackRepository.move
  split
  · exact .idle
  · rename_i question found
    obtain ⟨rfl, found⟩ := found_of_get? found
    split
    · exact .idle
    · split
      · exact .idle
      · rename_i same
        simp only [ne_eq, not_not] at same
        exact .redraft found (same ▸ from_) to_

theorem confirmSend_change {newId : UUID} {now : Time} :
    Change db none ((confirmSend questionId newId now db).committed db) := by
  unfold confirmSend
  split
  · exact .idle
  · rename_i question found
    obtain ⟨rfl, found⟩ := found_of_get? found
    split
    · split <;> exact .idle
    · rename_i alone
      split
      · exact .idle
      · rename_i source
        simp only [ne_eq, not_not] at source
        split
        · exact .idle
        · rename_i shown top
          split
          · exact .idle
          · rename_i isDraft
            simp only [ne_eq, not_not] at isDraft
            dsimp only
            split
            · exact .idle
            · rename_i versioned version
              split
              · exact .idle
              · rename_i inserted insert
                exact .confirmedSend found source alone top isDraft version insert

theorem prepareEdit_change {text : String} :
    Change db none ((prepareEdit questionId text db).committed db) := by
  unfold prepareEdit
  split
  · exact .idle
  · rename_i question found
    obtain ⟨rfl, found⟩ := found_of_get? found
    split
    · exact .idle
    · rename_i sent
      simp only [ne_eq, not_not] at sent
      split
      · dsimp only
        split
        · exact .idle
        · rename_i inserted insert
          exact .preview found sent insert
      · exact .idle

theorem confirmEdit_change {newId : UUID} {now : Time} :
    Change db none ((confirmEdit questionId newId now db).committed db) := by
  unfold confirmEdit
  split
  · exact .idle
  · rename_i question found
    obtain ⟨rfl, found⟩ := found_of_get? found
    split
    · exact .idle
    · rename_i sent
      simp only [ne_eq, not_not] at sent
      split
      · exact .idle
      · rename_i shown top
        split
        · exact .idle
        · rename_i isDraft
          simp only [ne_eq, not_not] at isDraft
          split
          · exact .idle
          · split
            · exact .idle
            · rename_i sentMessageId target
              dsimp only
              split
              · exact .idle
              · rename_i inserted insert
                exact .confirmedEdit found sent top isDraft target insert

theorem retryFailed_change {commandId : UUID} {now : Time} :
    Change db none ((retryFailed commandId now db).committed db) := by
  unfold retryFailed
  split
  · exact .idle
  · rename_i command found
    have same : command.id = commandId := Table.key_of_get? found
    split
    · rename_i allowed
      simp only [manualRetryAllowed, Bool.and_eq_true, decide_eq_true_eq] at allowed
      subst same
      exact .retriedEdit found allowed.1.1.1 allowed.1.1.2
        ⟨rfl, rfl, rfl, rfl, rfl, rfl, rfl, rfl, rfl⟩ rfl rfl
    · exact .idle

end Operator

/-! ### The workers -/

/-- A command as an open iteration holds it: a committed pending row, changed by its claim. -/
def ClaimedFrom (row command : OutboundCommand) : Prop :=
  ∃ workerId now, command = claimed workerId now row

namespace ClaimedFrom

variable {row command : OutboundCommand}

theorem same (taken : ClaimedFrom row command) : SameCommand row command := by
  obtain ⟨workerId, now, rfl⟩ := taken
  exact ⟨rfl, rfl, rfl, rfl, rfl, rfl, rfl, rfl, rfl⟩

theorem sentId (taken : ClaimedFrom row command) : command.sentMessageId = row.sentMessageId := by
  obtain ⟨workerId, now, rfl⟩ := taken
  rfl

end ClaimedFrom

/-- A claim takes a committed pending row that no other session has locked. -/
theorem claim_spec {commandType : CommandType} {workerId : String} {locked : UUID → Bool}
    {now : Time} {db : Database} {command : OutboundCommand}
    (taken : claim commandType workerId locked now db = .ok (some command)) :
    ∃ row, db.outboundCommands.get? row.id = some row ∧ row.status = .pending ∧
      row.commandType = commandType ∧ locked row.id = false ∧ ClaimedFrom row command := by
  unfold claim at taken
  split at taken
  · cases taken
  · rename_i row first
    split at taken
    · cases taken
      obtain ⟨held, due⟩ := Table.mem_of_firstBy first
      simp only [claimable, Bool.and_eq_true, decide_eq_true_eq, Bool.not_eq_true'] at due
      exact ⟨row, Table.get?_of_mem held, due.1.1.2, due.1.1.1, due.2, workerId, now, rfl⟩
    · cases taken

section Workers

variable {db : Database} {row command : OutboundCommand} {now : Time}

theorem rescheduled_change {chats : Table MonitoredChat.id} {errorCode : String}
    {nextAttemptAt : Time} (found : db.outboundCommands.get? row.id = some row)
    (pending : row.status = .pending) (send : row.commandType = .sendReply)
    (taken : ClaimedFrom row command) :
    Change db (some row.id) ((db.setMonitoredChats chats).putOutboundCommand
      (rescheduled command errorCode nextAttemptAt)) := by
  have same := taken.same
  exact .retriedSend found pending send
    ⟨same.id, same.questionId, same.commandType, same.replyVersion, same.idempotencyKey,
      same.telegramChatId, same.sourceMessageId, same.topicId, same.text⟩ taken.sentId rfl

/-- A settled send, with the question and the status as the code writes them. -/
theorem settled_change {after : OutboundCommand} {questionId : UUID} {status : QuestionStatus}
    {settling : Database} (owner : questionId = row.questionId)
    (settled : status = questionStatusOf after.status)
    (change : Change db (some row.id) ((settling.putOutboundCommand after).setQuestionStatus
      row.questionId (questionStatusOf after.status))) :
    Change db (some row.id)
      ((settling.putOutboundCommand after).setQuestionStatus questionId status) := by
  rw [owner, settled]
  exact change

theorem failSend_change {chats : Table MonitoredChat.id} {errorCode : String}
    {needsReview : Bool} (found : db.outboundCommands.get? row.id = some row)
    (pending : row.status = .pending) (send : row.commandType = .sendReply)
    (taken : ClaimedFrom row command) :
    Change db (some row.id)
      (failSend command errorCode needsReview (db.setMonitoredChats chats)) := by
  have same := taken.same
  have status : questionStatusOf
      (if needsReview = true then OutboundCommandStatus.needsReview else .failed) =
      .sendFailed := by
    cases needsReview <;> rfl
  exact settled_change same.questionId status.symm
    (.settledSend found pending send
      ⟨same.id, same.questionId, same.commandType, same.replyVersion, same.idempotencyKey,
        same.telegramChatId, same.sourceMessageId, same.topicId, same.text⟩
      (by simp [status]) (by cases needsReview <;> simp))

theorem recordError_change {error : TelegramOutboundError} {after : Database}
    (found : db.outboundCommands.get? row.id = some row) (pending : row.status = .pending)
    (send : row.commandType = .sendReply) (taken : ClaimedFrom row command)
    (recorded : SendReplyWorker.recordError command error now db = some after) :
    Change db (some row.id) after := by
  rcases SendReplyWorker.recordError_cases recorded with
    ⟨chats, ⟨_, delay, _, _, rfl⟩ | ⟨needsReview, rfl⟩⟩
  · exact rescheduled_change found pending send taken
  · exact failSend_change found pending send taken

theorem completeSend_change {question : DetectedQuestion} {messageId : Int} {completed : Database}
    {answer : Unit} (found : db.outboundCommands.get? row.id = some row)
    (pending : row.status = .pending) (send : row.commandType = .sendReply)
    (taken : ClaimedFrom row command)
    (done : completeSend command question messageId now db = (.ok answer, completed)) :
    Change db (some row.id) completed := by
  have same := taken.same
  unfold completeSend at done
  split at done
  · simp at done
  · simp only [Prod.mk.injEq] at done
    rw [← done.2]
    exact settled_change same.questionId rfl
      (@Change.settledSend db row _ db.monitoredChats found pending send
        ⟨same.id, same.questionId, same.commandType, same.replyVersion, same.idempotencyKey,
          same.telegramChatId, same.sourceMessageId, same.topicId, same.text⟩
        (by simp [questionStatusOf]) (by simp))

theorem failEdit_change {errorCode : String} (found : db.outboundCommands.get? row.id = some row)
    (pending : row.status = .pending) (edit : row.commandType = .editReply)
    (taken : ClaimedFrom row command) :
    Change db (some row.id) (failEdit command errorCode db) := by
  have same := taken.same
  exact .failedEdit found pending edit
    ⟨same.id, same.questionId, same.commandType, same.replyVersion, same.idempotencyKey,
      same.telegramChatId, same.sourceMessageId, same.topicId, same.text⟩ taken.sentId rfl

theorem completeEdit_change {inserted : Database}
    (found : db.outboundCommands.get? row.id = some row) (pending : row.status = .pending)
    (edit : row.commandType = .editReply) (taken : ClaimedFrom row command)
    (insert : db.insertReplyVersion
      ⟨command.questionId, command.replyVersion, command.text, .edited⟩ = some inserted) :
    Change db (some row.id) (inserted.putOutboundCommand { command with
      status := .succeeded, completedAt := some now, lockedAt := none, lockedBy := none }) := by
  have same := taken.same
  rw [same.questionId, same.replyVersion, same.text] at insert
  exact .completedEdit found pending edit
    ⟨same.id, same.questionId, same.commandType, same.replyVersion, same.idempotencyKey,
      same.telegramChatId, same.sourceMessageId, same.topicId, same.text⟩ taken.sentId rfl insert

end Workers

/-! ### What a transaction does to the rows -/

section Rows

variable {db db' : Database} {questionId : UUID}

@[simp] theorem setQuestionStatus_commands {status : QuestionStatus} :
    (db.setQuestionStatus questionId status).outboundCommands = db.outboundCommands := rfl

@[simp] theorem setQuestionStatus_versions {status : QuestionStatus} :
    (db.setQuestionStatus questionId status).replyVersions = db.replyVersions := rfl

@[simp] theorem setMonitoredChats_commands {chats : Table MonitoredChat.id} :
    (db.setMonitoredChats chats).outboundCommands = db.outboundCommands := rfl

@[simp] theorem putOutboundCommand_questions {command : OutboundCommand} :
    (db.putOutboundCommand command).detectedQuestions = db.detectedQuestions := rfl

theorem mem_putOutboundCommand {row after x : OutboundCommand}
    (found : db.outboundCommands.get? row.id = some row) (same : SameCommand row after) :
    x ∈ (db.putOutboundCommand after).outboundCommands ↔
      (x ∈ db.outboundCommands ∧ x.id ≠ row.id) ∨ x = after := by
  have stored : (db.outboundCommands.get? after.id).isSome := by rw [same.id, found]; rfl
  unfold Database.putOutboundCommand
  rw [Table.mem_put stored, same.id]

theorem mem_recoverStale {staleBefore : Time} {x : OutboundCommand} :
    x ∈ (recoverStale staleBefore db).outboundCommands ↔
      (x ∈ db.outboundCommands ∧ isStale staleBefore x = false) ∨
        ∃ row ∈ db.outboundCommands, isStale staleBefore row = true ∧ x = recovered row := by
  have rows : (recoverStale staleBefore db).outboundCommands =
      db.outboundCommands.updateWhere (isStale staleBefore) recovered
        (fun command _ => recovered_id command) := rfl
  rw [rows, Table.mem_updateWhere]

end Rows

/-- A transaction leaves the pending commands alone that it does not settle itself. -/
theorem Change.keeps_pending {db db' : Database} {lock : Option UUID} {row : OutboundCommand}
    (change : Change db lock db') (found : db.outboundCommands.get? row.id = some row)
    (pending : row.status = .pending) (other : lock ≠ some row.id) :
    db'.outboundCommands.get? row.id = some row := by
  have held := Table.mem_of_get? found
  suffices row ∈ db'.outboundCommands from Table.get?_of_mem this
  cases change with
  | idle => exact held
  | arrived => exact held
  | removedChat => exact held
  | redraft => exact held
  | draft _ _ insert => exact (Database.insertReplyVersion_spec insert).2.1 ▸ held
  | preview _ _ insert => exact (Database.insertReplyVersion_spec insert).2.1 ▸ held
  | confirmedSend _ _ _ _ _ version insert =>
      rw [setQuestionStatus_commands, (Database.insertOutboundCommand_spec insert).2.2.2]
      exact Or.inl ((Database.insertReplyVersion_spec version).2.1 ▸ held)
  | confirmedEdit _ _ _ _ _ insert =>
      rw [(Database.insertOutboundCommand_spec insert).2.2.2]
      exact Or.inl held
  | retriedEdit found' failed _ same _ _ =>
      rw [mem_putOutboundCommand found' same]
      refine Or.inl ⟨held, fun eq => ?_⟩
      rw [eq, found'] at found
      simp only [Option.some.injEq] at found
      rw [found, pending] at failed
      simp at failed
  | recovered staleBefore =>
      rw [mem_recoverStale]
      exact Or.inl ⟨held, by simp [isStale, pending]⟩
  | retriedSend found' _ _ same _ _ =>
      rw [mem_putOutboundCommand (by simpa using found') same]
      exact Or.inl ⟨held, fun eq => other (congrArg some eq.symm)⟩
  | settledSend found' _ _ same _ _ =>
      rw [setQuestionStatus_commands,
        mem_putOutboundCommand (by simpa using found') same]
      exact Or.inl ⟨held, fun eq => other (congrArg some eq.symm)⟩
  | failedEdit found' _ _ same _ _ =>
      rw [mem_putOutboundCommand found' same]
      exact Or.inl ⟨held, fun eq => other (congrArg some eq.symm)⟩
  | completedEdit found' _ _ same _ _ insert =>
      obtain ⟨_, commands, _, _⟩ := Database.insertReplyVersion_spec insert
      rw [mem_putOutboundCommand (commands ▸ found') same, commands]
      exact Or.inl ⟨held, fun eq => other (congrArg some eq.symm)⟩

end LeadAssistant.ReplyWorkflow
