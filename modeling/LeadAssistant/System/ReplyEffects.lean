/-
Module: LeadAssistant.System.ReplyEffects
Layer: System
Purpose: What one event of the operator or of an outbound worker writes, said once: a text is stored
  by the call that brings it, a command by the confirmation of a preview, and everything else carries
  texts and commands along that were there before.
Trusted boundary: none
Main exports: ReplyWorkflow.Event.Types, ReplyWorkflow.Event.Confirms, ReplyWorkflow.Keeps,
  ReplyWorkflow.Writes, ReplyWorkflow.Settles, ReplyWorkflow.step_settles,
  ReplyWorkflow.step_writes
-/
import LeadAssistant.System.Services
import LeadAssistant.Workflow.Changes

namespace LeadAssistant.ReplyWorkflow

open Relational OutboundCommandRepository

/-- A call that stores a text of the operator for a question. -/
def Event.Types (questionId : UUID) (text : String) : Event → Prop
  | .createVersion id typed | .prepareEdit id typed => id = questionId ∧ typed = text
  | _ => False

/-- A call that confirms the preview of a question. -/
def Event.Confirms (questionId : UUID) : Event → Prop
  | .confirmSend id .. | .confirmEdit id .. => id = questionId
  | _ => False

theorem Event.not_outbound_of_isCall {call : Event} (isCall : call.isCall = true) :
    call.isOutbound = false := by
  cases call <;> first | rfl | cases isCall

theorem Event.Types.not_outbound {call : Event} {questionId : UUID} {text : String}
    (types : call.Types questionId text) : call.isOutbound = false := by
  cases call with
  | createVersion => rfl
  | prepareEdit => rfl
  | _ => exact types.elim

theorem Event.Confirms.not_outbound {call : Event} {questionId : UUID}
    (confirms : call.Confirms questionId) : call.isOutbound = false := by
  cases call with
  | confirmSend => rfl
  | confirmEdit => rfl
  | _ => exact confirms.elim

/-- A command that is stored, or that an open iteration holds. -/
def World.Knows (w : World) (command : OutboundCommand) : Prop :=
  command ∈ w.db.outboundCommands ∨ (∃ iteration ∈ w.sending, iteration.command = command) ∨
    ∃ iteration ∈ w.editing, iteration.command = command

/-- The jobs stay, questions stay in their places, and no command is new. -/
structure Keeps (w : World) (db : Database) : Prop where
  jobs : db.processingJobs = w.db.processingJobs
  places : ∀ id, db.placeOf? id = w.db.placeOf? id
  commands : ∀ command ∈ db.outboundCommands, ∃ known, w.Knows known ∧ SameCommand known command

/-- What an event of the operator or of a worker writes. -/
inductive Writes (w : World) (e : Event) (db : Database) : Prop where
  | kept (keeps : Keeps w db) (versions : db.replyVersions = w.db.replyVersions)
  | removed (chatId : UUID) (event : e = .removeChat chatId)
      (result : db = MonitoredChatRepository.remove chatId w.db)
  | typed (version : ReplyVersion) (types : e.Types version.questionId version.text)
      (asked : (w.db.placeOf? version.questionId).isSome) (keeps : Keeps w db)
      (versions : ∀ v ∈ db.replyVersions, v ∈ w.db.replyVersions ∨ v = version)
  | confirmed (shown : ReplyVersion) (confirms : e.Confirms shown.questionId)
      (top : w.db.latestVersion? shown.questionId = some shown) (isDraft : shown.action = .draft)
      (jobs : db.processingJobs = w.db.processingJobs)
      (places : ∀ id, db.placeOf? id = w.db.placeOf? id)
      (versions : ∀ v ∈ db.replyVersions, v ∈ w.db.replyVersions ∨
        v.questionId = shown.questionId ∧ v.text = shown.text)
      (commands : ∀ command ∈ db.outboundCommands, command ∈ w.db.outboundCommands ∨
        command.questionId = shown.questionId ∧ command.text = shown.text)
  | published (iteration : EditIteration) (held : iteration ∈ w.editing) (keeps : Keeps w db)
      (versions : ∀ v ∈ db.replyVersions, v ∈ w.db.replyVersions ∨
        v.questionId = iteration.command.questionId ∧ v.text = iteration.command.text)

section Writing

variable {w w' : World} {e : Event} {db : Database} {questionId : UUID} {now : Time}

theorem insertReplyVersion_jobs {version : ReplyVersion}
    (insert : w.db.insertReplyVersion version = some db) :
    db.processingJobs = w.db.processingJobs := by
  obtain ⟨versions, _, rfl⟩ := Option.map_eq_some_iff.1 insert
  rfl

theorem insertOutboundCommand_jobs {x : Database} {command : OutboundCommand}
    (insert : x.insertOutboundCommand command = some db) :
    db.processingJobs = x.processingJobs := by
  unfold Database.insertOutboundCommand at insert
  split at insert
  · cases insert
  · obtain ⟨commands, _, rfl⟩ := Option.map_eq_some_iff.1 insert
    rfl

theorem Keeps.refl (w : World) : Keeps w w.db :=
  ⟨rfl, fun _ => rfl, fun command held => ⟨command, Or.inl held, .refl command⟩⟩

theorem Keeps.congr {x : Database} (keeps : Keeps w db)
    (jobs : x.processingJobs = db.processingJobs) (places : ∀ id, x.placeOf? id = db.placeOf? id)
    (commands : x.outboundCommands = db.outboundCommands) : Keeps w x :=
  ⟨jobs.trans keeps.jobs, fun id => (places id).trans (keeps.places id), fun command held =>
    keeps.commands command (commands ▸ held)⟩

theorem Keeps.put {after known : OutboundCommand} (keeps : Keeps w db) (knows : w.Knows known)
    (same : SameCommand known after) : Keeps w (db.putOutboundCommand after) := by
  refine ⟨keeps.jobs, keeps.places, fun command held => ?_⟩
  unfold Database.putOutboundCommand Table.put at held
  dsimp only at held
  rcases Table.mem_update.1 held with ⟨old, _⟩ | ⟨_, _, _, rfl⟩
  · exact keeps.commands command old
  · exact ⟨known, knows, same⟩

theorem Writes.idle : Writes w e w.db :=
  .kept (.refl w) rfl

theorem Writes.moved {status : QuestionStatus} :
    Writes w e (w.db.setQuestionStatus questionId status) :=
  .kept ((Keeps.refl w).congr rfl (fun _ => Database.placeOf?_setQuestionStatus) rfl) rfl

theorem openQuestion_writes :
    Writes w e (ReplyDraftRepository.openQuestion questionId w.db).2 := by
  unfold ReplyDraftRepository.openQuestion
  split
  · exact .idle
  · split
    · exact .moved
    · exact .idle

theorem createVersion_writes {text : String} :
    Writes w (.createVersion questionId text)
      ((ReplyDraftRepository.createVersion questionId text w.db).committed w.db) := by
  unfold ReplyDraftRepository.createVersion
  split
  · exact .idle
  · rename_i question found
    split
    · exact .idle
    · dsimp only
      split
      · exact .idle
      · rename_i inserted insert
        split
        · exact .idle
        · obtain ⟨questions, commands, -, versions⟩ := Database.insertReplyVersion_spec insert
          have jobs := insertReplyVersion_jobs insert
          have places : ∀ id, (inserted.setQuestionStatus questionId .waitingConfirmation).placeOf? id =
              w.db.placeOf? id := by
            intro id
            rw [Database.placeOf?_setQuestionStatus]
            unfold Database.placeOf?
            rw [questions]
          refine .typed _ ⟨rfl, rfl⟩ ?_ ((Keeps.refl w).congr jobs places commands)
            fun v held => (versions v).1 held
          rw [Database.placeOf?_of_found found]
          rfl

theorem reopenForEdit_writes :
    Writes w e ((ReplyDraftRepository.reopenForEdit questionId w.db).committed w.db) := by
  unfold ReplyDraftRepository.reopenForEdit
  split
  · exact .idle
  · split
    · exact .idle
    · exact .moved

theorem cancel_writes :
    Writes w e ((ReplyDraftRepository.cancel questionId w.db).committed w.db) := by
  unfold ReplyDraftRepository.cancel
  split
  · exact .idle
  · split
    · exact .idle
    · split
      · exact .moved
      · exact .idle

theorem move_writes {source target : QuestionStatus} :
    Writes w e ((QuestionFeedbackRepository.move source target questionId w.db).committed w.db) := by
  unfold QuestionFeedbackRepository.move
  split
  · exact .idle
  · split
    · exact .idle
    · split
      · exact .idle
      · exact .moved

theorem confirmSend_writes {newId : UUID} :
    Writes w (.confirmSend questionId newId now)
      ((confirmSend questionId newId now w.db).committed w.db) := by
  unfold confirmSend
  split
  · exact .idle
  · rename_i question found
    cases Table.key_of_get? found
    split
    · split <;> exact .idle
    · split
      · exact .idle
      · split
        · exact .idle
        · rename_i shown top
          have owner := (Database.latestVersion?_spec top).2.1
          split
          · exact .idle
          · rename_i isDraft
            dsimp only
            split
            · exact .idle
            · rename_i versioned version
              split
              · exact .idle
              · rename_i inserted insert
                obtain ⟨asked, same, -, versions⟩ := Database.insertReplyVersion_spec version
                obtain ⟨asked', same', -, commands⟩ := Database.insertOutboundCommand_spec insert
                have confirms : (Event.confirmSend question.id newId now).Confirms shown.questionId :=
                  owner.symm
                apply Writes.confirmed shown confirms (owner.symm ▸ top) (not_not.1 isDraft)
                · exact (insertOutboundCommand_jobs insert).trans (insertReplyVersion_jobs version)
                · intro id
                  refine Database.placeOf?_setQuestionStatus.trans ?_
                  unfold Database.placeOf?
                  rw [asked', asked]
                · intro v held
                  change v ∈ inserted.replyVersions at held
                  rw [same'] at held
                  rcases (versions v).1 held with old | rfl
                  · exact Or.inl old
                  · exact Or.inr ⟨owner.symm, rfl⟩
                · intro command held
                  rcases (commands command).1 held with old | rfl
                  · exact Or.inl (same ▸ old)
                  · exact Or.inr ⟨owner.symm, rfl⟩

theorem prepareEdit_writes {text : String} :
    Writes w (.prepareEdit questionId text)
      ((prepareEdit questionId text w.db).committed w.db) := by
  unfold prepareEdit
  split
  · exact .idle
  · rename_i question found
    split
    · exact .idle
    · split
      · dsimp only
        split
        · exact .idle
        · rename_i inserted insert
          obtain ⟨questions, commands, -, versions⟩ := Database.insertReplyVersion_spec insert
          have jobs := insertReplyVersion_jobs insert
          have places : ∀ id, inserted.placeOf? id = w.db.placeOf? id := by
            intro id
            unfold Database.placeOf?
            rw [questions]
          refine .typed _ ⟨rfl, rfl⟩ ?_ ((Keeps.refl w).congr jobs places commands)
            fun v held => (versions v).1 held
          rw [Database.placeOf?_of_found found]
          rfl
      · exact .idle

theorem confirmEdit_writes {newId : UUID} :
    Writes w (.confirmEdit questionId newId now)
      ((confirmEdit questionId newId now w.db).committed w.db) := by
  unfold confirmEdit
  split
  · exact .idle
  · rename_i question found
    cases Table.key_of_get? found
    split
    · exact .idle
    · split
      · exact .idle
      · rename_i shown top
        have owner := (Database.latestVersion?_spec top).2.1
        split
        · exact .idle
        · rename_i isDraft
          split
          · exact .idle
          · split
            · exact .idle
            · dsimp only
              split
              · exact .idle
              · rename_i inserted insert
                obtain ⟨asked, same, -, commands⟩ := Database.insertOutboundCommand_spec insert
                have confirms : (Event.confirmEdit question.id newId now).Confirms shown.questionId :=
                  owner.symm
                apply Writes.confirmed shown confirms (owner.symm ▸ top) (not_not.1 isDraft)
                · exact insertOutboundCommand_jobs insert
                · intro id
                  change inserted.placeOf? id = _
                  unfold Database.placeOf?
                  rw [asked]
                · intro v held
                  change v ∈ inserted.replyVersions at held
                  exact Or.inl (same ▸ held)
                · intro command held
                  rcases (commands command).1 held with old | rfl
                  · exact Or.inl old
                  · exact Or.inr ⟨owner.symm, rfl⟩

theorem retryFailed_writes {commandId : UUID} :
    Writes w e ((retryFailed commandId now w.db).committed w.db) := by
  unfold retryFailed
  split
  · exact .idle
  · rename_i command found
    split
    · refine .kept ((Keeps.refl w).put (Or.inl (Table.mem_of_get? found)) ?_) rfl
      exact ⟨rfl, rfl, rfl, rfl, rfl, rfl, rfl, rfl, rfl⟩
    · exact .idle

theorem recoverStale_writes {staleBefore : Time} :
    Writes w e (recoverStale staleBefore w.db) := by
  refine .kept ⟨rfl, fun _ => Database.placeOf?_recoverStale, fun command held => ?_⟩ rfl
  rcases mem_recoverStale.1 held with ⟨old, -⟩ | ⟨row, old, -, rfl⟩
  · exact ⟨command, Or.inl old, .refl command⟩
  · exact ⟨row, Or.inl old, rfl, rfl, rfl, rfl, rfl, rfl, rfl, rfl, rfl⟩

theorem recordError_writes {iteration : SendIteration} {error : TelegramOutboundError}
    (held : iteration ∈ w.sending)
    (recorded : SendReplyWorker.recordError iteration.command error now w.db = some db) :
    Writes w e db := by
  have knows : w.Knows iteration.command := Or.inr (Or.inl ⟨iteration, held, rfl⟩)
  have verifying (chats) : Keeps w (w.db.setMonitoredChats chats) :=
    (Keeps.refl w).congr rfl (fun _ => rfl) rfl
  rcases SendReplyWorker.recordError_cases recorded with
    ⟨chats, ⟨_, delay, _, _, rfl⟩ | ⟨needsReview, rfl⟩⟩
  · refine .kept ((verifying chats).put knows ?_) rfl
    exact ⟨rfl, rfl, rfl, rfl, rfl, rfl, rfl, rfl, rfl⟩
  · refine .kept (((verifying chats).put knows ?_).congr rfl
      (fun _ => Database.placeOf?_setQuestionStatus) rfl) rfl
    exact ⟨rfl, rfl, rfl, rfl, rfl, rfl, rfl, rfl, rfl⟩

theorem failEdit_writes {iteration : EditIteration} {errorCode : String}
    (held : iteration ∈ w.editing) :
    Writes w e (failEdit iteration.command errorCode w.db) := by
  refine .kept ((Keeps.refl w).put (Or.inr (Or.inr ⟨iteration, held, rfl⟩)) ?_) rfl
  exact ⟨rfl, rfl, rfl, rfl, rfl, rfl, rfl, rfl, rfl⟩

theorem sendSettle_writes {iteration : SendIteration} {answer : SendAnswer}
    (held : iteration ∈ w.sending)
    (settled : SendReplyWorker.settle iteration.command iteration.question answer now w.db =
      some db) : Writes w e db := by
  cases answer with
  | refused code temporary retryAfterSeconds => exact recordError_writes held settled
  | ambiguous code acceptedId =>
      have recorded : SendReplyWorker.recordError iteration.command ⟨code, .ambiguous, none⟩ now
        w.db = some db := settled
      exact recordError_writes held recorded
  | returned messageId =>
      unfold SendReplyWorker.settle completeSend at settled
      dsimp only at settled
      split at settled
      · rename_i completed
        cases settled
        split at completed
        · cases completed
        · cases completed
          have knows : w.Knows iteration.command := Or.inr (Or.inl ⟨iteration, held, rfl⟩)
          refine .kept (((Keeps.refl w).put knows ?_).congr rfl
            (fun _ => Database.placeOf?_setQuestionStatus) rfl) rfl
          exact ⟨rfl, rfl, rfl, rfl, rfl, rfl, rfl, rfl, rfl⟩
      · cases settled

theorem editSettle_writes {iteration : EditIteration} {answer : EditAnswer}
    (held : iteration ∈ w.editing)
    (settled : EditReplyWorker.settle iteration.command iteration.question answer now w.db =
      some db) : Writes w e db := by
  cases answer with
  | refused code temporary retryAfterSeconds => exact Option.some.inj settled ▸ failEdit_writes held
  | ambiguous code applied => exact Option.some.inj settled ▸ failEdit_writes held
  | returned =>
      unfold EditReplyWorker.settle completeEdit at settled
      dsimp only at settled
      split at settled
      · rename_i completed
        cases settled
        split at completed
        · cases completed
        · split at completed
          · cases completed
          · rename_i inserted insert
            cases completed
            obtain ⟨questions, commands, -, versions⟩ := Database.insertReplyVersion_spec insert
            have jobs := insertReplyVersion_jobs insert
            have places : ∀ id, inserted.placeOf? id = w.db.placeOf? id := by
              intro id
              unfold Database.placeOf?
              rw [questions]
            have knows : w.Knows iteration.command := Or.inr (Or.inr ⟨iteration, held, rfl⟩)
            apply Writes.published iteration held
            · apply ((Keeps.refl w).congr jobs places commands).put knows
              exact ⟨rfl, rfl, rfl, rfl, rfl, rfl, rfl, rfl, rfl⟩
            · intro v there
              rcases (versions v).1 there with old | rfl
              · exact Or.inl old
              · exact Or.inr ⟨rfl, rfl⟩
      · cases settled

/-- How a worker leaves the database: as it was, or with the command of an iteration that it had open
settled. -/
inductive Settles (w : World) : Event → Database → Prop where
  | idle (e : Event) : Settles w e w.db
  | recovered (staleBefore : Time) :
      Settles w (.recoverStale staleBefore) (recoverStale staleBefore w.db)
  -- The target of a send is refused, or it cannot be checked.
  | unvalidated (iteration : SendIteration) (access : VerifyAnswer) (target : Option ReplyMessage)
      (now : Time) (error : TelegramOutboundError) (db : Database) (held : iteration ∈ w.sending)
      (recorded : SendReplyWorker.recordError iteration.command error now w.db = some db) :
      Settles w (.validateSend iteration.commandId access target now) db
  | sent (iteration : SendIteration) (answer : SendAnswer) (now : Time) (db : Database)
      (held : iteration ∈ w.sending)
      (settled : SendReplyWorker.settle iteration.command iteration.question answer now w.db =
        some db) : Settles w (.finishSend iteration.commandId now) db
  -- The target of an edit is not the one of its question.
  | uncalled (iteration : EditIteration) (answer : EditAnswer) (held : iteration ∈ w.editing) :
      Settles w (.callEdit iteration.commandId answer)
        (failEdit iteration.command "INVALID_EDIT_TARGET" w.db)
  | edited (iteration : EditIteration) (answer : EditAnswer) (now : Time) (db : Database)
      (held : iteration ∈ w.editing)
      (settled : EditReplyWorker.settle iteration.command iteration.question answer now w.db =
        some db) : Settles w (.finishEdit iteration.commandId now) db

theorem claimSend_settles {workerId : String} (next : w.claimSend workerId now = some w') :
    Settles w (.claimSend workerId now) w'.db := by
  unfold World.claimSend at next
  split at next
  · cases next
    exact .idle _
  · cases next
    exact .idle _
  · split at next
    · cases next
    · obtain ⟨sending, insert, rfl⟩ := Option.map_eq_some_iff.1 next
      exact .idle _

theorem claimEdit_settles {workerId : String} (next : w.claimEdit workerId now = some w') :
    Settles w (.claimEdit workerId now) w'.db := by
  unfold World.claimEdit at next
  split at next
  · cases next
    exact .idle _
  · cases next
    exact .idle _
  · split at next
    · cases next
    · obtain ⟨editing, insert, rfl⟩ := Option.map_eq_some_iff.1 next
      exact .idle _

/-- A recorded error, or the claim rolled back by an exception. -/
theorem recordError_settles {iteration : SendIteration} {access : VerifyAnswer}
    {target : Option ReplyMessage} {error : TelegramOutboundError} (held : iteration ∈ w.sending) :
    Settles w (.validateSend iteration.commandId access target now)
      ((SendReplyWorker.recordError iteration.command error now w.db).getD w.db) := by
  cases recorded : SendReplyWorker.recordError iteration.command error now w.db with
  | some db => exact .unvalidated _ access target now error db held recorded
  | none => exact .idle _

theorem validateSend_settles {iteration : SendIteration} {access : VerifyAnswer}
    {target : Option ReplyMessage} (held : iteration ∈ w.sending) :
    Settles w (.validateSend iteration.commandId access target now)
      (w.validateSend iteration access target now).db := by
  unfold World.validateSend
  dsimp only
  split
  · exact .idle _
  · exact .idle _
  · exact recordError_settles held
  · exact recordError_settles held

theorem callSend_settles {iteration : SendIteration} {answer : SendAnswer}
    (next : w.callSend iteration answer = some w') :
    Settles w (.callSend iteration.commandId answer) w'.db := by
  unfold World.callSend at next
  dsimp only at next
  split at next
  · cases next
    exact .idle _
  · obtain ⟨telegram, insert, rfl⟩ := Option.map_eq_some_iff.1 next
    exact .idle _

theorem finishSend_settles {iteration : SendIteration} {answer : SendAnswer}
    (held : iteration ∈ w.sending) :
    Settles w (.finishSend iteration.commandId now) (w.finishSend iteration answer now).db := by
  unfold World.finishSend
  split
  · rename_i db settled
    exact .sent _ answer now db held settled
  · exact .idle _

theorem callEdit_settles {iteration : EditIteration} {answer : EditAnswer}
    (held : iteration ∈ w.editing) :
    Settles w (.callEdit iteration.commandId answer) (w.callEdit iteration answer).db := by
  unfold World.callEdit
  split
  · dsimp only
    split <;> exact .idle _
  · exact .uncalled _ answer held

theorem finishEdit_settles {iteration : EditIteration} {answer : EditAnswer}
    (held : iteration ∈ w.editing) :
    Settles w (.finishEdit iteration.commandId now) (w.finishEdit iteration answer now).db := by
  unfold World.finishEdit
  split
  · rename_i db settled
    exact .edited _ answer now db held settled
  · exact .idle _

theorem step_settles (outbound : e.isOutbound = true) (next : step w e = some w') :
    Settles w e w'.db := by
  cases e with
  | recoverStale staleBefore =>
      cases next
      exact .recovered staleBefore
  | claimSend workerId now => exact claimSend_settles next
  | claimEdit workerId now => exact claimEdit_settles next
  | validateSend commandId access target now =>
      simp only [step] at next
      split at next
      · rename_i found
        cases Table.key_of_get? found
        cases next
        exact validateSend_settles (Table.mem_of_get? found)
      · cases next
  | callSend commandId answer =>
      simp only [step] at next
      split at next
      · rename_i found
        cases Table.key_of_get? found
        exact callSend_settles next
      · cases next
  | finishSend commandId now =>
      simp only [step] at next
      split at next
      · rename_i found
        cases Table.key_of_get? found
        cases next
        exact finishSend_settles (Table.mem_of_get? found)
      · cases next
  | callEdit commandId answer =>
      simp only [step] at next
      split at next
      · rename_i found
        cases Table.key_of_get? found
        cases next
        exact callEdit_settles (Table.mem_of_get? found)
      · cases next
  | finishEdit commandId now =>
      simp only [step] at next
      split at next
      · rename_i found
        cases Table.key_of_get? found
        cases next
        exact finishEdit_settles (Table.mem_of_get? found)
      · cases next
  | crashSend commandId | crashEdit commandId =>
      simp only [step] at next
      split at next
      · cases next
        exact .idle _
      · cases next
  | _ => cases outbound

theorem Settles.writes (settles : Settles w e db) : Writes w e db := by
  cases settles with
  | idle => exact .idle
  | recovered staleBefore => exact recoverStale_writes
  | unvalidated iteration access target now error db held recorded =>
      exact recordError_writes held recorded
  | sent iteration answer now db held settled => exact sendSettle_writes held settled
  | uncalled iteration answer held => exact failEdit_writes held
  | edited iteration answer now db held settled => exact editSettle_writes held settled

/-- What every event of the operator and of the workers writes. -/
theorem step_writes (own : e.isCall = true ∨ e.isOutbound = true) (next : step w e = some w') :
    Writes w e w'.db := by
  rcases own with isCall | outbound
  · cases e with
    | openQuestion questionId => exact Option.some.inj next ▸ openQuestion_writes
    | createVersion questionId text => exact Option.some.inj next ▸ createVersion_writes
    | reopenForEdit questionId => exact Option.some.inj next ▸ reopenForEdit_writes
    | cancel questionId => exact Option.some.inj next ▸ cancel_writes
    | dismiss questionId => exact Option.some.inj next ▸ move_writes
    | reopen questionId => exact Option.some.inj next ▸ move_writes
    | removeChat chatId =>
        cases next
        exact .removed chatId rfl rfl
    | confirmSend questionId newId now => exact Option.some.inj next ▸ confirmSend_writes
    | prepareEdit questionId text => exact Option.some.inj next ▸ prepareEdit_writes
    | confirmEdit questionId newId now => exact Option.some.inj next ▸ confirmEdit_writes
    | retryFailed commandId now =>
        simp only [step] at next
        split at next
        · simp at next
        · exact Option.some.inj next ▸ retryFailed_writes
    | _ => cases isCall
  · exact (step_settles outbound next).writes

/-- Only the removal of a chat touches the jobs. -/
theorem Writes.jobs (writes : Writes w e db) : db.processingJobs = w.db.processingJobs ∨
    ∃ chatId, e = .removeChat chatId ∧ db = MonitoredChatRepository.remove chatId w.db := by
  cases writes with
  | kept keeps => exact Or.inl keeps.jobs
  | removed chatId event result => exact Or.inr ⟨chatId, event, result⟩
  | typed version types asked keeps => exact Or.inl keeps.jobs
  | confirmed shown confirms top isDraft jobs => exact Or.inl jobs
  | published iteration held keeps => exact Or.inl keeps.jobs

/-- Questions stay in their places. -/
theorem Writes.places (writes : Writes w e db) (id : UUID) : db.placeOf? id = w.db.placeOf? id := by
  cases writes with
  | kept keeps => exact keeps.places id
  | removed chatId event result =>
      rw [result]
      exact Database.placeOf?_remove
  | typed version types asked keeps => exact keeps.places id
  | confirmed shown confirms top isDraft jobs places => exact places id
  | published iteration held keeps => exact keeps.places id

end Writing

end LeadAssistant.ReplyWorkflow
