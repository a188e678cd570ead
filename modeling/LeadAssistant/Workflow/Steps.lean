/-
Module: LeadAssistant.Workflow.Steps
Layer: Workflow
Purpose: One step of the reply workflow. `Consistent` is the invariant of the whole system: the
  coupled database together with what the open iterations hold. `Moves` lists what an event can do
  in a consistent world, with everything that the later results about runs need, so none of them
  unfolds `step`.
Trusted boundary: none
Main exports: Claims, Consistent, Moves, step_moves, consistent_of_run, questions_coupled
-/
import LeadAssistant.Workflow.Coupling

namespace LeadAssistant.ReplyWorkflow

open Relational OutboundCommandRepository Transition

/-- The session of an open iteration has claimed a committed pending row of this kind. -/
def Claims (db : Database) (kind : CommandType) (command : OutboundCommand) : Prop :=
  ∃ row, db.outboundCommands.get? row.id = some row ∧ row.status = .pending ∧
    row.commandType = kind ∧ ClaimedFrom row command

namespace Claims

variable {db db' : Database} {kind : CommandType} {command : OutboundCommand}

/-- A claimed row stays as it is until its own transaction settles it. -/
theorem kept {lock : Option UUID} (claims : Claims db kind command) (change : Change db lock db')
    (other : lock ≠ some command.id) : Claims db' kind command := by
  obtain ⟨row, found, pending, isKind, taken⟩ := claims
  rw [taken.same.id] at other
  exact ⟨row, change.keeps_pending found pending other, pending, isKind, taken⟩

/-- A send and an edit never hold one row. -/
theorem kind_unique {kind' : CommandType} {command' : OutboundCommand}
    (claims : Claims db kind command) (claims' : Claims db kind' command')
    (shared : command.id = command'.id) : kind = kind' := by
  obtain ⟨row, found, _, isKind, taken⟩ := claims
  obtain ⟨row', found', _, isKind', taken'⟩ := claims'
  rw [taken.same.id, taken'.same.id] at shared
  rw [shared, found'] at found
  simp only [Option.some.injEq] at found
  rw [← isKind, ← isKind', found]

/-- The claimed command belongs to a stored question. -/
theorem owned (claims : Claims db kind command) (coupled : Coupled db) :
    (db.detectedQuestions.get? command.questionId).isSome = true := by
  obtain ⟨row, found, _, _, taken⟩ := claims
  have place := coupled.owner row (Table.mem_of_get? found)
  rw [taken.same.questionId]
  unfold Database.placeOf? at place
  cases stored : db.detectedQuestions.get? row.questionId with
  | none => simp [stored] at place
  | some _ => rfl

/-- The row of a claimed command is there to be written back. -/
theorem stored (claims : Claims db kind command) :
    (db.outboundCommands.get? command.id).isSome = true := by
  obtain ⟨row, found, _, _, taken⟩ := claims
  rw [taken.same.id, found]
  rfl

end Claims

/-- What is written back under a claim is found again. -/
theorem get?_putOutboundCommand {db : Database} {command : OutboundCommand}
    (stored : (db.outboundCommands.get? command.id).isSome = true) :
    (db.putOutboundCommand command).outboundCommands.get? command.id = some command :=
  Table.get?_put_self stored

/-- `_record_error` leaves the command unsent, and sends it again only after a temporary error. -/
theorem recordError_stored {db after : Database} {command : OutboundCommand} {now : Time}
    {error : TelegramOutboundError}
    (stored : (db.outboundCommands.get? command.id).isSome = true)
    (recorded : SendReplyWorker.recordError command error now db = some after) :
    ∃ row, after.outboundCommands.get? command.id = some row ∧ SameCommand command row ∧
      row.status ≠ .succeeded ∧
      (error.kind ≠ .temporary → questionStatusOf row.status ≠ .sendRequested) := by
  rcases SendReplyWorker.recordError_cases recorded with
    ⟨chats, ⟨temporary, delay, _, _, rfl⟩ | ⟨needsReview, rfl⟩⟩
  · refine ⟨_, get?_putOutboundCommand stored, ⟨rfl, rfl, rfl, rfl, rfl, rfl, rfl, rfl, rfl⟩, ?_,
      fun final => absurd temporary final⟩
    simp [rescheduled]
  · refine ⟨_, get?_putOutboundCommand stored, ⟨rfl, rfl, rfl, rfl, rfl, rfl, rfl, rfl, rfl⟩, ?_, ?_⟩
    · cases needsReview <;> simp
    · intro _
      cases needsReview <;> simp [questionStatusOf]

/-- The invariant of the reply workflow. -/
structure Consistent (w : World) : Prop where
  coupled : Coupled w.db
  sends : ∀ iteration ∈ w.sending, Claims w.db .sendReply iteration.command
  edits : ∀ iteration ∈ w.editing, Claims w.db .editReply iteration.command
  /-- Past validation, the session's question is one that waits for its send. -/
  validated : ∀ iteration ∈ w.sending, iteration.phase ≠ .claimed →
    iteration.question.status = .sendRequested
  /-- Past the target check, the session's edit has a sent message to change. -/
  targeted : ∀ iteration ∈ w.editing, iteration.phase ≠ .claimed →
    EditReplyWorker.validTarget iteration.command iteration.question = true

/-- What one event does in a consistent world. -/
inductive Moves (w : World) : Event → World → Prop where
  | committed {e : Event} {db' : Database} (change : Change w.db none db') :
      Moves w e { w with db := db' }
  | claimedSend {workerId : String} {now : Time} {iteration : SendIteration}
      {sending : Table SendIteration.commandId}
      (claims : Claims w.db .sendReply iteration.command)
      (free : w.locked iteration.command.id = false) (phase : iteration.phase = .claimed)
      (insert : w.sending.insert? iteration = some sending) :
      Moves w (.claimSend workerId now) { w with sending := sending }
  | validatedSend {access : VerifyAnswer} {target : Option ReplyMessage} {now : Time}
      {iteration : SendIteration} (held : iteration ∈ w.sending)
      (phase : iteration.phase = .claimed)
      (requested : iteration.question.status = .sendRequested) :
      Moves w (.validateSend iteration.command.id access target now)
        (w.setSendPhase iteration.command.id .validated)
  | refusedSend {answer : SendAnswer} {iteration : SendIteration} (held : iteration ∈ w.sending)
      (phase : iteration.phase = .validated) (refused : answer.acceptedId? = none) :
      Moves w (.callSend iteration.command.id answer)
        { w.setSendPhase iteration.command.id (.answered answer) with
          sendCalls := w.sendCalls ++ [SendCall.mk iteration.command.questionId false] }
  | acceptedSend {answer : SendAnswer} {messageId : Int} {iteration : SendIteration}
      {telegram : Table TelegramMessage.key} (held : iteration ∈ w.sending)
      (phase : iteration.phase = .validated) (accepted : answer.acceptedId? = some messageId)
      (insert : w.telegram.insert? (TelegramMessage.mk iteration.command.telegramChatId messageId
        iteration.command.questionId iteration.command.text) = some telegram) :
      Moves w (.callSend iteration.command.id answer)
        { w.setSendPhase iteration.command.id (.answered answer) with
          sendCalls := w.sendCalls ++ [SendCall.mk iteration.command.questionId true]
          telegram := telegram }
  | closedSend {e : Event} {db' : Database} {iteration : SendIteration} {after : OutboundCommand}
      (held : iteration ∈ w.sending) (change : Change w.db (some iteration.command.id) db')
      (stored : db'.outboundCommands.get? iteration.command.id = some after)
      (same : SameCommand iteration.command after)
      (succeeded : after.status = .succeeded →
        after.sentMessageId.isSome = true ∧ after.sentMessageId = iteration.acceptedId?)
      (final : iteration.acceptedId?.isSome = true →
        questionStatusOf after.status ≠ .sendRequested) :
      Moves w e (w.closeSend iteration.command.id db')
  | abandonedSend {e : Event} {iteration : SendIteration} (held : iteration ∈ w.sending)
      (reason : e = .crashSend iteration.command.id ∨ iteration.acceptedId? = none) :
      Moves w e (w.closeSend iteration.command.id w.db)
  | claimedEdit {workerId : String} {now : Time} {iteration : EditIteration}
      {editing : Table EditIteration.commandId}
      (claims : Claims w.db .editReply iteration.command)
      (free : w.locked iteration.command.id = false) (phase : iteration.phase = .claimed)
      (insert : w.editing.insert? iteration = some editing) :
      Moves w (.claimEdit workerId now) { w with editing := editing }
  | refusedEdit {answer : EditAnswer} {iteration : EditIteration} (held : iteration ∈ w.editing)
      (phase : iteration.phase = .claimed)
      (valid : EditReplyWorker.validTarget iteration.command iteration.question = true)
      (refused : answer.applied = false) :
      Moves w (.callEdit iteration.command.id answer)
        (w.setEditPhase iteration.command.id (.answered answer))
  | appliedEdit {answer : EditAnswer} {messageId : Int} {iteration : EditIteration}
      (held : iteration ∈ w.editing) (phase : iteration.phase = .claimed)
      (valid : EditReplyWorker.validTarget iteration.command iteration.question = true)
      (applied : answer.applied = true) (target : iteration.command.sentMessageId = some messageId) :
      Moves w (.callEdit iteration.command.id answer)
        { w.setEditPhase iteration.command.id (.answered answer) with
          telegram := w.telegram.update (iteration.command.telegramChatId, messageId)
            (fun message => { message with text := iteration.command.text }) }
  | completedEdit {now : Time} {iteration : EditIteration} {inserted : Database}
      {after : OutboundCommand} (held : iteration ∈ w.editing)
      (answer : iteration.phase = .answered .returned)
      (insert : w.db.insertReplyVersion ⟨iteration.command.questionId,
        iteration.command.replyVersion, iteration.command.text, .edited⟩ = some inserted)
      (same : SameCommand iteration.command after) (succeeded : after.status = .succeeded)
      (change : Change w.db (some iteration.command.id) (inserted.putOutboundCommand after)) :
      Moves w (.finishEdit iteration.command.id now)
        (w.closeEdit iteration.command.id (inserted.putOutboundCommand after))
  | failedEdit {e : Event} {iteration : EditIteration} {after : OutboundCommand}
      (held : iteration ∈ w.editing) (answer : iteration.phase ≠ .answered .returned)
      (same : SameCommand iteration.command after) (failed : after.status = .failed)
      (change : Change w.db (some iteration.command.id) (w.db.putOutboundCommand after)) :
      Moves w e (w.closeEdit iteration.command.id (w.db.putOutboundCommand after))
  | abortedEdit {now : Time} {iteration : EditIteration} (held : iteration ∈ w.editing)
      (answer : iteration.phase = .answered .returned)
      (taken : w.db.insertReplyVersion ⟨iteration.command.questionId,
        iteration.command.replyVersion, iteration.command.text, .edited⟩ = none) :
      Moves w (.finishEdit iteration.command.id now) (w.closeEdit iteration.command.id w.db)
  | crashedEdit {iteration : EditIteration} (held : iteration ∈ w.editing) :
      Moves w (.crashEdit iteration.command.id) (w.closeEdit iteration.command.id w.db)

/-! ### Every step is a move -/

section Step

variable {w w' : World}

private theorem sending_of_get? {commandId : UUID} {iteration : SendIteration}
    (found : w.sending.get? commandId = some iteration) :
    iteration ∈ w.sending ∧ commandId = iteration.command.id :=
  ⟨Table.mem_of_get? found, (Table.key_of_get? found).symm⟩

private theorem editing_of_get? {commandId : UUID} {iteration : EditIteration}
    (found : w.editing.get? commandId = some iteration) :
    iteration ∈ w.editing ∧ commandId = iteration.command.id :=
  ⟨Table.mem_of_get? found, (Table.key_of_get? found).symm⟩

/-- A claim of either kind, as the two workers share it. -/
theorem claims_of_claim {kind : CommandType} {workerId : String} {now : Time}
    {command : OutboundCommand}
    (taken : claim kind workerId w.locked now w.db = .ok (some command)) :
    Claims w.db kind command ∧ w.locked command.id = false := by
  obtain ⟨row, found, pending, isKind, free, claimedRow⟩ := claim_spec taken
  refine ⟨⟨row, found, pending, isKind, claimedRow⟩, ?_⟩
  rw [claimedRow.same.id]
  exact free

theorem claimSend_moves {workerId : String} {now : Time}
    (next : w.claimSend workerId now = some w') : Moves w (.claimSend workerId now) w' := by
  unfold World.claimSend at next
  split at next
  · cases next
    exact .committed .idle
  · cases next
    exact .committed .idle
  · rename_i command taken
    obtain ⟨claims, free⟩ := claims_of_claim taken
    split at next
    · simp at next
    · obtain ⟨sending, insert, rfl⟩ := Option.map_eq_some_iff.1 next
      exact .claimedSend claims free rfl insert

theorem claimEdit_moves {workerId : String} {now : Time}
    (next : w.claimEdit workerId now = some w') : Moves w (.claimEdit workerId now) w' := by
  unfold World.claimEdit at next
  split at next
  · cases next
    exact .committed .idle
  · cases next
    exact .committed .idle
  · rename_i command taken
    obtain ⟨claims, free⟩ := claims_of_claim taken
    split at next
    · simp at next
    · obtain ⟨editing, insert, rfl⟩ := Option.map_eq_some_iff.1 next
      exact .claimedEdit claims free rfl insert

/-- An iteration that records an error without an accepted message, or is rolled back by it. -/
theorem recordError_moves {e : Event} {iteration : SendIteration} {error : TelegramOutboundError}
    {now : Time} (ok : Consistent w) (held : iteration ∈ w.sending)
    (final : iteration.acceptedId?.isSome = true → error.kind ≠ .temporary) :
    Moves w e (w.closeSend iteration.command.id
      ((SendReplyWorker.recordError iteration.command error now w.db).getD w.db)) := by
  have claims := ok.sends iteration held
  have stored := claims.stored
  obtain ⟨row, found, pending, send, taken⟩ := claims
  cases recorded : SendReplyWorker.recordError iteration.command error now w.db with
  | some after =>
      have change : Change w.db (some row.id) after :=
        recordError_change found pending send taken recorded
      rw [← taken.same.id] at change
      obtain ⟨left, there, same, unsent, settled⟩ := recordError_stored stored recorded
      exact .closedSend held change there same (fun succeeded => absurd succeeded unsent)
        (fun accepted => settled (final accepted))
  | none =>
      refine .abandonedSend held (Or.inr ?_)
      by_contra accepted
      have final := final (Option.isSome_iff_ne_none.2 accepted)
      have dated := (@SendReplyWorker.recordError_isSome_iff iteration.command error now w.db).2
        (fun temporary => absurd temporary final)
      rw [recorded] at dated
      cases dated

theorem validateSend_moves {command : OutboundCommand} {question : DetectedQuestion}
    {access : VerifyAnswer} {target : Option ReplyMessage} {now : Time} (ok : Consistent w)
    (held : SendIteration.mk command question .claimed ∈ w.sending) :
    Moves w (.validateSend command.id access target now)
      (w.validateSend ⟨command, question, .claimed⟩ access target now) := by
  unfold World.validateSend
  dsimp only
  split
  · rename_i valid
    refine .validatedSend held rfl ?_
    unfold SendReplyWorker.validate at valid
    split at valid
    · simp at valid
    · rename_i stored
      simp only [not_or, not_not] at stored
      exact stored.1
  · exact .abandonedSend held (Or.inr rfl)
  · exact recordError_moves ok held (by simp [SendIteration.acceptedId?])
  · exact recordError_moves ok held (by simp [SendIteration.acceptedId?])

theorem callSend_moves {command : OutboundCommand} {question : DetectedQuestion}
    {answer : SendAnswer} (held : SendIteration.mk command question .validated ∈ w.sending)
    (next : w.callSend ⟨command, question, .validated⟩ answer = some w') :
    Moves w (.callSend command.id answer) w' := by
  unfold World.callSend at next
  dsimp only at next
  split at next
  · rename_i refused
    simp only [Option.some.injEq, refused, Option.isSome_none] at next
    subst next
    exact .refusedSend held rfl refused
  · rename_i messageId accepted
    obtain ⟨telegram, insert, rfl⟩ := Option.map_eq_some_iff.1 next
    simp only [accepted, Option.isSome_some]
    exact .acceptedSend held rfl accepted insert

theorem finishSend_eq {iteration : SendIteration} {answer : SendAnswer} {now : Time} :
    w.finishSend iteration answer now = w.closeSend iteration.command.id
      ((SendReplyWorker.settle iteration.command iteration.question answer now w.db).getD w.db) := by
  unfold World.finishSend
  cases SendReplyWorker.settle iteration.command iteration.question answer now w.db with
  | some db => rfl
  | none => rfl

theorem finishSend_moves {command : OutboundCommand} {question : DetectedQuestion}
    {answer : SendAnswer} {now : Time} (ok : Consistent w)
    (held : SendIteration.mk command question (.answered answer) ∈ w.sending) :
    Moves w (.finishSend command.id now)
      (w.finishSend ⟨command, question, .answered answer⟩ answer now) := by
  have claims := ok.sends _ held
  have requested : question.status = .sendRequested := ok.validated _ held (by simp)
  cases answer with
  | refused code temporary retryAfterSeconds =>
      rw [finishSend_eq]
      exact recordError_moves ok held (by simp [SendIteration.acceptedId?, SendAnswer.acceptedId?])
  | ambiguous code acceptedId =>
      rw [finishSend_eq]
      have final : TelegramFailureKind.ambiguous ≠ .temporary := by decide
      exact @recordError_moves w _ _ ⟨code, .ambiguous, none⟩ now ok held (fun _ => final)
  | returned messageId =>
      have owned := claims.owned ok.coupled
      have stored := claims.stored
      obtain ⟨row, found, pending, send, taken⟩ := claims
      have change : ∀ {completed}, completeSend command question messageId now w.db =
          (.ok (), completed) → Change w.db (some command.id) completed := by
        intro completed done
        rw [taken.same.id]
        exact completeSend_change found pending send taken done
      unfold World.finishSend SendReplyWorker.settle
      unfold completeSend at change ⊢
      have completes : ¬ ((w.db.detectedQuestions.get? command.questionId).isNone ∨
          question.status ≠ .sendRequested) := by
        simp only [Option.isNone_iff_eq_none, not_or, not_not]
        refine ⟨?_, requested⟩
        intro absent
        rw [absent] at owned
        simp at owned
      simp only [if_neg completes, Prod.mk.injEq, true_and, forall_eq'] at change ⊢
      exact .closedSend held change (get?_putOutboundCommand stored)
        ⟨rfl, rfl, rfl, rfl, rfl, rfl, rfl, rfl, rfl⟩ (fun _ => ⟨rfl, rfl⟩)
        (by simp [questionStatusOf])

/-- An edit iteration that gives up. -/
theorem failEdit_moves {e : Event} {iteration : EditIteration} {errorCode : String}
    (ok : Consistent w) (held : iteration ∈ w.editing)
    (answer : iteration.phase ≠ .answered .returned) :
    Moves w e (w.closeEdit iteration.command.id (failEdit iteration.command errorCode w.db)) := by
  obtain ⟨row, found, pending, edit, taken⟩ := ok.edits iteration held
  have change : Change w.db (some row.id) (failEdit iteration.command errorCode w.db) :=
    failEdit_change found pending edit taken
  rw [← taken.same.id] at change
  exact .failedEdit held answer ⟨rfl, rfl, rfl, rfl, rfl, rfl, rfl, rfl, rfl⟩ rfl change

theorem callEdit_moves {command : OutboundCommand} {question : DetectedQuestion}
    {answer : EditAnswer} (ok : Consistent w)
    (held : EditIteration.mk command question .claimed ∈ w.editing) :
    Moves w (.callEdit command.id answer)
      (w.callEdit ⟨command, question, .claimed⟩ answer) := by
  unfold World.callEdit
  split
  · rename_i messageId valid target
    dsimp only
    split
    · rename_i applied
      exact .appliedEdit held rfl valid applied target
    · rename_i refused
      exact .refusedEdit held rfl valid (by simpa using refused)
  · exact failEdit_moves ok held (by simp)

/-- The commit of an edit that Telegram returned from: it depends on the reserved number alone. -/
theorem settle_returned {command : OutboundCommand} {question : DetectedQuestion} {now : Time}
    (ok : Consistent w)
    (held : EditIteration.mk command question (.answered .returned) ∈ w.editing) :
    EditReplyWorker.settle command question .returned now w.db =
      (w.db.insertReplyVersion
        ⟨command.questionId, command.replyVersion, command.text, .edited⟩).map
          (fun inserted => inserted.putOutboundCommand { command with
            status := .succeeded, completedAt := some now, lockedAt := none, lockedBy := none }) := by
  have owned := (ok.edits _ held).owned ok.coupled
  have valid := ok.targeted _ held (by simp)
  simp only [EditReplyWorker.validTarget, Bool.and_eq_true, decide_eq_true_eq] at valid
  have completes : ¬ ((w.db.detectedQuestions.get? command.questionId).isNone ∨
      question.status ≠ .sent) := by
    simp only [Option.isNone_iff_eq_none, not_or, not_not]
    refine ⟨?_, valid.1.1⟩
    intro absent
    rw [absent] at owned
    simp at owned
  unfold EditReplyWorker.settle completeEdit
  simp only [if_neg completes]
  cases w.db.insertReplyVersion ⟨command.questionId, command.replyVersion, command.text, .edited⟩ <;>
    rfl

theorem finishEdit_moves {command : OutboundCommand} {question : DetectedQuestion}
    {answer : EditAnswer} {now : Time} (ok : Consistent w)
    (held : EditIteration.mk command question (.answered answer) ∈ w.editing) :
    Moves w (.finishEdit command.id now)
      (w.finishEdit ⟨command, question, .answered answer⟩ answer now) := by
  cases answer with
  | refused code temporary retryAfterSeconds => exact failEdit_moves ok held (by simp)
  | ambiguous code applied => exact failEdit_moves ok held (by simp)
  | returned =>
      unfold World.finishEdit
      rw [settle_returned ok held]
      cases insert : w.db.insertReplyVersion
          ⟨command.questionId, command.replyVersion, command.text, .edited⟩ with
      | none => exact .abortedEdit held rfl insert
      | some inserted =>
          obtain ⟨row, found, pending, edit, taken⟩ := ok.edits _ held
          have change : Change w.db (some row.id) (inserted.putOutboundCommand { command with
              status := .succeeded, completedAt := some now, lockedAt := none,
              lockedBy := none }) := completeEdit_change found pending edit taken insert
          rw [← taken.same.id] at change
          exact .completedEdit held rfl insert ⟨rfl, rfl, rfl, rfl, rfl, rfl, rfl, rfl, rfl⟩ rfl
            change

/-- Every enabled event of a consistent world is one of the moves. -/
theorem step_moves {e : Event} (ok : Consistent w) (next : step w e = some w') :
    Moves w e w' := by
  cases e with
  | persisted question =>
      simp only [step] at next
      split at next
      · rename_i detected
        obtain ⟨questions, insert, rfl⟩ := Option.map_eq_some_iff.1 next
        exact .committed (.arrived detected insert)
      · simp at next
  | openQuestion questionId =>
      exact Option.some.inj next ▸ .committed openQuestion_change
  | createVersion questionId text =>
      exact Option.some.inj next ▸ .committed createVersion_change
  | reopenForEdit questionId =>
      exact Option.some.inj next ▸ .committed reopenForEdit_change
  | cancel questionId => exact Option.some.inj next ▸ .committed cancel_change
  | dismiss questionId => exact Option.some.inj next ▸ .committed (move_change rfl rfl)
  | reopen questionId => exact Option.some.inj next ▸ .committed (move_change rfl rfl)
  | removeChat chatId => exact Option.some.inj next ▸ .committed (.removedChat chatId)
  | confirmSend questionId newId now =>
      exact Option.some.inj next ▸ .committed confirmSend_change
  | prepareEdit questionId text => exact Option.some.inj next ▸ .committed prepareEdit_change
  | confirmEdit questionId newId now =>
      exact Option.some.inj next ▸ .committed confirmEdit_change
  | retryFailed commandId now =>
      simp only [step] at next
      split at next
      · simp at next
      · exact Option.some.inj next ▸ .committed retryFailed_change
  | recoverStale staleBefore =>
      exact Option.some.inj next ▸ .committed (.recovered staleBefore)
  | claimSend workerId now => exact claimSend_moves next
  | claimEdit workerId now => exact claimEdit_moves next
  | validateSend commandId access target now =>
      simp only [step] at next
      split at next
      · rename_i command question found
        obtain ⟨held, rfl⟩ := sending_of_get? found
        exact Option.some.inj next ▸ validateSend_moves ok held
      · simp at next
  | callSend commandId answer =>
      simp only [step] at next
      split at next
      · rename_i command question found
        obtain ⟨held, rfl⟩ := sending_of_get? found
        exact callSend_moves held next
      · simp at next
  | finishSend commandId now =>
      simp only [step] at next
      split at next
      · rename_i command question answer found
        obtain ⟨held, rfl⟩ := sending_of_get? found
        exact Option.some.inj next ▸ finishSend_moves ok held
      · simp at next
  | crashSend commandId =>
      simp only [step] at next
      split at next
      · rename_i iteration found
        obtain ⟨held, rfl⟩ := sending_of_get? found
        exact Option.some.inj next ▸ .abandonedSend held (Or.inl rfl)
      · simp at next
  | callEdit commandId answer =>
      simp only [step] at next
      split at next
      · rename_i command question found
        obtain ⟨held, rfl⟩ := editing_of_get? found
        exact Option.some.inj next ▸ callEdit_moves ok held
      · simp at next
  | finishEdit commandId now =>
      simp only [step] at next
      split at next
      · rename_i command question answer found
        obtain ⟨held, rfl⟩ := editing_of_get? found
        exact Option.some.inj next ▸ finishEdit_moves ok held
      · simp at next
  | crashEdit commandId =>
      simp only [step] at next
      split at next
      · rename_i iteration found
        obtain ⟨held, rfl⟩ := editing_of_get? found
        exact Option.some.inj next ▸ .crashedEdit held
      · simp at next

end Step

/-! ### The open iterations after a step -/

section Iterations

variable {w : World}

theorem mem_setSendPhase {phase : SendPhase} {iteration other : SendIteration}
    (held : iteration ∈ w.sending) :
    other ∈ (w.setSendPhase iteration.command.id phase).sending ↔
      (other ∈ w.sending ∧ other.command.id ≠ iteration.command.id) ∨
        other = { iteration with phase := phase } := by
  unfold World.setSendPhase
  rw [Table.mem_update]
  refine or_congr Iff.rfl ⟨?_, fun eq => ⟨iteration, held, rfl, eq⟩⟩
  rintro ⟨old, old_held, same, rfl⟩
  rw [Table.eq_of_key_eq old_held held same]

theorem mem_setEditPhase {phase : EditPhase} {iteration other : EditIteration}
    (held : iteration ∈ w.editing) :
    other ∈ (w.setEditPhase iteration.command.id phase).editing ↔
      (other ∈ w.editing ∧ other.command.id ≠ iteration.command.id) ∨
        other = { iteration with phase := phase } := by
  unfold World.setEditPhase
  rw [Table.mem_update]
  refine or_congr Iff.rfl ⟨?_, fun eq => ⟨iteration, held, rfl, eq⟩⟩
  rintro ⟨old, old_held, same, rfl⟩
  rw [Table.eq_of_key_eq old_held held same]

theorem mem_closeSend {commandId : UUID} {db' : Database} {other : SendIteration} :
    other ∈ (w.closeSend commandId db').sending ↔
      other ∈ w.sending ∧ other.command.id ≠ commandId := by
  unfold World.closeSend
  rw [Table.mem_erase]

theorem mem_closeEdit {commandId : UUID} {db' : Database} {other : EditIteration} :
    other ∈ (w.closeEdit commandId db').editing ↔
      other ∈ w.editing ∧ other.command.id ≠ commandId := by
  unfold World.closeEdit
  rw [Table.mem_erase]

end Iterations

/-! ### The invariant -/

namespace Consistent

variable {w w' : World}

theorem of_fresh (fresh : w.Fresh) : Consistent w where
  coupled := {
    owner := fun command held => absurd held (fresh.noCommand command)
    oneSend := fun a ha => absurd ha (fresh.noCommand a)
    sendStatus := fun command held => absurd held (fresh.noCommand command)
    sentId := fun command held => absurd held (fresh.noCommand command)
    drafting := fun questionId status found _ => by
      obtain ⟨question, stored, rfl⟩ := Option.map_eq_some_iff.1 found
      rw [fresh.detected question (Table.mem_of_get? stored)]
      rfl
    editTarget := fun edit held => absurd held (fresh.noCommand edit) }
  sends iteration held := absurd held (fresh.idleSends iteration)
  edits iteration held := absurd held (fresh.idleEdits iteration)
  validated iteration held := absurd held (fresh.idleSends iteration)
  targeted iteration held := absurd held (fresh.idleEdits iteration)

/-- A transaction, after which at most iterations on other commands are open. -/
theorem transaction {lock : Option UUID} (ok : Consistent w) (change : Change w.db lock w'.db)
    (sends : ∀ iteration ∈ w'.sending, iteration ∈ w.sending ∧ lock ≠ some iteration.command.id)
    (edits : ∀ iteration ∈ w'.editing, iteration ∈ w.editing ∧ lock ≠ some iteration.command.id) :
    Consistent w' where
  coupled := change.coupled ok.coupled
  sends iteration held :=
    (ok.sends iteration (sends iteration held).1).kept change (sends iteration held).2
  edits iteration held :=
    (ok.edits iteration (edits iteration held).1).kept change (edits iteration held).2
  validated iteration held := ok.validated iteration (sends iteration held).1
  targeted iteration held := ok.targeted iteration (edits iteration held).1

/-- An open send and an open edit are about different commands. -/
theorem apart (ok : Consistent w) {send : SendIteration} {edit : EditIteration}
    (sending : send ∈ w.sending) (editing : edit ∈ w.editing) :
    send.command.id ≠ edit.command.id := by
  intro shared
  have kinds := (ok.sends send sending).kind_unique (ok.edits edit editing) shared
  simp at kinds

/-- While an iteration is open its question still waits for the send. -/
theorem requested {iteration : SendIteration} (ok : Consistent w) (held : iteration ∈ w.sending) :
    w.db.statusOf? iteration.command.questionId = some .sendRequested := by
  obtain ⟨row, found, pending, send, taken⟩ := ok.sends iteration held
  rw [taken.same.questionId, ok.coupled.sendStatus row (Table.mem_of_get? found) send, pending]
  rfl

theorem closeSend {db' : Database} {lock : Option UUID} {iteration : SendIteration}
    (ok : Consistent w) (held : iteration ∈ w.sending) (change : Change w.db lock db')
    (own : lock = none ∨ lock = some iteration.command.id) :
    Consistent (w.closeSend iteration.command.id db') := by
  refine ok.transaction change (fun other member => ?_) (fun other member => ?_)
  · obtain ⟨open_, ne⟩ := mem_closeSend.1 member
    refine ⟨open_, fun same => ?_⟩
    rcases own with rfl | rfl
    · simp at same
    · exact ne (Option.some.inj same).symm
  · refine ⟨member, fun same => ?_⟩
    rcases own with rfl | rfl
    · simp at same
    · exact ok.apart held member (Option.some.inj same)

theorem closeEdit {db' : Database} {lock : Option UUID} {iteration : EditIteration}
    (ok : Consistent w) (held : iteration ∈ w.editing) (change : Change w.db lock db')
    (own : lock = none ∨ lock = some iteration.command.id) :
    Consistent (w.closeEdit iteration.command.id db') := by
  refine ok.transaction change (fun other member => ?_) (fun other member => ?_)
  · refine ⟨member, fun same => ?_⟩
    rcases own with rfl | rfl
    · simp at same
    · exact ok.apart member held (Option.some.inj same).symm
  · obtain ⟨open_, ne⟩ := mem_closeEdit.1 member
    refine ⟨open_, fun same => ?_⟩
    rcases own with rfl | rfl
    · simp at same
    · exact ne (Option.some.inj same).symm

theorem advanceSend {phase : SendPhase} {iteration : SendIteration} (ok : Consistent w)
    (held : iteration ∈ w.sending) (requested : iteration.question.status = .sendRequested) :
    Consistent (w.setSendPhase iteration.command.id phase) where
  coupled := ok.coupled
  sends other member := by
    rcases (mem_setSendPhase held).1 member with ⟨old, _⟩ | rfl
    · exact ok.sends other old
    · exact ok.sends iteration held
  edits := ok.edits
  validated other member past := by
    rcases (mem_setSendPhase held).1 member with ⟨old, _⟩ | rfl
    · exact ok.validated other old past
    · exact requested
  targeted := ok.targeted

theorem advanceEdit {phase : EditPhase} {iteration : EditIteration} (ok : Consistent w)
    (held : iteration ∈ w.editing)
    (valid : EditReplyWorker.validTarget iteration.command iteration.question = true) :
    Consistent (w.setEditPhase iteration.command.id phase) where
  coupled := ok.coupled
  sends := ok.sends
  edits other member := by
    rcases (mem_setEditPhase held).1 member with ⟨old, _⟩ | rfl
    · exact ok.edits other old
    · exact ok.edits iteration held
  validated := ok.validated
  targeted other member past := by
    rcases (mem_setEditPhase held).1 member with ⟨old, _⟩ | rfl
    · exact ok.targeted other old past
    · exact valid

/-- Only the database and the open iterations matter. -/
theorem congr (ok : Consistent w) (db : w'.db = w.db) (sending : w'.sending = w.sending)
    (editing : w'.editing = w.editing) : Consistent w' where
  coupled := db ▸ ok.coupled
  sends iteration held := db ▸ ok.sends iteration (sending ▸ held)
  edits iteration held := db ▸ ok.edits iteration (editing ▸ held)
  validated iteration held := ok.validated iteration (sending ▸ held)
  targeted iteration held := ok.targeted iteration (editing ▸ held)

/-- Every move keeps the invariant. -/
theorem step {e : Event} (ok : Consistent w) (moves : Moves w e w') : Consistent w' := by
  cases moves with
  | committed change =>
      exact ok.transaction change (fun _ held => ⟨held, by simp⟩) (fun _ held => ⟨held, by simp⟩)
  | @claimedSend _ _ iteration sending claims _ phase insert =>
      refine ⟨ok.coupled, fun other held => ?_, ok.edits, fun other held past => ?_, ok.targeted⟩
      · rcases (Table.mem_insert? insert).1 held with old | rfl
        · exact ok.sends other old
        · exact claims
      · rcases (Table.mem_insert? insert).1 held with old | rfl
        · exact ok.validated other old past
        · exact absurd phase past
  | validatedSend held _ requested => exact ok.advanceSend held requested
  | @refusedSend answer iteration held phase _ =>
      have requested := ok.validated iteration held (by simp [phase])
      exact (ok.advanceSend held requested).congr rfl rfl rfl
  | @acceptedSend answer _ iteration _ held phase _ _ =>
      have requested := ok.validated iteration held (by simp [phase])
      exact (ok.advanceSend held requested).congr rfl rfl rfl
  | closedSend held change => exact ok.closeSend held change (Or.inr rfl)
  | abandonedSend held _ => exact ok.closeSend held .idle (Or.inl rfl)
  | @claimedEdit _ _ iteration editing claims _ phase insert =>
      refine ⟨ok.coupled, ok.sends, fun other held => ?_, ok.validated, fun other held past => ?_⟩
      · rcases (Table.mem_insert? insert).1 held with old | rfl
        · exact ok.edits other old
        · exact claims
      · rcases (Table.mem_insert? insert).1 held with old | rfl
        · exact ok.targeted other old past
        · exact absurd phase past
  | refusedEdit held _ valid _ => exact ok.advanceEdit held valid
  | appliedEdit held _ valid _ _ => exact (ok.advanceEdit held valid).congr rfl rfl rfl
  | completedEdit held _ _ _ _ change => exact ok.closeEdit held change (Or.inr rfl)
  | failedEdit held _ _ _ change => exact ok.closeEdit held change (Or.inr rfl)
  | abortedEdit held _ _ => exact ok.closeEdit held .idle (Or.inl rfl)
  | crashedEdit held => exact ok.closeEdit held .idle (Or.inl rfl)

end Consistent

/-- The invariant holds in every state of every run. -/
theorem consistent_of_run {guard : World → Event → Prop} {w v : World} {es : List Event}
    (fresh : w.Fresh) (run : Run step guard w es v) : Consistent v :=
  run.invariant (Consistent.of_fresh fresh)
    (fun _ _ _ ok _ next => ok.step (step_moves ok next))

/-! ### Questions and their commands -/

/-- The question's `send_reply` command. -/
def IsSendOf (question : DetectedQuestion) (command : OutboundCommand) : Prop :=
  command.commandType = .sendReply ∧ command.questionId = question.id

/-- The coupling as a reader of the two tables sees it. -/
structure QuestionsCoupled (db : Database) : Prop where
  oneSend : ∀ question ∈ db.detectedQuestions, ∀ a ∈ db.outboundCommands,
    ∀ b ∈ db.outboundCommands, IsSendOf question a → IsSendOf question b → a = b
  sendRequested : ∀ question ∈ db.detectedQuestions, question.status = .sendRequested ↔
    ∃ command ∈ db.outboundCommands, IsSendOf question command ∧
      (command.status = .pending ∨ command.status = .processing)
  sent : ∀ question ∈ db.detectedQuestions, question.status = .sent ↔
    ∃ command ∈ db.outboundCommands, IsSendOf question command ∧
      command.status = .succeeded ∧ command.sentMessageId.isSome = true
  sendFailed : ∀ question ∈ db.detectedQuestions, question.status = .sendFailed ↔
    ∃ command ∈ db.outboundCommands, IsSendOf question command ∧
      (command.status = .failed ∨ command.status = .needsReview)
  drafting : ∀ question ∈ db.detectedQuestions,
    (question.status ≠ .sendRequested ∧ question.status ≠ .sent ∧
      question.status ≠ .sendFailed) ↔
    ¬ ∃ command ∈ db.outboundCommands, IsSendOf question command
  edits : ∀ edit ∈ db.outboundCommands, edit.commandType = .editReply →
    ∃ question ∈ db.detectedQuestions, question.id = edit.questionId ∧ question.status = .sent ∧
      ∃ send ∈ db.outboundCommands, IsSendOf question send ∧ send.status = .succeeded ∧
        send.sentMessageId.isSome = true ∧ edit.sentMessageId = send.sentMessageId
  destination : ∀ command ∈ db.outboundCommands, ∃ question ∈ db.detectedQuestions,
    question.id = command.questionId ∧ command.telegramChatId = question.telegramChatId ∧
      command.sourceMessageId = question.telegramMessageId ∧ command.topicId = question.topicId

namespace Coupled

variable {db : Database}

theorem status_of_send (coupled : Coupled db) {question : DetectedQuestion}
    {command : OutboundCommand} (stored : question ∈ db.detectedQuestions)
    (held : command ∈ db.outboundCommands) (send : IsSendOf question command) :
    question.status = questionStatusOf command.status := by
  have status := coupled.sendStatus command held send.1
  rw [send.2, Database.statusOf?_of_found (Table.get?_of_mem stored)] at status
  exact Option.some.inj status

/-- A question past drafting has a send command. -/
theorem exists_send (coupled : Coupled db) {question : DetectedQuestion}
    (stored : question ∈ db.detectedQuestions) (past : isDrafting question.status = false) :
    ∃ command ∈ db.outboundCommands, IsSendOf question command := by
  by_contra absent
  have drafting := coupled.drafting question.id question.status
    (Database.statusOf?_of_found (Table.get?_of_mem stored))
    (fun command held owner send => absent ⟨command, held, send, owner⟩)
  rw [past] at drafting
  exact Bool.false_ne_true drafting

/-- The status of a question is a given one past drafting when its send command has a status that
belongs to it. -/
theorem status_iff (coupled : Coupled db) {question : DetectedQuestion} {status : QuestionStatus}
    (stored : question ∈ db.detectedQuestions) (past : isDrafting status = false) :
    question.status = status ↔ ∃ command ∈ db.outboundCommands, IsSendOf question command ∧
      questionStatusOf command.status = status := by
  constructor
  · rintro rfl
    obtain ⟨command, held, send⟩ := coupled.exists_send stored past
    exact ⟨command, held, send, (coupled.status_of_send stored held send).symm⟩
  · rintro ⟨command, held, send, rfl⟩
    exact coupled.status_of_send stored held send

theorem owner_question (coupled : Coupled db) {command : OutboundCommand}
    (held : command ∈ db.outboundCommands) :
    ∃ question ∈ db.detectedQuestions, question.id = command.questionId ∧
      command.telegramChatId = question.telegramChatId ∧
      command.sourceMessageId = question.telegramMessageId ∧
      command.topicId = question.topicId := by
  obtain ⟨question, found, place⟩ := Option.map_eq_some_iff.1 (coupled.owner command held)
  simp only [Prod.mk.injEq] at place
  exact ⟨question, Table.mem_of_get? found, Table.key_of_get? found, place.1.symm,
    place.2.1.symm, place.2.2.symm⟩

theorem questionsCoupled (coupled : Coupled db) : QuestionsCoupled db where
  oneSend question _ a ha b hb sendA sendB :=
    coupled.oneSend a ha b hb sendA.1 sendB.1 (sendA.2.trans sendB.2.symm)
  sendRequested question stored := by
    rw [coupled.status_iff stored rfl]
    refine exists_congr fun command => and_congr_right fun _ => and_congr_right fun _ => ?_
    cases command.status <;> simp [questionStatusOf]
  sent question stored := by
    rw [coupled.status_iff stored rfl]
    refine exists_congr fun command => and_congr_right fun held => and_congr_right fun send => ?_
    have sentId := coupled.sentId command held send.1
    cases status : command.status <;> simp_all [questionStatusOf]
  sendFailed question stored := by
    rw [coupled.status_iff stored rfl]
    refine exists_congr fun command => and_congr_right fun _ => and_congr_right fun _ => ?_
    cases command.status <;> simp [questionStatusOf]
  drafting question stored := by
    have status : (question.status ≠ .sendRequested ∧ question.status ≠ .sent ∧
        question.status ≠ .sendFailed) ↔ isDrafting question.status = true := by
      simp [isDrafting, and_assoc]
    rw [status]
    constructor
    · rintro drafting ⟨command, held, send⟩
      rw [coupled.status_of_send stored held send, not_isDrafting_questionStatusOf] at drafting
      exact Bool.false_ne_true drafting
    · intro unsent
      by_contra past
      exact unsent (coupled.exists_send stored (by simpa using past))
  edits edit held isEdit := by
    obtain ⟨send, sendHeld, kind, owner, succeeded, sentId⟩ := coupled.editTarget edit held isEdit
    obtain ⟨question, stored, same, _⟩ := coupled.owner_question sendHeld
    have isSend : IsSendOf question send := ⟨kind, same.symm⟩
    refine ⟨question, stored, same.trans owner, ?_, send, sendHeld, isSend, succeeded,
      coupled.sentId send sendHeld kind succeeded, sentId.symm⟩
    rw [coupled.status_of_send stored sendHeld isSend, succeeded]
    rfl
  destination command held := coupled.owner_question held

end Coupled

/-- `SENT` and `SEND_FAILED` are final: no transaction leaves them. -/
theorem Change.keeps_final {db db' : Database} {lock : Option UUID} {id : UUID}
    {status : QuestionStatus} (change : Change db lock db') (coupled : Coupled db)
    (final : status = .sent ∨ status = .sendFailed) (before : db.statusOf? id = some status) :
    db'.statusOf? id = some status := by
  have elsewhere : ∀ {questionId : UUID} {old new : QuestionStatus},
      db.statusOf? questionId = some old → old ≠ .sent → old ≠ .sendFailed →
      (if id = questionId then (db.statusOf? id).map (fun _ => new) else db.statusOf? id) =
        some status := by
    intro questionId old new found notSent notFailed
    rw [if_neg, before]
    rintro rfl
    rw [found, Option.some.injEq] at before
    subst before
    rcases final with rfl | rfl
    · exact notSent rfl
    · exact notFailed rfl
  have requested : ∀ {row : OutboundCommand}, db.outboundCommands.get? row.id = some row →
      row.commandType = .sendReply → row.status = .pending →
      db.statusOf? row.questionId = some .sendRequested := by
    intro row found send pending
    rw [coupled.sendStatus row (Table.mem_of_get? found) send, pending]
    rfl
  cases change with
  | idle => exact before
  | arrived _ insert =>
      rw [Database.statusOf?_arrived insert, if_neg, before]
      rintro rfl
      obtain ⟨question, found, _⟩ := Option.map_eq_some_iff.1 before
      rw [Table.get?_eq_some_iff] at found
      exact Table.fresh_of_insert? insert question found.1 found.2
  | removedChat => simpa using before
  | redraft found source =>
      rw [Database.statusOf?_setQuestionStatus]
      refine elsewhere (Database.statusOf?_of_found found) ?_ ?_ <;>
        (intro eq; rw [eq] at source; exact Bool.false_ne_true source)
  | @draft question text inserted found source insert =>
      have same : inserted.statusOf? id = db.statusOf? id := by
        simp [Database.statusOf?, (Database.insertReplyVersion_spec insert).1]
      rw [Database.statusOf?_setQuestionStatus, same]
      refine elsewhere (Database.statusOf?_of_found found) ?_ ?_ <;>
        (intro eq; rw [eq] at source; exact Bool.false_ne_true source)
  | preview _ _ insert =>
      simpa [Database.statusOf?, (Database.insertReplyVersion_spec insert).1] using before
  | @confirmedSend question _ versioned inserted _ _ found source _ _ _ version insert =>
      have same : inserted.statusOf? id = db.statusOf? id := by
        simp [Database.statusOf?, (Database.insertOutboundCommand_spec insert).1,
          (Database.insertReplyVersion_spec version).1]
      rw [Database.statusOf?_setQuestionStatus, same]
      exact elsewhere (Database.statusOf?_of_found found) (by simp [source]) (by simp [source])
  | confirmedEdit _ _ _ _ _ insert =>
      simpa [Database.statusOf?, (Database.insertOutboundCommand_spec insert).1] using before
  | retriedEdit => exact before
  | recovered staleBefore =>
      rw [Database.statusOf?_recoverStale, if_neg, before]
      intro listed
      obtain ⟨command, held, send, owner, stale⟩ := mem_staleSendQuestions.1 listed
      have status := coupled.sendStatus command held send
      simp only [isStale, Bool.and_eq_true, decide_eq_true_eq] at stale
      rw [owner, before, stale.1, Option.some.injEq] at status
      rcases final with rfl | rfl <;> simp [questionStatusOf] at status
  | retriedSend => exact before
  | settledSend found pending send =>
      rw [Database.statusOf?_setQuestionStatus]
      exact elsewhere (requested found send pending) (by simp) (by simp)
  | failedEdit => exact before
  | completedEdit _ _ _ _ _ _ insert =>
      simpa [Database.statusOf?, (Database.insertReplyVersion_spec insert).1] using before

/-- A move changes the database by one transaction, if it does at all. -/
theorem Moves.change {w w' : World} {e : Event} (moves : Moves w e w') :
    ∃ lock, Change w.db lock w'.db := by
  cases moves with
  | committed change => exact ⟨_, change⟩
  | closedSend _ change => exact ⟨_, change⟩
  | completedEdit _ _ _ _ _ change => exact ⟨_, change⟩
  | failedEdit _ _ _ _ change => exact ⟨_, change⟩
  | claimedSend => exact ⟨_, .idle⟩
  | validatedSend => exact ⟨_, .idle⟩
  | refusedSend => exact ⟨_, .idle⟩
  | acceptedSend => exact ⟨_, .idle⟩
  | abandonedSend => exact ⟨_, .idle⟩
  | claimedEdit => exact ⟨_, .idle⟩
  | refusedEdit => exact ⟨_, .idle⟩
  | appliedEdit => exact ⟨_, .idle⟩
  | abortedEdit => exact ⟨_, .idle⟩
  | crashedEdit => exact ⟨_, .idle⟩

/-- A move leaves the final statuses. -/
theorem Moves.keeps_final {w w' : World} {e : Event} {id : UUID} {status : QuestionStatus}
    (moves : Moves w e w') (ok : Consistent w) (final : status = .sent ∨ status = .sendFailed)
    (before : w.db.statusOf? id = some status) : w'.db.statusOf? id = some status := by
  rcases moves.change with ⟨_, change⟩
  exact change.keeps_final ok.coupled final before

/-- In every state that a run reaches, questions and commands are coupled; and whatever happens
afterwards, a question that is `SENT` or `SEND_FAILED` there stays so. -/
theorem questions_coupled {w v u : World} {es fs : List Event} (fresh : w.Fresh)
    (run : Run step anyEvent w es v) (rest : Run step anyEvent v fs u) :
    QuestionsCoupled v.db ∧
      ∀ id status, status = .sent ∨ status = .sendFailed → v.db.statusOf? id = some status →
        u.db.statusOf? id = some status := by
  have reached := consistent_of_run fresh run
  refine ⟨reached.coupled.questionsCoupled, fun id status final before => ?_⟩
  let stays : World → World → Prop := fun a b =>
    a.db.statusOf? id = some status → b.db.statusOf? id = some status
  have kept : stays v u := rest.related reached (fun _ held => held)
    (fun first second held => second (first held))
    (fun _ _ _ ok _ next => ok.step (step_moves ok next))
    (fun _ _ _ ok _ next held => (step_moves ok next).keeps_final ok final held)
  exact kept before

/-! ### One question, from its draft to a sent reply -/

/-- A world with one question of one monitored chat. -/
def sampleWorld : World where
  db := {
    monitoredChats := ⟨[⟨1, -100, "Support", none, .supergroup, .active, none, 0, 0, none, none⟩],
      List.nodup_singleton _⟩
    detectedQuestions := ⟨[{
      id := 7, monitoredChatId := some 1, telegramChatId := -100, telegramMessageId := 40,
      topicId := none, topicTitle := none, authorTelegramId := none, authorDisplayName := none,
      telegramCreatedAt := 0, originalText := "How do we deploy?", translatedText := none,
      sourceLanguage := none, category := .technical, confidence := 1, status := .detected,
      detectedAt := 0, expiresAt := 0 }], List.nodup_singleton _⟩ }

theorem sampleWorld_fresh : sampleWorld.Fresh where
  detected question held := by
    rw [List.mem_singleton.1 held]
  noVersion version := Table.not_mem_empty version
  noCommand command := Table.not_mem_empty command
  noSession session held := absurd held (Table.not_mem_empty session)
  idleSends iteration := Table.not_mem_empty iteration
  idleEdits iteration := Table.not_mem_empty iteration
  noMessage message := Table.not_mem_empty message
  noCall := rfl

/-- The source message as Telegram returns it to the validation. -/
def sampleTarget : ReplyMessage :=
  ⟨-100, 40, none, none, none, none, none, 0, "How do we deploy?"⟩

/-- A draft of the question, confirmed as command 20. -/
def sampleDraft : List Event :=
  [.openQuestion 7, .createVersion 7 "With the script.", .confirmSend 7 20 0]

/-- An iteration that Telegram answers with message 900, before its commit. -/
def sampleCall : List Event :=
  [.claimSend "listener" 0, .validateSend 20 (.result .active) (some sampleTarget) 0,
    .callSend 20 (.returned 900)]

/-- The coupling at the end of a run that sends a reply. -/
theorem questions_coupled_sample : ∃ v : World, QuestionsCoupled v.db ∧
    v.db.statusOf? 7 = some .sent ∧ v.db.outboundCommands.rows.length = 1 := by
  have computed : (exec step anyEvent sampleWorld
      (sampleDraft ++ sampleCall ++ [.finishSend 20 0])).map
        (fun v => (v.db.statusOf? 7, v.db.outboundCommands.rows.length)) =
          some (some .sent, 1) := rfl
  obtain ⟨v, run, value⟩ := Run.exists_of_exec computed
  simp only [Prod.mk.injEq] at value
  exact ⟨v, (questions_coupled sampleWorld_fresh run .nil).1, value⟩

end LeadAssistant.ReplyWorkflow
