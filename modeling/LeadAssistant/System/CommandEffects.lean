/-
Module: LeadAssistant.System.CommandEffects
Layer: System
Purpose: What one event of the operator or of an outbound worker does to the commands, said once: a
  command stays with its chat and its time, only one that is open or failed changes, and a new one is
  that of a confirmation at its own time. Without an open command of a chat, its messages stay too.
Trusted boundary: none
Main exports: ReplyWorkflow.SameOrder, ReplyWorkflow.Orders, ReplyWorkflow.step_orders,
  ReplyWorkflow.telegram_kept, ReplyWorkflow.Beside, ReplyWorkflow.step_silent
-/
import LeadAssistant.System.ReplyEffects
import LeadAssistant.Workflow.Steps

namespace LeadAssistant.ReplyWorkflow

open Relational OutboundCommandRepository

/-- Two states of one command: the same order, for the same chat, of the same time. -/
structure SameOrder (a b : OutboundCommand) : Prop where
  id : b.id = a.id
  telegramChatId : b.telegramChatId = a.telegramChatId
  createdAt : b.createdAt = a.createdAt

theorem SameOrder.refl (command : OutboundCommand) : SameOrder command command := ⟨rfl, rfl, rfl⟩

/-- Nothing is left to do for a command, and no retry can take it up again. -/
def isSettled (command : OutboundCommand) : Bool :=
  command.status = .succeeded || command.status = .needsReview

/-- The time of a confirmation. -/
def Event.confirmedAt? : Event → Option Time
  | .confirmSend _ _ now | .confirmEdit _ _ now => some now
  | _ => none

/-- The time at which a worker's iteration ends. -/
def Event.finishedAt? : Event → Option Time
  | .finishSend _ now | .finishEdit _ now => some now
  | _ => none

/-- The time of completion stays, or it is that of the event. -/
def Event.Completes (e : Event) (command after : OutboundCommand) : Prop :=
  after.completedAt = command.completedAt ∨
    ∃ now, e.finishedAt? = some now ∧ after.completedAt = some now

/-- What an event does to the commands. -/
structure Orders (t : Table OutboundCommand.id) (e : Event) (u : Table OutboundCommand.id) :
    Prop where
  kept : ∀ command ∈ t, ∃ after ∈ u, SameOrder command after
  origin : ∀ after ∈ u, after ∈ t ∨
    (∃ command ∈ t, SameOrder command after ∧ isSettled command = false ∧ e.Completes command after) ∨
    e.confirmedAt? = some after.createdAt ∧ after.completedAt = none

section Commands

variable {t u : Table OutboundCommand.id} {w w' : World} {e : Event} {db : Database}
  {questionId : UUID} {now : Time} {command after row : OutboundCommand}

theorem Orders.refl : Orders t e t :=
  ⟨fun command held => ⟨command, held, .refl command⟩, fun _ held => Or.inl held⟩

/-- A command that is not settled is written back. -/
theorem Orders.put (held : row ∈ t) (same : SameOrder row after) (unsettled : isSettled row = false)
    (completes : e.Completes row after) : Orders t e (t.put after) := by
  have taken : (t.get? after.id).isSome := by
    rw [same.id, Table.get?_of_mem held]
    rfl
  constructor
  · intro command there
    by_cases own : command.id = after.id
    · have is_row := Table.eq_of_key_eq there held (own.trans same.id)
      exact ⟨after, (Table.mem_put taken).2 (Or.inr rfl), is_row ▸ same⟩
    · exact ⟨command, (Table.mem_put taken).2 (Or.inl ⟨there, own⟩), .refl command⟩
  · intro other there
    rcases (Table.mem_put taken).1 there with ⟨old, -⟩ | rfl
    · exact Or.inl old
    · exact Or.inr (Or.inl ⟨row, held, same, unsettled, completes⟩)

/-- A confirmation adds its command. -/
theorem Orders.ordered (inserted : t.insert? command = some u)
    (confirms : e.confirmedAt? = some command.createdAt) (open_ : command.completedAt = none) :
    Orders t e u := by
  constructor
  · exact fun other there => ⟨other, (Table.mem_insert? inserted).2 (Or.inl there), .refl other⟩
  · intro other there
    rcases (Table.mem_insert? inserted).1 there with old | rfl
    · exact Or.inl old
    · exact Or.inr (Or.inr ⟨confirms, open_⟩)

theorem Orders.recovered {staleBefore : Time} :
    Orders w.db.outboundCommands e (recoverStale staleBefore w.db).outboundCommands := by
  constructor
  · intro command there
    by_cases stale : isStale staleBefore command = true
    · exact ⟨_, mem_recoverStale.2 (Or.inr ⟨command, there, stale, rfl⟩), rfl, rfl, rfl⟩
    · exact ⟨command, mem_recoverStale.2 (Or.inl ⟨there, by simpa using stale⟩), .refl command⟩
  · intro after there
    rcases mem_recoverStale.1 there with ⟨old, -⟩ | ⟨command, old, stale, rfl⟩
    · exact Or.inl old
    · refine Or.inr (Or.inl ⟨command, old, ⟨rfl, rfl, rfl⟩, ?_, Or.inl rfl⟩)
      unfold isStale at stale
      simp only [Bool.and_eq_true, decide_eq_true_eq] at stale
      simp [isSettled, stale.1]

/-- The command of an open iteration is written back. -/
theorem Orders.claimed {kind : CommandType} (claims : Claims w.db kind command)
    (same : SameOrder command after) (completes : e.Completes command after) :
    Orders w.db.outboundCommands e (w.db.outboundCommands.put after) := by
  obtain ⟨row, found, pending, -, workerId, at_, rfl⟩ := claims
  exact .put (Table.mem_of_get? found) ⟨same.id, same.telegramChatId, same.createdAt⟩
    (by simp [isSettled, pending]) completes

/-! ### The calls of the operator -/

theorem openQuestion_commands :
    (ReplyDraftRepository.openQuestion questionId db).2.outboundCommands = db.outboundCommands := by
  unfold ReplyDraftRepository.openQuestion
  split
  · rfl
  · split <;> rfl

theorem createVersion_commands {text : String} :
    ((ReplyDraftRepository.createVersion questionId text db).committed db).outboundCommands =
      db.outboundCommands := by
  unfold ReplyDraftRepository.createVersion
  split
  · rfl
  · split
    · rfl
    · dsimp only
      split
      · rfl
      · rename_i inserted insert
        split
        · rfl
        · exact (Database.insertReplyVersion_spec insert).2.1

theorem reopenForEdit_commands :
    ((ReplyDraftRepository.reopenForEdit questionId db).committed db).outboundCommands =
      db.outboundCommands := by
  unfold ReplyDraftRepository.reopenForEdit
  split
  · rfl
  · split <;> rfl

theorem cancel_commands :
    ((ReplyDraftRepository.cancel questionId db).committed db).outboundCommands =
      db.outboundCommands := by
  unfold ReplyDraftRepository.cancel
  split
  · rfl
  · split
    · rfl
    · split <;> rfl

theorem move_commands {source target : QuestionStatus} :
    ((QuestionFeedbackRepository.move source target questionId db).committed db).outboundCommands =
      db.outboundCommands := by
  unfold QuestionFeedbackRepository.move
  split
  · rfl
  · split
    · rfl
    · split <;> rfl

theorem prepareEdit_commands {text : String} :
    ((prepareEdit questionId text db).committed db).outboundCommands = db.outboundCommands := by
  unfold prepareEdit
  split
  · rfl
  · split
    · rfl
    · split
      · dsimp only
        split
        · rfl
        · rename_i inserted insert
          exact (Database.insertReplyVersion_spec insert).2.1
      · rfl

theorem confirmSend_orders {newId : UUID} :
    Orders db.outboundCommands (.confirmSend questionId newId now)
      ((confirmSend questionId newId now db).committed db).outboundCommands := by
  unfold confirmSend
  split
  · exact .refl
  · split
    · split <;> exact .refl
    · split
      · exact .refl
      · split
        · exact .refl
        · split
          · exact .refl
          · dsimp only
            split
            · exact .refl
            · rename_i versioned version
              split
              · exact .refl
              · rename_i inserted insert
                have same := (Database.insertReplyVersion_spec version).2.1
                unfold Database.insertOutboundCommand at insert
                split at insert
                · cases insert
                · obtain ⟨commands, stored, rfl⟩ := Option.map_eq_some_iff.1 insert
                  rw [same] at stored
                  exact .ordered stored rfl rfl

theorem confirmEdit_orders {newId : UUID} :
    Orders db.outboundCommands (.confirmEdit questionId newId now)
      ((confirmEdit questionId newId now db).committed db).outboundCommands := by
  unfold confirmEdit
  split
  · exact .refl
  · split
    · exact .refl
    · split
      · exact .refl
      · split
        · exact .refl
        · split
          · exact .refl
          · split
            · exact .refl
            · dsimp only
              split
              · exact .refl
              · rename_i inserted insert
                unfold Database.insertOutboundCommand at insert
                split at insert
                · cases insert
                · obtain ⟨commands, stored, rfl⟩ := Option.map_eq_some_iff.1 insert
                  exact .ordered stored rfl rfl

theorem retryFailed_orders {commandId : UUID} :
    Orders db.outboundCommands e
      ((retryFailed commandId now db).committed db).outboundCommands := by
  unfold retryFailed
  split
  · exact .refl
  · rename_i command found
    split
    · rename_i allowed
      unfold manualRetryAllowed at allowed
      simp only [Bool.and_eq_true, decide_eq_true_eq] at allowed
      exact .put (Table.mem_of_get? found) ⟨rfl, rfl, rfl⟩ (by simp [isSettled, allowed.1.1.1])
        (Or.inl rfl)
    · exact .refl

/-! ### The workers -/

theorem recordError_orders {error : TelegramOutboundError}
    (claims : Claims w.db .sendReply command)
    (recorded : SendReplyWorker.recordError command error now w.db = some db) :
    Orders w.db.outboundCommands e db.outboundCommands := by
  rcases SendReplyWorker.recordError_cases recorded with
    ⟨chats, ⟨_, delay, _, _, rfl⟩ | ⟨needsReview, rfl⟩⟩
  · exact .claimed claims ⟨rfl, rfl, rfl⟩ (Or.inl rfl)
  · exact .claimed claims ⟨rfl, rfl, rfl⟩ (Or.inl rfl)

theorem failEdit_orders {errorCode : String} (claims : Claims w.db .editReply command) :
    Orders w.db.outboundCommands e (failEdit command errorCode w.db).outboundCommands :=
  .claimed claims ⟨rfl, rfl, rfl⟩ (Or.inl rfl)

theorem sendSettle_orders {iteration : SendIteration} {answer : SendAnswer}
    (claims : Claims w.db .sendReply iteration.command) (finishes : e.finishedAt? = some now)
    (settled : SendReplyWorker.settle iteration.command iteration.question answer now w.db =
      some db) : Orders w.db.outboundCommands e db.outboundCommands := by
  cases answer with
  | refused code temporary retryAfterSeconds => exact recordError_orders claims settled
  | ambiguous code acceptedId =>
      have recorded : SendReplyWorker.recordError iteration.command ⟨code, .ambiguous, none⟩ now
        w.db = some db := settled
      exact recordError_orders claims recorded
  | returned messageId =>
      unfold SendReplyWorker.settle completeSend at settled
      dsimp only at settled
      split at settled
      · rename_i completed
        cases settled
        split at completed
        · cases completed
        · cases completed
          exact .claimed claims ⟨rfl, rfl, rfl⟩ (Or.inr ⟨now, finishes, rfl⟩)
      · cases settled

theorem editSettle_orders {iteration : EditIteration} {answer : EditAnswer}
    (claims : Claims w.db .editReply iteration.command) (finishes : e.finishedAt? = some now)
    (settled : EditReplyWorker.settle iteration.command iteration.question answer now w.db =
      some db) : Orders w.db.outboundCommands e db.outboundCommands := by
  cases answer with
  | refused code temporary retryAfterSeconds => exact Option.some.inj settled ▸ failEdit_orders claims
  | ambiguous code applied => exact Option.some.inj settled ▸ failEdit_orders claims
  | returned =>
      unfold EditReplyWorker.settle completeEdit at settled
      dsimp only at settled
      split at settled
      · rename_i completed
        cases settled
        split at completed
        · cases completed
        · split at completed
          · cases completed
          · rename_i inserted insert
            cases completed
            unfold Database.putOutboundCommand
            dsimp only
            rw [(Database.insertReplyVersion_spec insert).2.1]
            exact .claimed claims ⟨rfl, rfl, rfl⟩ (Or.inr ⟨now, finishes, rfl⟩)
      · cases settled

theorem Settles.orders (ok : Consistent w) (settles : Settles w e db) :
    Orders w.db.outboundCommands e db.outboundCommands := by
  cases settles with
  | idle => exact .refl
  | recovered staleBefore => exact .recovered
  | unvalidated iteration access target now error db held recorded =>
      exact recordError_orders (ok.sends _ held) recorded
  | sent iteration answer now db held settled =>
      exact @sendSettle_orders w _ _ now _ _ (ok.sends _ held) rfl settled
  | uncalled iteration answer held => exact failEdit_orders (ok.edits _ held)
  | edited iteration answer now db held settled =>
      exact @editSettle_orders w _ _ now _ _ (ok.edits _ held) rfl settled

/-- What every event of the operator and of the workers does to the commands. -/
theorem step_orders (ok : Consistent w) (own : e.isCall = true ∨ e.isOutbound = true)
    (next : step w e = some w') : Orders w.db.outboundCommands e w'.db.outboundCommands := by
  rcases own with isCall | outbound
  · cases e with
    | openQuestion questionId =>
        cases next
        exact openQuestion_commands ▸ .refl
    | createVersion questionId text =>
        cases next
        exact createVersion_commands ▸ .refl
    | reopenForEdit questionId =>
        cases next
        exact reopenForEdit_commands ▸ .refl
    | cancel questionId =>
        cases next
        exact cancel_commands ▸ .refl
    | dismiss questionId =>
        cases next
        exact move_commands ▸ .refl
    | reopen questionId =>
        cases next
        exact move_commands ▸ .refl
    | removeChat chatId =>
        cases next
        exact .refl
    | confirmSend questionId newId now => exact Option.some.inj next ▸ confirmSend_orders
    | prepareEdit questionId text =>
        cases next
        exact prepareEdit_commands ▸ .refl
    | confirmEdit questionId newId now => exact Option.some.inj next ▸ confirmEdit_orders
    | retryFailed commandId now =>
        simp only [step] at next
        split at next
        · simp at next
        · exact Option.some.inj next ▸ retryFailed_orders
    | _ => cases isCall
  · exact (step_settles outbound next).orders ok

/-! ### Telegram -/

/-- While all commands of a chat are settled, no iteration is open for it, and its messages stay. -/
theorem telegram_kept {chatId : Int} {message : TelegramMessage} (ok : Consistent w)
    (settled : ∀ command ∈ w.db.outboundCommands, command.telegramChatId = chatId →
      isSettled command = true)
    (moves : Moves w e w') (own : message.chatId = chatId) :
    message ∈ w'.telegram ↔ message ∈ w.telegram := by
  have elsewhere : ∀ {kind command}, Claims w.db kind command → command.telegramChatId ≠ chatId := by
    rintro kind command ⟨row, found, pending, -, workerId, at_, rfl⟩ chat
    have done := settled row (Table.mem_of_get? found) chat
    simp [isSettled, pending] at done
  cases moves with
  | @acceptedSend answer messageId iteration telegram held phase accepted insert =>
      rw [Table.mem_insert? insert]
      refine or_iff_left ?_
      rintro rfl
      exact elsewhere (ok.sends iteration held) own
  | @appliedEdit answer messageId iteration held phase valid applied target =>
      have other : message.key ≠ (iteration.command.telegramChatId, messageId) := by
        intro same
        exact elsewhere (ok.edits iteration held) ((Prod.mk.inj same).1.symm.trans own)
      have updated := @Table.mem_update _ _ TelegramMessage.key _ w.telegram
        (iteration.command.telegramChatId, messageId)
        (fun shown => { shown with text := iteration.command.text }) (fun _ _ => rfl) message
      refine updated.trans ⟨?_, fun there => Or.inl ⟨there, other⟩⟩
      rintro (⟨old, -⟩ | ⟨changed, -, key, rfl⟩)
      · exact old
      · exact absurd key other
  | _ => exact Iff.rfl

end Commands

/-! ### What the replies leave as it is -/

section Beside

variable {w w' : World} {e : Event} {db db' : Database} {lock : Option UUID}

/-- What the replies never write. -/
structure Beside (db db' : Database) : Prop where
  notifications : db'.botNotifications = db.botNotifications
  runs : db'.classificationRuns = db.classificationRuns

theorem Change.beside (change : Change db lock db') : Beside db db' := by
  have version : ∀ {x y : Database} {v}, x.insertReplyVersion v = some y → Beside x y := by
    intro x y v insert
    obtain ⟨versions, -, rfl⟩ := Option.map_eq_some_iff.1 insert
    exact ⟨rfl, rfl⟩
  have command : ∀ {x y : Database} {c}, x.insertOutboundCommand c = some y → Beside x y := by
    intro x y c insert
    unfold Database.insertOutboundCommand at insert
    split at insert
    · cases insert
    · obtain ⟨commands, -, rfl⟩ := Option.map_eq_some_iff.1 insert
      exact ⟨rfl, rfl⟩
  cases change with
  | draft found source insert =>
      obtain ⟨notifications, runs⟩ := version insert
      exact ⟨notifications, runs⟩
  | preview found sent insert => exact version insert
  | confirmedSend found source alone top isDraft stored insert =>
      obtain ⟨notifications, runs⟩ := command insert
      obtain ⟨told, recorded⟩ := version stored
      exact ⟨notifications.trans told, runs.trans recorded⟩
  | confirmedEdit found sent top isDraft target insert => exact command insert
  | completedEdit found pending edit same sentId succeeded insert =>
      obtain ⟨notifications, runs⟩ := version insert
      exact ⟨notifications, runs⟩
  | _ => exact ⟨rfl, rfl⟩

theorem Moves.beside (moves : Moves w e w') : Beside w.db w'.db := by
  cases moves with
  | committed change => exact change.beside
  | closedSend held change => exact change.beside
  | completedEdit held answer insert same succeeded change => exact change.beside
  | failedEdit held answer same failed change => exact change.beside
  | _ => exact ⟨rfl, rfl⟩

/-- The operator's calls and the recovery leave Telegram and the open iterations as they are. -/
theorem step_silent (silent : e.isCall = true ∨ ∃ staleBefore, e = .recoverStale staleBefore)
    (next : step w e = some w') :
    w'.telegram = w.telegram ∧ w'.sending = w.sending ∧ w'.editing = w.editing := by
  cases e with
  | retryFailed commandId now =>
      simp only [step] at next
      split at next
      · simp at next
      · cases next
        exact ⟨rfl, rfl, rfl⟩
  | persisted | claimSend | validateSend | callSend | finishSend | crashSend | claimEdit | callEdit
  | finishEdit | crashEdit =>
      rcases silent with call | ⟨staleBefore, own⟩
      · cases call
      · cases own
  | _ =>
      cases next
      exact ⟨rfl, rfl, rfl⟩

end Beside

end LeadAssistant.ReplyWorkflow
