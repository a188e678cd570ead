/-
Module: LeadAssistant.Workflow.EditHistory
Layer: Workflow
Purpose: The stored reply history against what Telegram shows. An edit reserves its version number
  when it is confirmed; a preview that is stored in between takes that number, and the commit after
  Telegram has applied the edit is refused. Where every applied edit finds its number free, the
  shown text is that of an edit in flight or of the highest published version, which is the
  invariant here.
Trusted boundary: none
Main exports: CleanEdits, NumberFree, Shown, edits_agree, edit_aborted_after_preview
-/
import LeadAssistant.Workflow.Steps
import LeadAssistant.Workflow.Versions

namespace LeadAssistant.ReplyWorkflow

open Relational OutboundCommandRepository Transition

/-- The edit calls considered: each changes nothing and is refused, or returns with the text
applied, and an iteration whose edit was applied goes on to its commit. -/
def World.uncleanEdit (w : World) : Event → Bool
  | .callEdit _ (.ambiguous _ _) => true
  | .crashEdit commandId => (w.editing.get? commandId).any (fun iteration => iteration.applied)
  | _ => false

def CleanEdits (w : World) (e : Event) : Prop := w.uncleanEdit e = false

instance (w : World) (e : Event) : Decidable (CleanEdits w e) :=
  inferInstanceAs (Decidable (_ = false))

/-- The version that an edit would store has a number that another version has. -/
def World.numberTaken (w : World) (command : OutboundCommand) : Bool :=
  w.db.replyVersions.rows.any
    (fun version => version.key = (command.questionId, command.replyVersion))

/-- At the commit of an applied edit its reserved number is still free. -/
def NumberFree (w : World) (e : Event) : Prop :=
  match e with
  | .finishEdit commandId _ => (w.editing.get? commandId).any
      (fun iteration => iteration.applied && w.numberTaken iteration.command) = false
  | _ => True

instance (w : World) (e : Event) : Decidable (NumberFree w e) := by
  unfold NumberFree
  split <;> infer_instance

theorem numberTaken_iff {w : World} {command : OutboundCommand} :
    w.numberTaken command = true ↔ w.db.Taken command := by
  simp [World.numberTaken, Database.Taken]

/-- The text Telegram shows for a question. -/
def World.shownText? (w : World) (questionId : UUID) : Option String :=
  (w.db.detectedQuestions.get? questionId).bind fun question =>
    (w.db.storedSentMessageId questionId).bind fun messageId =>
      (w.telegram.get? (question.telegramChatId, messageId)).map (fun message => message.text)

/-- Telegram shows the text of an applied edit that has not been committed yet. -/
def World.EditInFlight (w : World) (questionId : UUID) : Prop :=
  ∃ edit ∈ w.editing, edit.applied = true ∧ edit.command.questionId = questionId

/-- The message of a send. -/
def World.IsSent (w : World) (chatId : Int) (messageId : Option Int) (questionId : UUID)
    (message : TelegramMessage) : Prop :=
  message ∈ w.telegram ∧ message.questionId = questionId ∧ message.chatId = chatId ∧
    some message.messageId = messageId

/-- A shown text is that of an applied edit in flight; or it is the published one, and every edit
in flight has lost its number. -/
def World.Agrees (w : World) (questionId : UUID) (text : String) : Prop :=
  (∃ edit ∈ w.editing, edit.applied = true ∧ edit.command.questionId = questionId ∧
    edit.command.text = text) ∨
  (w.db.finalText? questionId = some text ∧
    ∀ edit ∈ w.editing, edit.applied = true → edit.command.questionId = questionId →
      w.db.Taken edit.command)

/-- The stored history and Telegram. -/
structure Shown (w : World) : Prop where
  history : History w.db
  unambiguous : ∀ edit ∈ w.editing, edit.applied = true → edit.phase = .answered .returned
  accepted : ∀ iteration ∈ w.sending, iteration.acceptedId?.isSome = true →
    ∃ message, w.IsSent iteration.command.telegramChatId iteration.acceptedId?
      iteration.command.questionId message ∧ message.text = iteration.command.text
  sent : ∀ send ∈ w.db.outboundCommands, send.commandType = .sendReply →
    send.status = .succeeded → ∃ message,
      w.IsSent send.telegramChatId send.sentMessageId send.questionId message ∧
        w.Agrees send.questionId message.text

section Steps

variable {w w' : World}

/-- The claimed row of an open edit. -/
theorem Consistent.edit_row {iteration : EditIteration} (ok : Consistent w)
    (held : iteration ∈ w.editing) :
    ∃ row ∈ w.db.outboundCommands, row.commandType = .editReply ∧
      SameCommand row iteration.command ∧
      iteration.command.sentMessageId = row.sentMessageId := by
  obtain ⟨row, found, _, edit, taken⟩ := ok.edits iteration held
  exact ⟨row, Table.mem_of_get? found, edit, taken.same, taken.sentId⟩

/-- A question with an edit has no unfinished send. -/
theorem Consistent.sent_of_edit {iteration : EditIteration} (ok : Consistent w)
    (held : iteration ∈ w.editing) :
    ∃ send ∈ w.db.outboundCommands, send.commandType = .sendReply ∧
      send.questionId = iteration.command.questionId ∧ send.status = .succeeded ∧
      send.sentMessageId = iteration.command.sentMessageId ∧
      send.telegramChatId = iteration.command.telegramChatId := by
  obtain ⟨row, rowHeld, edit, same, sentId⟩ := ok.edit_row held
  obtain ⟨send, sendHeld, kind, owner, succeeded, target⟩ := ok.coupled.editTarget row rowHeld edit
  refine ⟨send, sendHeld, kind, owner.trans same.questionId.symm, succeeded,
    target.trans sentId.symm, ?_⟩
  have place := ok.coupled.owner send sendHeld
  rw [owner, ok.coupled.owner row rowHeld] at place
  simp only [Option.some.injEq, Prod.mk.injEq] at place
  rw [same.telegramChatId, place.1]

theorem Coupled.sent_of_succeeded {db : Database} {send : OutboundCommand} (coupled : Coupled db)
    (held : send ∈ db.outboundCommands) (isSend : send.commandType = .sendReply)
    (succeeded : send.status = .succeeded) : db.statusOf? send.questionId = some .sent := by
  rw [coupled.sendStatus send held isSend, succeeded]
  rfl

/-- A shown text keeps agreeing while the applied edits and the published text stay. -/
theorem World.Agrees.kept {questionId : UUID} {text : String} (agrees : w.Agrees questionId text)
    (edits : ∀ edit : EditIteration, edit.applied = true →
      (edit ∈ w'.editing ↔ edit ∈ w.editing))
    (final : w'.db.finalText? questionId = w.db.finalText? questionId)
    (versions : ∀ version ∈ w.db.replyVersions, version ∈ w'.db.replyVersions) :
    w'.Agrees questionId text := by
  rcases agrees with ⟨edit, held, applied, owner, same⟩ | ⟨published, lost⟩
  · exact Or.inl ⟨edit, (edits edit applied).2 held, applied, owner, same⟩
  · refine Or.inr ⟨final.trans published, fun edit held applied owner => ?_⟩
    obtain ⟨version, stored, key⟩ := lost edit ((edits edit applied).1 held) applied owner
    exact ⟨version, versions version stored, key⟩

/-- A step that neither calls Telegram nor ends an applied edit. -/
theorem Shown.quiet {lock : Option UUID} (shown : Shown w) (ok : Consistent w)
    (change : Change w.db lock w'.db) (telegram : w'.telegram = w.telegram)
    (sending : ∀ iteration ∈ w'.sending, iteration.acceptedId?.isSome = true →
      iteration ∈ w.sending)
    (edits : ∀ edit : EditIteration, edit.applied = true →
      (edit ∈ w'.editing ↔ edit ∈ w.editing))
    (final : ∀ questionId, w.db.statusOf? questionId = some .sent →
      w'.db.finalText? questionId = w.db.finalText? questionId)
    (sends : ∀ send ∈ w'.db.outboundCommands, send.commandType = .sendReply →
      send.status = .succeeded → lock = some send.id → ∃ message,
        w.IsSent send.telegramChatId send.sentMessageId send.questionId message ∧
          w'.Agrees send.questionId message.text) : Shown w' := by
  refine ⟨change.history ok.coupled shown.history, fun edit held applied => ?_,
    fun iteration held accepted => ?_, fun send held isSend succeeded => ?_⟩
  · exact shown.unambiguous edit ((edits edit applied).1 held) applied
  · obtain ⟨message, isSent, text⟩ :=
      shown.accepted iteration (sending iteration held accepted) accepted
    exact ⟨message, ⟨telegram ▸ isSent.1, isSent.2⟩, text⟩
  · by_cases own : lock = some send.id
    · obtain ⟨message, isSent, agrees⟩ := sends send held isSend succeeded own
      exact ⟨message, ⟨telegram ▸ isSent.1, isSent.2⟩, agrees⟩
    · have old := change.succeeded_before held isSend succeeded own
      obtain ⟨message, isSent, agrees⟩ := shown.sent send old isSend succeeded
      refine ⟨message, ⟨telegram ▸ isSent.1, isSent.2⟩, agrees.kept edits ?_ ?_⟩
      · exact final _ (ok.coupled.sent_of_succeeded old isSend succeeded)
      · exact fun version stored => change.keeps_versions stored

/-- A transaction of the operator. -/
theorem Shown.committed {db' : Database} (shown : Shown w) (ok : Consistent w)
    (change : Change w.db none db') : Shown { w with db := db' } :=
  shown.quiet ok change rfl (fun _ held _ => held) (fun _ _ => Iff.rfl)
    (fun _ sent => change.keeps_finalText (by simp [sent]) (by simp)) (by simp)

/-- The commit of a send: a reply that now counts as sent shows its published text. -/
theorem Shown.closedSend {db' : Database} {iteration : SendIteration} {after : OutboundCommand}
    (shown : Shown w) (ok : Consistent w) (held : iteration ∈ w.sending)
    (change : Change w.db (some iteration.command.id) db')
    (stored : db'.outboundCommands.get? iteration.command.id = some after)
    (same : SameCommand iteration.command after)
    (succeeded : after.status = .succeeded →
      after.sentMessageId.isSome = true ∧ after.sentMessageId = iteration.acceptedId?) :
    Shown (w.closeSend iteration.command.id db') := by
  obtain ⟨row, found, pending, isSend, taken⟩ := ok.sends iteration held
  have rowHeld := Table.mem_of_get? found
  have noEdit : ∀ other : OutboundCommand, some iteration.command.id = some other.id →
      w.db.outboundCommands.get? other.id = some other → other.commandType ≠ .editReply := by
    intro other own foundOther isEdit
    rw [← Option.some.inj own, taken.same.id, found, Option.some.injEq] at foundOther
    rw [← foundOther, isSend] at isEdit
    simp at isEdit
  refine shown.quiet ok change rfl (fun other member _ => (mem_closeSend.1 member).1)
    (fun _ _ => Iff.rfl) (fun _ sent => change.keeps_finalText (by simp [sent]) noEdit) ?_
  intro send member _ done own
  have eq : send = after := by
    have foundSend := Table.get?_of_mem member
    rw [← Option.some.inj own] at foundSend
    exact Option.some.inj (foundSend.symm.trans stored)
  subst eq
  obtain ⟨some_, accepted⟩ := succeeded done
  obtain ⟨message, isSent, text⟩ := shown.accepted iteration held (accepted ▸ some_)
  refine ⟨message, ?_, Or.inr ⟨?_, fun edit editHeld _ owner => ?_⟩⟩
  · rw [accepted, same.telegramChatId, same.questionId]
    exact isSent
  · have published := shown.history.published row rowHeld isSend (by simp [pending])
    have requested := ok.coupled.sendStatus row rowHeld isSend
    rw [text, same.questionId, taken.same.questionId, taken.same.text]
    exact (change.keeps_finalText (by simp [requested, pending, questionStatusOf]) noEdit).trans
      published
  · -- The question had no successful send before, hence no edit.
    obtain ⟨sent, sentHeld, kind, target, finished, _⟩ := ok.sent_of_edit editHeld
    have one := ok.coupled.oneSend sent sentHeld row rowHeld kind isSend
      (target.trans (owner.trans (same.questionId.trans taken.same.questionId)))
    rw [one, pending] at finished
    simp at finished

/-- Telegram accepts a reply: a new message beside those it has. -/
theorem Shown.acceptedSend {answer : SendAnswer} {messageId : Int} {iteration : SendIteration}
    {telegram : Table TelegramMessage.key} (shown : Shown w) (held : iteration ∈ w.sending)
    (accepted : answer.acceptedId? = some messageId)
    (insert : w.telegram.insert? (TelegramMessage.mk iteration.command.telegramChatId messageId
      iteration.command.questionId iteration.command.text) = some telegram)
    (calls : List SendCall) :
    Shown { w.setSendPhase iteration.command.id (.answered answer) with
      sendCalls := calls, telegram := telegram } := by
  have kept : ∀ {chatId messageId questionId message},
      w.IsSent chatId messageId questionId message → message ∈ telegram :=
    fun isSent => (Table.mem_insert? insert).2 (Or.inl isSent.1)
  refine ⟨shown.history, shown.unambiguous, fun other member answered => ?_,
    fun send sendHeld isSend succeeded => ?_⟩
  · rcases (mem_setSendPhase held).1 member with ⟨old, _⟩ | rfl
    · obtain ⟨message, isSent, text⟩ := shown.accepted other old answered
      exact ⟨message, ⟨kept isSent, isSent.2⟩, text⟩
    · exact ⟨_, ⟨(Table.mem_insert? insert).2 (Or.inr rfl), rfl, rfl,
        by simp [SendIteration.acceptedId?, accepted]⟩, rfl⟩
  · obtain ⟨message, isSent, agrees⟩ := shown.sent send sendHeld isSend succeeded
    exact ⟨message, ⟨kept isSent, isSent.2⟩, agrees⟩

/-- Telegram applies an edit: the message of its question, and no other, shows the new text. -/
theorem Shown.appliedEdit {messageId : Int} {iteration : EditIteration}
    (shown : Shown w) (ok : Consistent w) (held : iteration ∈ w.editing)
    (phase : iteration.phase = .claimed)
    (target : iteration.command.sentMessageId = some messageId) :
    Shown { w.setEditPhase iteration.command.id (.answered .returned) with
      telegram := w.telegram.update (iteration.command.telegramChatId, messageId)
        (fun message => { message with text := iteration.command.text }) } := by
  have unapplied : iteration.applied = false := by simp [EditIteration.applied, phase]
  obtain ⟨own, ownHeld, ownSend, owner, done, ownId, ownChat⟩ := ok.sent_of_edit held
  obtain ⟨edited, isEdited, _⟩ := shown.sent own ownHeld ownSend done
  -- Whoever sent the message with this key, it belongs to the question of the edit.
  have belongs : ∀ message ∈ w.telegram,
      message.key = (iteration.command.telegramChatId, messageId) →
        message.questionId = iteration.command.questionId := by
    intro message stored key
    have same : message.key = edited.key := by
      obtain ⟨_, _, chat, sentId⟩ := isEdited
      rw [ownId, target, Option.some.injEq] at sentId
      rw [key, TelegramMessage.key, chat, ownChat, sentId]
    rw [Table.eq_of_key_eq stored isEdited.1 same, isEdited.2.1, owner]
  have others : ∀ {chatId messageId' questionId message},
      w.IsSent chatId messageId' questionId message → questionId ≠ iteration.command.questionId →
        message ∈ w.telegram.update (iteration.command.telegramChatId, messageId)
          (fun message => { message with text := iteration.command.text }) := by
    intro chatId messageId' questionId message isSent ne
    refine Table.mem_update_of_ne isSent.1 fun key => ne ?_
    rw [← isSent.2.1, belongs message isSent.1 key]
  refine ⟨shown.history, fun edit member applied => ?_, fun other member answered => ?_,
    fun send sendHeld isSend succeeded => ?_⟩
  · rcases (mem_setEditPhase held).1 member with ⟨old, _⟩ | rfl
    · exact shown.unambiguous edit old applied
    · rfl
  · obtain ⟨message, isSent, text⟩ := shown.accepted other member answered
    refine ⟨message, ⟨others isSent fun same => ?_, isSent.2⟩, text⟩
    -- An accepted send is not committed, so its question has no edit.
    have requested := ok.requested member
    rw [same, ← owner, ok.coupled.sent_of_succeeded ownHeld ownSend done] at requested
    simp at requested
  · obtain ⟨message, isSent, agrees⟩ := shown.sent send sendHeld isSend succeeded
    by_cases same : send.questionId = iteration.command.questionId
    · have one := ok.coupled.oneSend send sendHeld own ownHeld isSend ownSend
        (same.trans owner.symm)
      have key : message.key = (iteration.command.telegramChatId, messageId) := by
        obtain ⟨_, _, chat, sentId⟩ := isSent
        rw [one, ownId, target, Option.some.injEq] at sentId
        rw [TelegramMessage.key, chat, one, ownChat, sentId]
      have shows : { message with text := iteration.command.text } ∈
          w.telegram.update (iteration.command.telegramChatId, messageId)
            (fun message => { message with text := iteration.command.text }) :=
        Table.mem_update_of_eq isSent.1 key
      exact ⟨_, ⟨shows, isSent.2.1, isSent.2.2⟩, Or.inl
        ⟨{ iteration with phase := .answered .returned }, (mem_setEditPhase held).2 (Or.inr rfl),
          rfl, same.symm, rfl⟩⟩
    · refine ⟨message, ⟨others isSent same, isSent.2⟩, ?_⟩
      rcases agrees with ⟨edit, editHeld, applied, editOwner, text⟩ | ⟨published, lost⟩
      · refine Or.inl ⟨edit, (mem_setEditPhase held).2 (Or.inl ⟨editHeld, fun id => ?_⟩), applied,
          editOwner, text⟩
        rw [Table.eq_of_key_eq editHeld held id, unapplied] at applied
        simp at applied
      · refine Or.inr ⟨published, fun edit member applied editOwner => ?_⟩
        rcases (mem_setEditPhase held).1 member with ⟨old, _⟩ | rfl
        · exact lost edit old applied editOwner
        · exact absurd editOwner.symm same

/-- The row that an edit settles is an edit. -/
theorem editReply_of_settled {iteration : EditIteration} {settling : Database}
    {after send : OutboundCommand} (ok : Consistent w) (held : iteration ∈ w.editing)
    (commands : settling.outboundCommands = w.db.outboundCommands)
    (same : SameCommand iteration.command after)
    (member : send ∈ (settling.putOutboundCommand after).outboundCommands)
    (own : iteration.command.id = send.id) : send.commandType = .editReply := by
  have stored : (settling.outboundCommands.get? after.id).isSome = true := by
    rw [commands, same.id]
    exact (ok.edits iteration held).stored
  have found := get?_putOutboundCommand stored
  rw [same.id, own, Table.get?_of_mem member, Option.some.injEq] at found
  obtain ⟨row, _, isEdit, sameRow, _⟩ := ok.edit_row held
  rw [found, same.commandType, sameRow.commandType, isEdit]

/-- The commit of an applied edit whose number is free: its text is the published one. -/
theorem Shown.completedEdit {iteration : EditIteration} {inserted : Database}
    {after : OutboundCommand} (shown : Shown w) (ok : Consistent w) (held : iteration ∈ w.editing)
    (answer : iteration.phase = .answered .returned)
    (insert : w.db.insertReplyVersion ⟨iteration.command.questionId,
      iteration.command.replyVersion, iteration.command.text, .edited⟩ = some inserted)
    (same : SameCommand iteration.command after)
    (change : Change w.db (some iteration.command.id) (inserted.putOutboundCommand after)) :
    Shown (w.closeEdit iteration.command.id (inserted.putOutboundCommand after)) := by
  obtain ⟨_, commands, fresh, mem⟩ := Database.insertReplyVersion_spec insert
  obtain ⟨row, rowHeld, isEdit, sameRow, _⟩ := ok.edit_row held
  have applied : iteration.applied = true := by
    simp [EditIteration.applied, answer, EditAnswer.applied]
  have free : ¬ w.db.Taken iteration.command := by
    rintro ⟨version, stored, key⟩
    exact fresh version stored key
  have rowFree : ¬ w.db.Taken row := fun taken =>
    free (taken.kept sameRow.questionId sameRow.replyVersion (fun _ stored => stored))
  obtain ⟨_, number, _⟩ := shown.history.reserved row rowHeld isEdit
  have kept : ∀ version ∈ w.db.replyVersions,
      version ∈ (inserted.putOutboundCommand after).replyVersions :=
    fun version stored => (mem version).2 (Or.inl stored)
  refine ⟨change.history ok.coupled shown.history,
    fun edit member => shown.unambiguous edit (mem_closeEdit.1 member).1, shown.accepted,
    fun send sendHeld isSend succeeded => ?_⟩
  have old : send ∈ w.db.outboundCommands := by
    refine change.succeeded_before sendHeld isSend succeeded fun own => ?_
    rw [editReply_of_settled ok held commands same sendHeld (Option.some.inj own)] at isSend
    simp at isSend
  obtain ⟨message, isSent, agrees⟩ := shown.sent send old isSend succeeded
  refine ⟨message, isSent, ?_⟩
  by_cases own : send.questionId = iteration.command.questionId
  · rcases agrees with ⟨edit, editHeld, editApplied, owner, text⟩ | ⟨_, lost⟩
    · by_cases id : edit.command.id = iteration.command.id
      · -- The text shown is this edit's own, and its number is above all others.
        have eq := Table.eq_of_key_eq editHeld held id
        subst eq
        refine Or.inr ⟨?_, fun other member _ otherOwner => ?_⟩
        · let final : ReplyVersion := ⟨edit.command.questionId, edit.command.replyVersion,
            edit.command.text, .edited⟩
          rw [own, ← text]
          refine @Database.finalText?_of_top _ edit.command.questionId final
            ((mem final).2 (Or.inr rfl)) ⟨rfl, Or.inr rfl⟩ fun version stored versionOwner => ?_
          rcases (mem version).1 stored with before | rfl
          · have lt := shown.history.free_is_top (by omega) rowFree version before
              (versionOwner.trans sameRow.questionId)
            rw [← sameRow.replyVersion] at lt
            exact Nat.le_of_lt lt
          · exact Nat.le_refl _
        · obtain ⟨otherHeld, ne⟩ := mem_closeEdit.1 member
          obtain ⟨otherRow, otherRowHeld, otherEdit, otherSame, _⟩ := ok.edit_row otherHeld
          have taken := shown.history.taken_of_other rowHeld isEdit otherRowHeld otherEdit
            (by rw [← otherSame.questionId, otherOwner, own, sameRow.questionId])
            (by rw [← otherSame.id, ← sameRow.id]; exact ne) rowFree
          exact taken.kept otherSame.questionId otherSame.replyVersion kept
      · exact Or.inl ⟨edit, mem_closeEdit.2 ⟨editHeld, id⟩, editApplied, owner, text⟩
    · exact absurd (lost iteration held applied own.symm) free
  · rcases agrees with ⟨edit, editHeld, editApplied, owner, text⟩ | ⟨published, lost⟩
    · refine Or.inl ⟨edit, mem_closeEdit.2 ⟨editHeld, fun id => own ?_⟩, editApplied, owner, text⟩
      rw [← owner, Table.eq_of_key_eq editHeld held id]
    · refine Or.inr ⟨?_, fun edit member editApplied owner => ?_⟩
      · exact (Database.finalText?_insert mem (fun final => own final.1.symm)).trans published
      · exact (lost edit (mem_closeEdit.1 member).1 editApplied owner).kept rfl rfl kept

/-- Closing or advancing an iteration whose edit was not applied keeps the applied ones. -/
theorem applied_of_advance {phase : EditPhase} {iteration : EditIteration}
    (held : iteration ∈ w.editing) (before : iteration.applied = false)
    (after : EditIteration.applied { iteration with phase := phase } = false)
    (edit : EditIteration) (applied : edit.applied = true) :
    edit ∈ (w.setEditPhase iteration.command.id phase).editing ↔ edit ∈ w.editing := by
  rw [mem_setEditPhase held]
  constructor
  · rintro (⟨old, _⟩ | rfl)
    · exact old
    · rw [after] at applied
      exact absurd applied Bool.false_ne_true
  · intro old
    refine Or.inl ⟨old, fun id => ?_⟩
    rw [Table.eq_of_key_eq old held id, before] at applied
    exact absurd applied Bool.false_ne_true

theorem applied_of_close {db' : Database} {iteration : EditIteration}
    (held : iteration ∈ w.editing) (unapplied : iteration.applied = false)
    (edit : EditIteration) (applied : edit.applied = true) :
    edit ∈ (w.closeEdit iteration.command.id db').editing ↔ edit ∈ w.editing := by
  rw [mem_closeEdit]
  refine ⟨And.left, fun old => ⟨old, fun id => ?_⟩⟩
  rw [Table.eq_of_key_eq old held id, unapplied] at applied
  exact absurd applied Bool.false_ne_true

/-- Every clean step that finds its number free keeps history and Telegram in agreement. -/
theorem Shown.step {e : Event} (shown : Shown w) (ok : Consistent w) (clean : CleanEdits w e)
    (free : NumberFree w e) (moves : Moves w e w') : Shown w' := by
  have quietly : ∀ {u : World}, u.db = w.db → u.telegram = w.telegram →
      (∀ iteration ∈ u.sending, iteration.acceptedId?.isSome = true → iteration ∈ w.sending) →
      (∀ edit : EditIteration, edit.applied = true → (edit ∈ u.editing ↔ edit ∈ w.editing)) →
      Shown u := by
    intro u db telegram sending edits
    have unchanged : Change w.db none u.db := db ▸ .idle
    exact shown.quiet ok unchanged telegram sending edits (fun _ _ => by rw [db]) (by simp)
  cases moves with
  | committed change => exact shown.committed ok change
  | @claimedSend _ _ iteration _ _ _ phase insert =>
      refine quietly rfl rfl (fun other member answered => ?_) (fun _ _ => Iff.rfl)
      rcases (Table.mem_insert? insert).1 member with old | rfl
      · exact old
      · simp [SendIteration.acceptedId?, phase] at answered
  | validatedSend held =>
      refine quietly rfl rfl (fun other member answered => ?_) (fun _ _ => Iff.rfl)
      rcases (mem_setSendPhase held).1 member with ⟨old, _⟩ | rfl
      · exact old
      · simp [SendIteration.acceptedId?] at answered
  | refusedSend held _ refused =>
      refine quietly rfl rfl (fun other member answered => ?_) (fun _ _ => Iff.rfl)
      rcases (mem_setSendPhase held).1 member with ⟨old, _⟩ | rfl
      · exact old
      · simp [SendIteration.acceptedId?, refused] at answered
  | acceptedSend held _ accepted insert => exact shown.acceptedSend held accepted insert _
  | closedSend held change stored same succeeded _ =>
      exact shown.closedSend ok held change stored same succeeded
  | abandonedSend held _ =>
      exact quietly rfl rfl (fun _ member _ => (mem_closeSend.1 member).1) (fun _ _ => Iff.rfl)
  | @claimedEdit _ _ iteration _ _ _ phase insert =>
      refine quietly rfl rfl (fun _ member _ => member) (fun edit applied => ?_)
      rw [Table.mem_insert? insert]
      refine ⟨fun member => member.resolve_right ?_, Or.inl⟩
      rintro rfl
      simp [EditIteration.applied, phase] at applied
  | refusedEdit held phase _ refused =>
      refine quietly rfl rfl (fun _ member _ => member) (applied_of_advance held ?_ refused)
      simp [EditIteration.applied, phase]
  | @appliedEdit answer _ _ held phase _ applied target =>
      cases answer with
      | returned => exact shown.appliedEdit ok held phase target
      | refused => simp [EditAnswer.applied] at applied
      | ambiguous => simp [CleanEdits, World.uncleanEdit] at clean
  | completedEdit held answer insert same _ change =>
      exact shown.completedEdit ok held answer insert same change
  | @failedEdit _ iteration after held answer same failed change =>
      have unapplied : iteration.applied = false := by
        by_contra applied
        exact answer (shown.unambiguous iteration held (by simpa using applied))
      refine shown.quiet ok change rfl (fun _ member _ => member)
        (applied_of_close held unapplied) (fun _ _ => rfl) ?_
      intro send member isSend _ own
      rw [editReply_of_settled ok held rfl same member (Option.some.inj own)] at isSend
      simp at isSend
  | @abortedEdit _ iteration held answer taken =>
      have found : w.editing.get? iteration.command.id = some iteration := Table.get?_of_mem held
      have lost := numberTaken_iff.2 (Database.insertReplyVersion_eq_none_iff.1 taken)
      simp [NumberFree, found, EditIteration.applied, answer, EditAnswer.applied, lost] at free
  | @crashedEdit iteration held =>
      have found : w.editing.get? iteration.command.id = some iteration := Table.get?_of_mem held
      simp only [CleanEdits, World.uncleanEdit, found, Option.any_some] at clean
      exact quietly rfl rfl (fun _ member _ => member) (applied_of_close held clean)

end Steps

theorem Shown.of_fresh {w : World} (fresh : w.Fresh) : Shown w where
  history := .of_fresh fresh
  unambiguous edit held := absurd held (fresh.idleEdits edit)
  accepted iteration held := absurd held (fresh.idleSends iteration)
  sent send held := absurd held (fresh.noCommand send)

/-- The agreement is kept over a whole run. -/
theorem shown_of_run {w v : World} {es : List Event} (fresh : w.Fresh)
    (run : Run step (fun w e => CleanEdits w e ∧ NumberFree w e) w es v) : Shown v := by
  induction run with
  | nil => exact .of_fresh fresh
  | snoc before allowed next ih =>
      have ok := consistent_of_run fresh before
      exact ih.step ok allowed.1 allowed.2 (step_moves ok next)

/-- The message an edit targets is the one of the question's send. -/
theorem Coupled.storedSentMessageId_eq {db : Database} {send : OutboundCommand}
    (coupled : Coupled db) (held : send ∈ db.outboundCommands)
    (isSend : send.commandType = .sendReply) (succeeded : send.status = .succeeded) :
    db.storedSentMessageId send.questionId = send.sentMessageId := by
  have sentId := coupled.sentId send held isSend succeeded
  cases found : db.storedSentMessageId send.questionId with
  | some messageId =>
      obtain ⟨other, otherHeld, owner, kind, _, target⟩ := Database.storedSentMessageId_spec found
      rw [coupled.oneSend send held other otherHeld isSend kind owner.symm, target]
  | none =>
      unfold Database.storedSentMessageId at found
      rw [Option.bind_eq_none_iff] at found
      cases top : db.outboundCommands.lastBy (fun command =>
          command.questionId = send.questionId && command.commandType = .sendReply &&
            command.status = .succeeded && command.sentMessageId.isSome)
              (fun command => command.completedAt.getD 0) with
      | none =>
          have skipped := Table.lastBy_eq_none_iff.1 top send held
          simp [isSend, succeeded, sentId] at skipped
      | some other =>
          have chosen := (Table.mem_of_lastBy top).2
          simp [found other top] at chosen

/-- The text shown for a sent question is that of its message. -/
theorem Shown.shownText {w : World} {question : DetectedQuestion} (shown : Shown w)
    (ok : Consistent w) (stored : question ∈ w.db.detectedQuestions)
    (sent : question.status = .sent) :
    ∃ text, w.shownText? question.id = some text ∧ w.Agrees question.id text := by
  obtain ⟨send, held, isSend, status⟩ := (ok.coupled.status_iff stored rfl).1 sent
  have succeeded : send.status = .succeeded := by
    cases left : send.status <;> simp [left, questionStatusOf] at status ⊢
  obtain ⟨message, isSent, agrees⟩ := shown.sent send held isSend.1 succeeded
  have found := Table.get?_of_mem stored
  have place := ok.coupled.owner send held
  rw [isSend.2, Database.placeOf?_of_found found] at place
  simp only [Option.some.injEq, Prod.mk.injEq] at place
  have target := ok.coupled.storedSentMessageId_eq held isSend.1 succeeded
  rw [isSend.2, ← isSent.2.2.2] at target
  have key : message.key = (question.telegramChatId, message.messageId) := by
    rw [TelegramMessage.key, isSent.2.2.1, place.1]
  refine ⟨message.text, ?_, isSend.2 ▸ agrees⟩
  unfold World.shownText?
  rw [found, Option.bind_some, target, Option.bind_some, ← key, Table.get?_of_mem isSent.1]
  rfl

/-- The commit of an applied edit stores its version exactly when its number is free. -/
theorem finishEdit_iff {w u : World} {edit : EditIteration} {now : Time}
    (ok : Consistent w) (held : edit ∈ w.editing) (answer : edit.phase = .answered .returned)
    (next : step w (.finishEdit edit.command.id now) = some u) :
    ((∃ row ∈ u.db.outboundCommands, row.id = edit.command.id ∧ row.status = .succeeded) ∧
      ⟨edit.command.questionId, edit.command.replyVersion, edit.command.text, .edited⟩ ∈
        u.db.replyVersions) ↔ ¬ w.db.Taken edit.command := by
  obtain ⟨command, question, phase⟩ := edit
  obtain rfl : phase = .answered .returned := answer
  have found : w.editing.get? command.id = some ⟨command, question, .answered .returned⟩ :=
    Table.get?_of_mem held
  simp only [step, found, World.finishEdit, settle_returned ok held, Option.some.injEq] at next
  subst next
  have claims := ok.edits _ held
  cases insert : w.db.insertReplyVersion
      ⟨command.questionId, command.replyVersion, command.text, .edited⟩ with
  | none =>
      have taken := Database.insertReplyVersion_eq_none_iff.1 insert
      refine iff_of_false ?_ (fun free => free taken)
      rintro ⟨⟨row, rowHeld, own, succeeded⟩, _⟩
      obtain ⟨pendingRow, foundRow, pending, _, same⟩ := claims
      rw [same.same.id] at own
      rw [Table.eq_of_key_eq rowHeld (Table.mem_of_get? foundRow) own, pending] at succeeded
      simp at succeeded
  | some inserted =>
      obtain ⟨_, commands, fresh, mem⟩ := Database.insertReplyVersion_spec insert
      refine iff_of_true ⟨?_, (mem _).2 (Or.inr rfl)⟩ ?_
      · have stored := claims.stored
        rw [← commands] at stored
        have back : ((inserted.putOutboundCommand { command with
            status := .succeeded, completedAt := some now, lockedAt := none,
            lockedBy := none }).outboundCommands.get? command.id) = some { command with
              status := .succeeded, completedAt := some now, lockedAt := none,
              lockedBy := none } := get?_putOutboundCommand stored
        exact ⟨_, Table.mem_of_get? back, rfl, rfl⟩
      · rintro ⟨version, stored, key⟩
        exact fresh version stored key

/-- In every run of clean edits in which each commit of an applied edit finds the reserved number
free: a sent question without an applied edit in flight shows the text of its highest published
version; and the commit of an applied edit stores its version, with the command succeeded, exactly
when the reserved number is free. -/
theorem edits_agree {w v : World} {es : List Event} (fresh : w.Fresh)
    (run : Run step (fun w e => CleanEdits w e ∧ NumberFree w e) w es v) :
    (∀ question ∈ v.db.detectedQuestions, question.status = .sent → ¬ v.EditInFlight question.id →
      ∃ text, v.shownText? question.id = some text ∧
        v.db.finalText? question.id = some text) ∧
    (∀ edit ∈ v.editing, edit.applied = true → ∀ now u,
      step v (.finishEdit edit.command.id now) = some u →
        (((∃ row ∈ u.db.outboundCommands, row.id = edit.command.id ∧ row.status = .succeeded) ∧
          ⟨edit.command.questionId, edit.command.replyVersion, edit.command.text, .edited⟩ ∈
            u.db.replyVersions) ↔ NumberFree v (.finishEdit edit.command.id now))) := by
  have ok := consistent_of_run fresh run
  have shown := shown_of_run fresh run
  refine ⟨fun question stored sent settled => ?_, fun edit held applied now u next => ?_⟩
  · obtain ⟨text, showing, agrees⟩ := shown.shownText ok stored sent
    refine ⟨text, showing, ?_⟩
    rcases agrees with ⟨edit, held, applied, owner, _⟩ | ⟨published, _⟩
    · exact absurd ⟨edit, held, applied, owner⟩ settled
    · exact published
  · rw [finishEdit_iff ok held (shown.unambiguous edit held applied) next]
    have found : v.editing.get? edit.command.id = some edit := Table.get?_of_mem held
    simp [NumberFree, found, applied, ← numberTaken_iff]

/-- A sent question, its reply edited. -/
def sampleEdit : List Event :=
  sampleDraft ++ sampleCall ++ [.finishSend 20 0, .prepareEdit 7 "With make.", .confirmEdit 7 21 1,
    .claimEdit "listener" 1, .callEdit 21 .returned, .finishEdit 21 1]

theorem edits_agree_sample : ∃ v : World, v.shownText? 7 = some "With make." ∧
    v.db.finalText? 7 = some "With make." := by
  have computed : (exec step (fun w e => CleanEdits w e ∧ NumberFree w e) sampleWorld
      sampleEdit).map (fun v => (v.editing.rows.length,
        (v.db.detectedQuestions.get? 7).map (fun question => question.status),
        v.shownText? 7)) = some (0, some .sent, some "With make.") := by decide +kernel
  obtain ⟨v, run, value⟩ := Run.exists_of_exec computed
  simp only [Prod.mk.injEq, List.length_eq_zero_iff] at value
  obtain ⟨idle, sent, shown⟩ := value
  obtain ⟨question, found, status⟩ := Option.map_eq_some_iff.1 sent
  have settled : ¬ v.EditInFlight question.id := by
    rintro ⟨edit, held, _⟩
    have listed : edit ∈ v.editing.rows := held
    rw [idle] at listed
    exact absurd listed List.not_mem_nil
  obtain ⟨text, showing, published⟩ :=
    (edits_agree sampleWorld_fresh run).1 question (Table.mem_of_get? found) status settled
  rw [show question.id = 7 from Table.key_of_get? found] at showing published
  rw [shown, Option.some.injEq] at showing
  exact ⟨v, shown, showing ▸ published⟩

/-- A second preview takes the number that the confirmed edit has reserved. Telegram applies the
edit, its commit is refused, and the stored history ends with the reply as it was first sent. -/
theorem edit_aborted_after_preview : sampleWorld.Fresh ∧ ∃ v : World,
    Run step CleanEdits sampleWorld (sampleDraft ++ sampleCall ++ [.finishSend 20 0,
      .prepareEdit 7 "With make.", .confirmEdit 7 21 1, .prepareEdit 7 "With ninja.",
      .claimEdit "listener" 1, .callEdit 21 .returned, .finishEdit 21 1]) v ∧
    v.editing.rows.length = 0 ∧ v.db.statusOf? 7 = some .sent ∧
    v.shownText? 7 = some "With make." ∧ v.db.finalText? 7 = some "With the script." ∧
    (v.db.outboundCommands.get? 21).map (fun command => command.status) = some .pending := by
  have computed : (exec step CleanEdits sampleWorld (sampleDraft ++ sampleCall ++ [.finishSend 20 0,
      .prepareEdit 7 "With make.", .confirmEdit 7 21 1, .prepareEdit 7 "With ninja.",
      .claimEdit "listener" 1, .callEdit 21 .returned, .finishEdit 21 1])).map
        (fun v => (v.editing.rows.length, v.db.statusOf? 7, v.shownText? 7, v.db.finalText? 7,
          (v.db.outboundCommands.get? 21).map (fun command => command.status))) =
      some (0, some .sent, some "With make.", some "With the script.", some .pending) := by
    decide +kernel
  obtain ⟨v, run, value⟩ := Run.exists_of_exec computed
  simp only [Prod.mk.injEq] at value
  exact ⟨sampleWorld_fresh, v, run, value⟩

end LeadAssistant.ReplyWorkflow
