/-
Module: LeadAssistant.Workflow.Coupling
Layer: Workflow
Purpose: The coupling of questions and outbound commands. `Coupled` relates the two tables through
  the status and the destination of a question; every committed transaction keeps it, by cases on
  what it did.
Trusted boundary: none
Main exports: Coupled, Coupled.put, Coupled.add, Coupled.recover, Change.coupled
-/
import LeadAssistant.Workflow.Changes

namespace LeadAssistant.ReplyWorkflow

open Relational OutboundCommandRepository

theorem not_isDrafting_questionStatusOf {status : OutboundCommandStatus} :
    isDrafting (questionStatusOf status) = false := by
  cases status <;> rfl

/-- The coupling of questions and commands. -/
structure Coupled (db : Database) : Prop where
  /-- Every command belongs to a stored question and goes where that question was asked. -/
  owner : ∀ command ∈ db.outboundCommands, db.placeOf? command.questionId =
    some (command.telegramChatId, command.sourceMessageId, command.topicId)
  oneSend : ∀ a ∈ db.outboundCommands, ∀ b ∈ db.outboundCommands,
    a.commandType = .sendReply → b.commandType = .sendReply → a.questionId = b.questionId → a = b
  sendStatus : ∀ command ∈ db.outboundCommands, command.commandType = .sendReply →
    db.statusOf? command.questionId = some (questionStatusOf command.status)
  sentId : ∀ command ∈ db.outboundCommands, command.commandType = .sendReply →
    command.status = .succeeded → command.sentMessageId.isSome = true
  drafting : ∀ questionId status, db.statusOf? questionId = some status →
    (∀ command ∈ db.outboundCommands, command.questionId = questionId →
      command.commandType ≠ .sendReply) → isDrafting status = true
  editTarget : ∀ edit ∈ db.outboundCommands, edit.commandType = .editReply →
    ∃ send ∈ db.outboundCommands, send.commandType = .sendReply ∧
      send.questionId = edit.questionId ∧ send.status = .succeeded ∧
      send.sentMessageId = edit.sentMessageId

namespace Coupled

variable {db db' : Database}

/-- Only the questions' statuses and destinations and the commands matter. -/
theorem congr (coupled : Coupled db) (commands : db'.outboundCommands = db.outboundCommands)
    (status : ∀ id, db'.statusOf? id = db.statusOf? id)
    (place : ∀ id, db'.placeOf? id = db.placeOf? id) : Coupled db' where
  owner command held := by
    rw [place]
    exact coupled.owner command (commands ▸ held)
  oneSend a ha b hb := coupled.oneSend a (commands ▸ ha) b (commands ▸ hb)
  sendStatus command held send := by
    rw [status]
    exact coupled.sendStatus command (commands ▸ held) send
  sentId command held := coupled.sentId command (commands ▸ held)
  drafting id st found unsent := by
    rw [status] at found
    rw [commands] at unsent
    exact coupled.drafting id st found unsent
  editTarget edit held isEdit := by
    rw [commands] at held ⊢
    exact coupled.editTarget edit held isEdit

theorem congr_tables (coupled : Coupled db)
    (questions : db'.detectedQuestions = db.detectedQuestions)
    (commands : db'.outboundCommands = db.outboundCommands) : Coupled db' :=
  coupled.congr commands (fun id => by simp [Database.statusOf?, questions])
    (fun id => by simp [Database.placeOf?, questions])

/-- A question with a send command is past drafting. -/
theorem not_drafting (coupled : Coupled db) {question : DetectedQuestion}
    (found : db.detectedQuestions.get? question.id = some question)
    (source : isDrafting question.status = true) :
    ∀ command ∈ db.outboundCommands, command.questionId = question.id →
      command.commandType ≠ .sendReply := by
  intro command held owner send
  have status := coupled.sendStatus command held send
  rw [owner, Database.statusOf?_of_found found] at status
  simp only [Option.some.injEq] at status
  rw [status, not_isDrafting_questionStatusOf] at source
  exact Bool.false_ne_true source

/-- Moving a question between drafting statuses. -/
theorem redraft (coupled : Coupled db) {question : DetectedQuestion} {status : QuestionStatus}
    (found : db.detectedQuestions.get? question.id = some question)
    (source : isDrafting question.status = true) (target : isDrafting status = true) :
    Coupled (db.setQuestionStatus question.id status) := by
  have unsent := coupled.not_drafting found source
  refine ⟨?_, coupled.oneSend, ?_, coupled.sentId, ?_, coupled.editTarget⟩
  · intro command held
    rw [Database.placeOf?_setQuestionStatus]
    exact coupled.owner command held
  · intro command held send
    rw [Database.statusOf?_setQuestionStatus, if_neg (fun eq => unsent command held eq send)]
    exact coupled.sendStatus command held send
  · intro id st found' none
    rw [Database.statusOf?_setQuestionStatus] at found'
    split at found'
    · obtain ⟨_, _, rfl⟩ := Option.map_eq_some_iff.1 found'
      exact target
    · exact coupled.drafting id st found' none

/-- A row replaced by a later state of its command; a send takes its question along. -/
theorem put (coupled : Coupled db) {row after : OutboundCommand}
    (found : db.outboundCommands.get? row.id = some row) (same : SameCommand row after)
    (mem : ∀ x, x ∈ db'.outboundCommands ↔
      (x ∈ db.outboundCommands ∧ x.id ≠ row.id) ∨ x = after)
    (place : ∀ id, db'.placeOf? id = db.placeOf? id)
    (statuses : ∀ id, db'.statusOf? id =
      if row.commandType = .sendReply ∧ id = row.questionId then
        some (questionStatusOf after.status)
      else db.statusOf? id)
    (edit : row.commandType = .editReply → after.sentMessageId = row.sentMessageId)
    (unsettled : row.commandType = .sendReply → row.status ≠ .succeeded)
    (sent : row.commandType = .sendReply → after.status = .succeeded →
      after.sentMessageId.isSome = true) : Coupled db' := by
  have held := Table.mem_of_get? found
  refine ⟨?_, ?_, ?_, ?_, ?_, ?_⟩
  · intro command member
    rw [place]
    rcases (mem command).1 member with ⟨old, _⟩ | rfl
    · exact coupled.owner command old
    · rw [same.questionId, same.telegramChatId, same.sourceMessageId, same.topicId]
      exact coupled.owner row held
  · intro a ha b hb sendA sendB owner
    rcases (mem a).1 ha with ⟨oldA, neA⟩ | rfl <;> rcases (mem b).1 hb with ⟨oldB, neB⟩ | rfl
    · exact coupled.oneSend a oldA b oldB sendA sendB owner
    · rw [same.commandType] at sendB
      rw [same.questionId] at owner
      exact absurd (congrArg _ (coupled.oneSend a oldA row held sendA sendB owner)) neA
    · rw [same.commandType] at sendA
      rw [same.questionId] at owner
      exact absurd (congrArg _ (coupled.oneSend b oldB row held sendB sendA owner.symm)) neB
    · rfl
  · intro command member send
    rw [statuses]
    rcases (mem command).1 member with ⟨old, ne⟩ | rfl
    · rw [if_neg]
      · exact coupled.sendStatus command old send
      · rintro ⟨kind, owner⟩
        exact ne (congrArg _ (coupled.oneSend command old row held send kind owner))
    · rw [if_pos ⟨same.commandType.symm.trans send, same.questionId⟩]
  · intro command member send succeeded
    rcases (mem command).1 member with ⟨old, _⟩ | rfl
    · exact coupled.sentId command old send succeeded
    · exact sent (same.commandType.symm.trans send) succeeded
  · intro id st found' none
    have unsent : ∀ command ∈ db.outboundCommands, command.questionId = id →
        command.commandType ≠ .sendReply := by
      intro command old owner send
      by_cases self : command.id = row.id
      · have eq := Table.eq_of_key_eq old held self
        subst eq
        exact none after ((mem after).2 (Or.inr rfl)) (same.questionId.trans owner)
          (same.commandType.trans send)
      · exact none command ((mem command).2 (Or.inl ⟨old, self⟩)) owner send
    rw [statuses, if_neg (fun own => unsent row held own.2.symm own.1)] at found'
    exact coupled.drafting id st found' unsent
  · intro command member isEdit
    have target : ∃ send ∈ db.outboundCommands, send.commandType = .sendReply ∧
        send.questionId = command.questionId ∧ send.status = .succeeded ∧
        send.sentMessageId = command.sentMessageId := by
      rcases (mem command).1 member with ⟨old, _⟩ | rfl
      · exact coupled.editTarget command old isEdit
      · rw [same.commandType] at isEdit
        rw [same.questionId, edit isEdit]
        exact coupled.editTarget row held isEdit
    obtain ⟨send, old, kind, owner, succeeded, sentId⟩ := target
    refine ⟨send, (mem send).2 (Or.inl ⟨old, ?_⟩), kind, owner, succeeded, sentId⟩
    intro self
    have eq := Table.eq_of_key_eq old held self
    subst eq
    exact unsettled kind succeeded

/-- A new command for a question with the right destination. -/
theorem add (coupled : Coupled db) {command : OutboundCommand}
    (mem : ∀ x, x ∈ db'.outboundCommands ↔ x ∈ db.outboundCommands ∨ x = command)
    (place : ∀ id, db'.placeOf? id = db.placeOf? id)
    (goes : db.placeOf? command.questionId =
      some (command.telegramChatId, command.sourceMessageId, command.topicId))
    (statuses : ∀ id, db'.statusOf? id =
      if command.commandType = .sendReply ∧ id = command.questionId then
        some (questionStatusOf command.status)
      else db.statusOf? id)
    (first : command.commandType = .sendReply → command.status ≠ .succeeded ∧
      ∀ other ∈ db.outboundCommands, other.questionId = command.questionId →
        other.commandType ≠ .sendReply)
    (edit : command.commandType = .editReply → ∃ send ∈ db.outboundCommands,
      send.commandType = .sendReply ∧ send.questionId = command.questionId ∧
        send.status = .succeeded ∧ send.sentMessageId = command.sentMessageId) :
    Coupled db' := by
  refine ⟨?_, ?_, ?_, ?_, ?_, ?_⟩
  · intro other member
    rw [place]
    rcases (mem other).1 member with old | rfl
    · exact coupled.owner other old
    · exact goes
  · intro a ha b hb sendA sendB owner
    rcases (mem a).1 ha with oldA | rfl <;> rcases (mem b).1 hb with oldB | rfl
    · exact coupled.oneSend a oldA b oldB sendA sendB owner
    · exact absurd sendA ((first sendB).2 a oldA owner)
    · exact absurd sendB ((first sendA).2 b oldB owner.symm)
    · rfl
  · intro other member send
    rw [statuses]
    rcases (mem other).1 member with old | rfl
    · rw [if_neg (fun own => (first own.1).2 other old own.2 send)]
      exact coupled.sendStatus other old send
    · rw [if_pos ⟨send, rfl⟩]
  · intro other member send succeeded
    rcases (mem other).1 member with old | rfl
    · exact coupled.sentId other old send succeeded
    · exact absurd succeeded (first send).1
  · intro id st found none
    rw [statuses, if_neg] at found
    · exact coupled.drafting id st found (fun other old => none other ((mem other).2 (Or.inl old)))
    · rintro ⟨send, owner⟩
      exact none command ((mem command).2 (Or.inr rfl)) owner.symm send
  · intro other member isEdit
    have target : ∃ send ∈ db.outboundCommands, send.commandType = .sendReply ∧
        send.questionId = other.questionId ∧ send.status = .succeeded ∧
        send.sentMessageId = other.sentMessageId := by
      rcases (mem other).1 member with old | rfl
      · exact coupled.editTarget other old isEdit
      · exact edit isEdit
    obtain ⟨send, old, facts⟩ := target
    exact ⟨send, (mem send).2 (Or.inl old), facts⟩

/-- `recover_stale` moves stale sends and their questions together. -/
theorem recover (coupled : Coupled db) (staleBefore : Time) :
    Coupled (recoverStale staleBefore db) := by
  have mem : ∀ x, x ∈ (recoverStale staleBefore db).outboundCommands →
      (x ∈ db.outboundCommands ∧ isStale staleBefore x = false) ∨
        ∃ row ∈ db.outboundCommands, isStale staleBefore row = true ∧ SameCommand row x ∧
          x.status = .needsReview ∧ x.sentMessageId = row.sentMessageId := by
    intro x member
    rcases mem_recoverStale.1 member with kept | ⟨row, held, stale, rfl⟩
    · exact Or.inl kept
    · exact Or.inr ⟨row, held, stale, ⟨rfl, rfl, rfl, rfl, rfl, rfl, rfl, rfl, rfl⟩, rfl, rfl⟩
  have before : ∀ x ∈ (recoverStale staleBefore db).outboundCommands,
      ∃ row ∈ db.outboundCommands, SameCommand row x := by
    intro x member
    rcases mem x member with ⟨old, _⟩ | ⟨row, old, _, same, _⟩
    · exact ⟨x, old, rfl, rfl, rfl, rfl, rfl, rfl, rfl, rfl, rfl⟩
    · exact ⟨row, old, same⟩
  refine ⟨?_, ?_, ?_, ?_, ?_, ?_⟩
  · intro command member
    obtain ⟨row, old, same⟩ := before command member
    rw [Database.placeOf?_recoverStale, same.questionId, same.telegramChatId,
      same.sourceMessageId, same.topicId]
    exact coupled.owner row old
  · intro a ha b hb sendA sendB owner
    obtain ⟨rowA, oldA, sameA⟩ := before a ha
    obtain ⟨rowB, oldB, sameB⟩ := before b hb
    have rows := coupled.oneSend rowA oldA rowB oldB (sameA.commandType.symm.trans sendA)
      (sameB.commandType.symm.trans sendB)
      (by rw [← sameA.questionId, owner, sameB.questionId])
    exact Table.eq_of_key_eq ha hb (by rw [sameA.id, sameB.id, rows])
  · intro command member send
    rw [Database.statusOf?_recoverStale]
    rcases mem command member with ⟨old, fresh⟩ | ⟨row, old, stale, same, status, _⟩
    · rw [if_neg]
      · exact coupled.sendStatus command old send
      · intro listed
        obtain ⟨other, held, kind, owner, stale⟩ := mem_staleSendQuestions.1 listed
        rw [coupled.oneSend other held command old kind send owner, fresh] at stale
        exact Bool.false_ne_true stale
    · have kind := same.commandType.symm.trans send
      have listed := mem_staleSendQuestions.2 ⟨row, old, kind, same.questionId.symm, stale⟩
      rw [if_pos listed, same.questionId, coupled.sendStatus row old kind, status]
      rfl
  · intro command member send succeeded
    rcases mem command member with ⟨old, _⟩ | ⟨_, _, _, _, status, _⟩
    · exact coupled.sentId command old send succeeded
    · rw [status] at succeeded
      simp at succeeded
  · intro id st found none
    have unsent : ∀ command ∈ db.outboundCommands, command.questionId = id →
        command.commandType ≠ .sendReply := by
      intro command old owner send
      cases stale : isStale staleBefore command with
      | false => exact none command (mem_recoverStale.2 (Or.inl ⟨old, stale⟩)) owner send
      | true =>
          exact none _ (mem_recoverStale.2 (Or.inr ⟨command, old, stale, rfl⟩)) owner send
    rw [Database.statusOf?_recoverStale, if_neg] at found
    · exact coupled.drafting id st found unsent
    · intro listed
      obtain ⟨command, held, send, owner, _⟩ := mem_staleSendQuestions.1 listed
      exact unsent command held owner send
  · intro command member isEdit
    have target : ∃ send ∈ db.outboundCommands, send.commandType = .sendReply ∧
        send.questionId = command.questionId ∧ send.status = .succeeded ∧
        send.sentMessageId = command.sentMessageId := by
      rcases mem command member with ⟨old, _⟩ | ⟨row, old, _, same, _, sentId⟩
      · exact coupled.editTarget command old isEdit
      · rw [same.questionId, sentId]
        exact coupled.editTarget row old (same.commandType.symm.trans isEdit)
    obtain ⟨send, old, kind, owner, succeeded, sentId⟩ := target
    refine ⟨send, mem_recoverStale.2 (Or.inl ⟨old, ?_⟩), kind, owner, succeeded, sentId⟩
    simp [isStale, succeeded]

/-- A question that the pipeline stores is new to both tables. -/
theorem arrive (coupled : Coupled db) {question : DetectedQuestion}
    {questions : Table DetectedQuestion.id} (detected : question.status = .detected)
    (insert : db.detectedQuestions.insert? question = some questions) :
    Coupled (db.setDetectedQuestions questions) := by
  have others : ∀ command ∈ db.outboundCommands, command.questionId ≠ question.id := by
    intro command held owner
    have place := coupled.owner command held
    rw [owner] at place
    obtain ⟨old, found, _⟩ := Option.map_eq_some_iff.1 place
    rw [Table.get?_eq_some_iff] at found
    exact Table.fresh_of_insert? insert old found.1 found.2
  refine ⟨?_, coupled.oneSend, ?_, coupled.sentId, ?_, coupled.editTarget⟩
  · intro command held
    rw [Database.placeOf?_arrived insert (others command held)]
    exact coupled.owner command held
  · intro command held send
    rw [Database.statusOf?_arrived insert, if_neg (others command held)]
    exact coupled.sendStatus command held send
  · intro id st found unsent
    rw [Database.statusOf?_arrived insert] at found
    split at found
    · simp only [detected, Option.some.injEq] at found
      subst found
      rfl
    · exact coupled.drafting id st found unsent

end Coupled

/-- Every committed transaction keeps the coupling. -/
theorem Change.coupled {db db' : Database} {lock : Option UUID} (change : Change db lock db')
    (coupled : Coupled db) : Coupled db' := by
  cases change with
  | idle => exact coupled
  | arrived detected insert => exact coupled.arrive detected insert
  | removedChat => exact coupled.congr rfl (fun _ => by simp) (fun _ => by simp)
  | redraft found source target => exact coupled.redraft found source target
  | draft found source insert =>
      obtain ⟨questions, commands, _, _⟩ := Database.insertReplyVersion_spec insert
      exact (coupled.congr_tables questions commands).redraft (questions ▸ found) source rfl
  | preview _ _ insert =>
      obtain ⟨questions, commands, _, _⟩ := Database.insertReplyVersion_spec insert
      exact coupled.congr_tables questions commands
  | @confirmedSend question shown versioned inserted newId now found source alone _ _ version
      insert =>
      obtain ⟨questions, commands, _, _⟩ := Database.insertReplyVersion_spec version
      obtain ⟨questions', _, _, mem⟩ := Database.insertOutboundCommand_spec insert
      rw [commands] at mem
      have status : ∀ id, inserted.statusOf? id = db.statusOf? id := fun id => by
        simp [Database.statusOf?, questions', questions]
      refine coupled.add mem (fun id => ?_) (Database.placeOf?_of_found found)
        (fun id => ?_) (fun _ => ⟨by simp [newSendCommand], fun other held owner send => ?_⟩)
        (fun isEdit => by simp [newSendCommand] at isEdit)
      · rw [Database.placeOf?_setQuestionStatus]
        simp [Database.placeOf?, questions', questions]
      · rw [Database.statusOf?_setQuestionStatus, status]
        by_cases own : id = question.id
        · subst own
          simp [newSendCommand, questionStatusOf, Database.statusOf?_of_found found]
        · simp [newSendCommand, own]
      · have absent := List.find?_eq_none.1 alone other held
        simp only [newSendCommand] at owner
        simp [owner, send] at absent
  | @confirmedEdit question shown inserted newId now sentMessageId found sent _ _ target insert =>
      obtain ⟨questions, _, _, mem⟩ := Database.insertOutboundCommand_spec insert
      obtain ⟨send, held, owner, kind, succeeded, sentId⟩ :=
        Database.storedSentMessageId_spec target
      refine coupled.add mem (fun id => ?_) (Database.placeOf?_of_found found) (fun id => ?_)
        (fun isSend => by simp [newEditCommand] at isSend)
        (fun _ => ⟨send, held, kind, owner, succeeded, sentId⟩)
      · simp [Database.placeOf?, questions]
      · simp [newEditCommand, Database.statusOf?, questions]
  | @retriedEdit row after found failed edit same sentId _ =>
      refine coupled.put found same (fun x => mem_putOutboundCommand found same) (fun _ => rfl)
        (fun id => ?_) (fun _ => sentId) (fun send => ?_) (fun send => ?_)
      · simp [edit]
      · rw [failed]
        simp
      · simp [edit] at send
  | recovered staleBefore => exact coupled.recover staleBefore
  | @retriedSend row after chats found pending send same sentId again =>
      have status := coupled.sendStatus row (Table.mem_of_get? found) send
      refine coupled.put found same (fun x => mem_putOutboundCommand found same) (fun _ => rfl)
        (fun id => ?_) (fun edit => ?_) (fun _ => ?_) (fun _ succeeded => ?_)
      · by_cases own : id = row.questionId
        · subst own
          simp [send, status, pending, again]
        · simp [own]
      · simp [edit] at send
      · simp [pending]
      · simp [again] at succeeded
  | @settledSend row after chats found pending send same terminal sentId =>
      have status := coupled.sendStatus row (Table.mem_of_get? found) send
      refine coupled.put found same (fun x => ?_) (fun id => ?_) (fun id => ?_) (fun edit => ?_)
        (fun _ => by simp [pending]) (fun _ => sentId)
      · rw [setQuestionStatus_commands]
        exact mem_putOutboundCommand found same
      · simp
      · rw [Database.statusOf?_setQuestionStatus]
        by_cases own : id = row.questionId
        · subst own
          simp [send, status]
        · simp [own]
      · simp [edit] at send
  | @failedEdit row after found pending edit same sentId _ =>
      refine coupled.put found same (fun x => mem_putOutboundCommand found same) (fun _ => rfl)
        (fun id => ?_) (fun _ => sentId) (fun send => ?_) (fun send => ?_)
      · simp [edit]
      · simp [pending]
      · simp [edit] at send
  | @completedEdit row after inserted found pending edit same sentId _ insert =>
      obtain ⟨questions, commands, _, _⟩ := Database.insertReplyVersion_spec insert
      refine (coupled.congr_tables questions commands).put (commands ▸ found) same
        (fun x => mem_putOutboundCommand (commands ▸ found) same) (fun _ => rfl)
        (fun id => ?_) (fun _ => sentId) (fun send => ?_) (fun send => ?_)
      · simp [edit]
      · simp [pending]
      · simp [edit] at send

end LeadAssistant.ReplyWorkflow
