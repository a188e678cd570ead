/-
Module: LeadAssistant.Repositories.Views
Layer: Repositories
Purpose: What the workflow reads of a question: its status and where its reply goes. Each statement
  of the repositories has one lemma on each view, so proofs about statuses never look at rows.
Trusted boundary: none
Main exports: Database.statusOf?, Database.placeOf?, Database.storedSentMessageId_spec
-/
import LeadAssistant.Repositories.OutboundCommands

namespace LeadAssistant.Database

open Relational OutboundCommandRepository

/-- The status of a question. -/
def statusOf? (db : Database) (questionId : UUID) : Option QuestionStatus :=
  (db.detectedQuestions.get? questionId).map (fun question => question.status)

/-- Where the reply to a question goes: chat, source message and topic. -/
def placeOf? (db : Database) (questionId : UUID) : Option (Int × Int × Option Int) :=
  (db.detectedQuestions.get? questionId).map
    (fun question => (question.telegramChatId, question.telegramMessageId, question.topicId))

section Views

variable {db : Database} {questionId id : UUID}

theorem statusOf?_setQuestionStatus {status : QuestionStatus} :
    (db.setQuestionStatus questionId status).statusOf? id =
      if id = questionId then (db.statusOf? id).map (fun _ => status) else db.statusOf? id := by
  unfold statusOf? setQuestionStatus
  rw [Table.get?_update]
  split <;> simp [Function.comp_def]

@[simp] theorem placeOf?_setQuestionStatus {status : QuestionStatus} :
    (db.setQuestionStatus questionId status).placeOf? id = db.placeOf? id := by
  unfold placeOf? setQuestionStatus
  rw [Table.get?_update]
  split <;> simp [Function.comp_def]

@[simp] theorem statusOf?_remove {chatId : UUID} :
    (MonitoredChatRepository.remove chatId db).statusOf? id = db.statusOf? id := by
  unfold statusOf? MonitoredChatRepository.remove
  rw [Table.get?_updateWhere, Option.map_map]
  congr 1
  funext question
  simp only [Function.comp]
  split <;> rfl

@[simp] theorem placeOf?_remove {chatId : UUID} :
    (MonitoredChatRepository.remove chatId db).placeOf? id = db.placeOf? id := by
  unfold placeOf? MonitoredChatRepository.remove
  rw [Table.get?_updateWhere, Option.map_map]
  congr 1
  funext question
  simp only [Function.comp]
  split <;> rfl

@[simp] theorem statusOf?_putOutboundCommand {command : OutboundCommand} :
    (db.putOutboundCommand command).statusOf? id = db.statusOf? id := rfl

@[simp] theorem placeOf?_putOutboundCommand {command : OutboundCommand} :
    (db.putOutboundCommand command).placeOf? id = db.placeOf? id := rfl

@[simp] theorem statusOf?_setMonitoredChats {chats : Table MonitoredChat.id} :
    (db.setMonitoredChats chats).statusOf? id = db.statusOf? id := rfl

@[simp] theorem placeOf?_setMonitoredChats {chats : Table MonitoredChat.id} :
    (db.setMonitoredChats chats).placeOf? id = db.placeOf? id := rfl

theorem statusOf?_of_found {question : DetectedQuestion}
    (found : db.detectedQuestions.get? questionId = some question) :
    db.statusOf? questionId = some question.status := by
  simp [statusOf?, found]

theorem placeOf?_of_found {question : DetectedQuestion}
    (found : db.detectedQuestions.get? questionId = some question) :
    db.placeOf? questionId =
      some (question.telegramChatId, question.telegramMessageId, question.topicId) := by
  simp [placeOf?, found]

theorem statusOf?_arrived {question : DetectedQuestion} {questions : Table DetectedQuestion.id}
    (insert : db.detectedQuestions.insert? question = some questions) :
    (db.setDetectedQuestions questions).statusOf? id =
      if id = question.id then some question.status else db.statusOf? id := by
  unfold statusOf? setDetectedQuestions
  rw [Table.get?_insert? insert]
  split <;> rfl

theorem placeOf?_arrived {question : DetectedQuestion} {questions : Table DetectedQuestion.id}
    (insert : db.detectedQuestions.insert? question = some questions) (ne : id ≠ question.id) :
    (db.setDetectedQuestions questions).placeOf? id = db.placeOf? id := by
  unfold placeOf? setDetectedQuestions
  rw [Table.get?_insert? insert, if_neg ne]

/-- A recovered send moves its question; every other status stays. -/
theorem statusOf?_recoverStale {staleBefore : Time} :
    (recoverStale staleBefore db).statusOf? id =
      if id ∈ staleSendQuestions staleBefore db then (db.statusOf? id).map (fun _ => .sendFailed)
      else db.statusOf? id := by
  unfold statusOf? recoverStale
  rw [Table.get?_updateWhere, Option.map_map]
  cases found : db.detectedQuestions.get? id with
  | none => simp
  | some question =>
      have same : question.id = id := Table.key_of_get? found
      subst same
      simp only [Option.map_some, Function.comp, decide_eq_true_eq]
      split <;> rfl

@[simp] theorem placeOf?_recoverStale {staleBefore : Time} :
    (recoverStale staleBefore db).placeOf? id = db.placeOf? id := by
  unfold placeOf? recoverStale
  rw [Table.get?_updateWhere, Option.map_map]
  congr 1
  funext question
  simp only [Function.comp]
  split <;> rfl

end Views

section Inserts

variable {db db' : Database}

/-- An accepted version is new, and nothing else changes. -/
theorem insertReplyVersion_spec {version : ReplyVersion}
    (insert : db.insertReplyVersion version = some db') :
    db'.detectedQuestions = db.detectedQuestions ∧
      db'.outboundCommands = db.outboundCommands ∧
      (∀ other ∈ db.replyVersions, other.key ≠ version.key) ∧
      ∀ x, x ∈ db'.replyVersions ↔ x ∈ db.replyVersions ∨ x = version := by
  unfold Database.insertReplyVersion at insert
  obtain ⟨versions, inserted, rfl⟩ := Option.map_eq_some_iff.1 insert
  exact ⟨rfl, rfl, Table.fresh_of_insert? inserted, fun x => Table.mem_insert? inserted⟩

/-- An accepted command is new in both of its keys. -/
theorem insertOutboundCommand_spec {command : OutboundCommand}
    (insert : db.insertOutboundCommand command = some db') :
    db'.detectedQuestions = db.detectedQuestions ∧ db'.replyVersions = db.replyVersions ∧
      (∀ other ∈ db.outboundCommands,
        other.id ≠ command.id ∧ other.idempotencyKey ≠ command.idempotencyKey) ∧
      ∀ x, x ∈ db'.outboundCommands ↔ x ∈ db.outboundCommands ∨ x = command := by
  unfold Database.insertOutboundCommand at insert
  split at insert
  · simp at insert
  · rename_i free
    simp only [List.any_eq_true, decide_eq_true_eq, not_exists, not_and, Table.mem_rows] at free
    obtain ⟨commands, inserted, rfl⟩ := Option.map_eq_some_iff.1 insert
    exact ⟨rfl, rfl, fun other held => ⟨Table.fresh_of_insert? inserted other held,
      free other held⟩, fun x => Table.mem_insert? inserted⟩

end Inserts

/-- The destination of the successful send that an edit changes. -/
theorem storedSentMessageId_spec {db : Database} {questionId : UUID} {messageId : Int}
    (found : db.storedSentMessageId questionId = some messageId) :
    ∃ send ∈ db.outboundCommands, send.questionId = questionId ∧ send.commandType = .sendReply ∧
      send.status = .succeeded ∧ send.sentMessageId = some messageId := by
  unfold storedSentMessageId at found
  obtain ⟨send, top, sent⟩ := Option.bind_eq_some_iff.1 found
  have held := Table.mem_of_lastBy top
  simp only [Bool.and_eq_true, decide_eq_true_eq] at held
  exact ⟨send, held.1, held.2.1.1.1, held.2.1.1.2, held.2.1.2, sent⟩

end LeadAssistant.Database
