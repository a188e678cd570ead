/-
Module: LeadAssistant.Bot.ReplyDesk
Layer: Bot
Purpose: The operator's callbacks and messages as interleaved transactions. A callback begins by
  reading the active question; other transactions may commit before its own locked part does.
  Dismissals, removed chats and new questions come in between at any time.
Trusted boundary: human-reviewed spec
Main exports: Desk, DeskEvent, step, one_active_draft, two_drafts_after_refused_replace
-/
import LeadAssistant.Bot.ActiveDraft

namespace LeadAssistant.ReplyDesk

open Relational Transition

/-- An open transaction of a callback, with the active question it read. -/
structure OpenCall where
  id : Nat
  call : ReplyCall
  active : Option UUID

/-- The committed contents and the open transactions. -/
structure Desk where
  db : Database
  calls : Table OpenCall.id := ∅

inductive DeskEvent where
  | start (id : Nat) (call : ReplyCall)
  | commit (id : Nat)
  | rollback (id : Nat)
  | dismiss (questionId : UUID)
  | reopen (questionId : UUID)
  | removeChat (chatId : UUID)
  | persisted (question : DetectedQuestion)

def step (operatorUserId : Int) (d : Desk) : DeskEvent → Option Desk
  | .start id call =>
      (d.calls.insert? ⟨id, call, d.db.activeQuestion? operatorUserId⟩).map
        (fun calls => { d with calls := calls })
  | .commit id =>
      (d.calls.get? id).map (fun open_ =>
        { db := open_.call.commit operatorUserId open_.active d.db, calls := d.calls.erase id })
  | .rollback id => some { d with calls := d.calls.erase id }
  | .dismiss questionId =>
      some { d with db := (QuestionFeedbackRepository.dismiss questionId d.db).committed d.db }
  | .reopen questionId =>
      some { d with db := (QuestionFeedbackRepository.reopen questionId d.db).committed d.db }
  | .removeChat chatId => some { d with db := MonitoredChatRepository.remove chatId d.db }
  | .persisted question =>
      if question.status = .detected then
        (d.db.detectedQuestions.insert? question).map
          (fun questions => { d with db := d.db.setDetectedQuestions questions })
      else none

/-- A callback that commits is sound in the contents it commits on. -/
def SoundCommit (operatorUserId : Int) (d : Desk) (e : DeskEvent) : Prop :=
  match e with
  | .commit id => ∀ open_ ∈ d.calls.get? id, open_.call.Sound operatorUserId open_.active d.db
  | _ => True

instance (operatorUserId : Int) (d : Desk) (e : DeskEvent) :
    Decidable (SoundCommit operatorUserId d e) := by
  unfold SoundCommit
  cases e <;> dsimp only <;> infer_instance

section Steps

variable {operatorUserId : Int} {db : Database}

/-- Feedback moves questions that do not wait to statuses in which they do not. -/
theorem bound_move {source target : QuestionStatus} {questionId : UUID}
    (bound : Bound operatorUserId db) (idle : isWaiting source = false)
    (idle' : isWaiting target = false) :
    Bound operatorUserId
      ((QuestionFeedbackRepository.move source target questionId db).committed db) := by
  unfold QuestionFeedbackRepository.move
  cases found : db.detectedQuestions.get? questionId with
  | none => exact bound
  | some question =>
      have status := Database.statusOf?_of_found found
      dsimp only
      split
      · exact bound
      · split
        · exact bound
        · rename_i same
          simp only [ne_eq, not_not] at same
          refine ReplyCall.bound_congr bound (fun id => ?_) rfl
          apply Database.waits_setQuestionStatus_same status
          rw [same, idle, idle']

theorem bound_remove {chatId : UUID} (bound : Bound operatorUserId db) :
    Bound operatorUserId (MonitoredChatRepository.remove chatId db) := by
  intro id
  unfold Database.waits
  rw [Database.statusOf?_remove]
  exact bound id

theorem bound_persisted {question : DetectedQuestion} {questions : Table DetectedQuestion.id}
    (bound : Bound operatorUserId db) (detected : question.status = .detected)
    (insert : db.detectedQuestions.insert? question = some questions) :
    Bound operatorUserId (db.setDetectedQuestions questions) := by
  have absent : db.statusOf? question.id = none := by
    unfold Database.statusOf?
    rw [Option.map_eq_none_iff, Table.get?_eq_none_iff]
    exact Table.fresh_of_insert? insert
  intro id
  have pointer : (db.setDetectedQuestions questions).activeQuestion? operatorUserId =
      db.activeQuestion? operatorUserId := rfl
  rw [pointer, bound]
  unfold Database.waits
  rw [Database.statusOf?_arrived insert]
  split
  · rename_i own
    rw [own, absent, detected]
    simp [isWaiting]
  · rfl

/-- Every step in which a committing callback is sound keeps the agreement. -/
theorem bound_step {d d' : Desk} {e : DeskEvent} (bound : Bound operatorUserId d.db)
    (sound : SoundCommit operatorUserId d e) (next : step operatorUserId d e = some d') :
    Bound operatorUserId d'.db := by
  cases e with
  | start id call =>
      rcases Option.map_eq_some_iff.1 next with ⟨calls, _, rfl⟩
      exact bound
  | commit id =>
      rcases Option.map_eq_some_iff.1 next with ⟨open_, found, rfl⟩
      exact (ReplyCall.commit_bound_iff bound).2 (sound open_ found)
  | rollback id =>
      cases next
      exact bound
  | dismiss questionId =>
      cases next
      exact bound_move bound rfl rfl
  | reopen questionId =>
      cases next
      exact bound_move bound rfl rfl
  | removeChat chatId =>
      cases next
      exact bound_remove bound
  | persisted question =>
      simp only [step] at next
      split at next
      · rename_i detected
        rcases Option.map_eq_some_iff.1 next with ⟨questions, insert, rfl⟩
        exact bound_persisted bound detected insert
      · simp at next

end Steps

/-- In every run in which each committing callback is sound, at most one question waits and it is
the one the session points to. In a state so reached, the commit of an open callback keeps this
exactly when the callback is sound there. -/
theorem one_active_draft {operatorUserId : Int} {d d' : Desk} {es : List DeskEvent}
    (start : OneActive operatorUserId d.db)
    (run : Run (step operatorUserId) (SoundCommit operatorUserId) d es d') :
    OneActive operatorUserId d'.db ∧ ∀ open_ ∈ d'.calls,
      (OneActive operatorUserId (open_.call.commit operatorUserId open_.active d'.db) ↔
        open_.call.Sound operatorUserId open_.active d'.db) := by
  have reached : Bound operatorUserId d'.db := by
    induction run with
    | nil => exact oneActive_iff.1 start
    | snoc _ sound next ih => exact bound_step ih sound next
  constructor
  · exact oneActive_iff.2 reached
  · intro open_ _
    rw [oneActive_iff]
    exact ReplyCall.commit_bound_iff reached

/-- Two detected questions of two monitored chats. -/
def sampleDesk : Desk where
  db := {
    monitoredChats := ⟨[⟨1, -100, "Support", none, .supergroup, .active, none, 0, 0, none, none⟩,
      ⟨2, -200, "Sales", none, .supergroup, .active, none, 0, 0, none, none⟩], by decide⟩
    detectedQuestions := ⟨[{
      id := 7, monitoredChatId := some 1, telegramChatId := -100, telegramMessageId := 40,
      topicId := none, topicTitle := none, authorTelegramId := none, authorDisplayName := none,
      telegramCreatedAt := 0, originalText := "How do we deploy?", translatedText := none,
      sourceLanguage := none, category := .technical, confidence := 1, status := .detected,
      detectedAt := 0, expiresAt := 0 }, {
      id := 8, monitoredChatId := some 2, telegramChatId := -200, telegramMessageId := 50,
      topicId := none, topicTitle := none, authorTelegramId := none, authorDisplayName := none,
      telegramCreatedAt := 0, originalText := "What does it cost?", translatedText := none,
      sourceLanguage := none, category := .operational, confidence := 1, status := .detected,
      detectedAt := 0, expiresAt := 0 }], by decide⟩ }

theorem sampleDesk_oneActive : OneActive 5 sampleDesk.db := by
  have idle : ∀ question ∈ sampleDesk.db.detectedQuestions, isWaiting question.status = false := by
    intro question held
    have listed : question ∈ sampleDesk.db.detectedQuestions.rows := held
    simp only [sampleDesk, List.mem_cons, List.not_mem_nil, or_false] at listed
    rcases listed with rfl | rfl <;> rfl
  constructor
  · intro a ha _ _ waiting _
    rw [idle a ha] at waiting
    exact absurd waiting Bool.false_ne_true
  · intro question held waiting
    rw [idle question held] at waiting
    exact absurd waiting Bool.false_ne_true
  · intro questionId pointer
    have cleared : sampleDesk.db.activeQuestion? 5 = none := rfl
    rw [cleared] at pointer
    simp at pointer

/-- A draft that is replaced by one of another chat. -/
theorem one_active_draft_sample : ∃ d : Desk, OneActive 5 d.db ∧
    d.db.activeQuestion? 5 = some 8 := by
  have computed : (exec (step 5) (SoundCommit 5) sampleDesk
      [.start 1 (.reply 7), .commit 1, .start 2 (.replace 8), .commit 2]).map
        (fun d => d.db.activeQuestion? 5) = some (some 8) := by decide +kernel
  rcases Run.exists_of_exec computed with ⟨d, run, pointer⟩
  exact ⟨d, (one_active_draft sampleDesk_oneActive run).1, pointer⟩

/-- The chat of question 8 is removed while question 7 has the draft. Replacing the draft cancels
question 7 and leaves question 8 waiting, but the session still points to question 7. -/
theorem two_drafts_after_refused_replace : OneActive 5 sampleDesk.db ∧ ∃ d : Desk,
    Run (step 5) anyEvent sampleDesk [.start 1 (.reply 7), .commit 1, .removeChat 2,
      .start 2 (.replace 8), .commit 2] d ∧
    d.db.statusOf? 7 = some .cancelled ∧ d.db.statusOf? 8 = some .waitingForDraft ∧
    d.db.activeQuestion? 5 = some 7 ∧ ¬ OneActive 5 d.db := by
  have computed : (exec (step 5) anyEvent sampleDesk
      [.start 1 (.reply 7), .commit 1, .removeChat 2, .start 2 (.replace 8), .commit 2]).map
        (fun d => (d.db.statusOf? 7, d.db.statusOf? 8, d.db.activeQuestion? 5)) =
      some (some .cancelled, some .waitingForDraft, some 7) := by decide +kernel
  rcases Run.exists_of_exec computed with ⟨d, run, value⟩
  simp only [Prod.mk.injEq] at value
  refine ⟨sampleDesk_oneActive, d, run, value.1, value.2.1, value.2.2, ?_⟩
  intro one
  have waiting := (oneActive_iff.1 one 7).1 value.2.2
  simp [Database.waits, value.1, isWaiting] at waiting

end LeadAssistant.ReplyDesk
