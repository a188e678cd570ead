/-
Module: LeadAssistant.Repositories.ReplyDrafts
Layer: Repositories
Purpose: `ReplyDraftRepository` (`reply_drafts.py`), `QuestionFeedbackRepository`
  (`question_feedback.py`) and the removal of a monitored chat. Every call is one function from the
  contents its transaction sees to its answer and the contents afterwards. An exception keeps the
  statements already sent, which is what `openQuestion` on a removed chat shows.
Trusted boundary: human-reviewed spec
Main exports: ReplyDraftRepository.openQuestion, ReplyDraftRepository.createVersion,
  ReplyDraftRepository.cancel, QuestionFeedbackRepository.dismiss, MonitoredChatRepository.remove
-/
import LeadAssistant.Database.Models

namespace LeadAssistant

open Relational

namespace Database

/-- `select(func.max(ReplyVersion.version_number))`, with `latest or 0`. -/
def latestVersionNumber (db : Database) (questionId : UUID) : Nat :=
  ((db.replyVersions.rows.filter (fun version => version.questionId = questionId)).map
    (fun version => version.versionNumber)).foldr max 0

/-- `select(ReplyVersion) ... .order_by(ReplyVersion.version_number.desc()).limit(1)`. -/
def latestVersion? (db : Database) (questionId : UUID) : Option ReplyVersion :=
  db.replyVersions.lastBy (fun version => version.questionId = questionId)
    (fun version => version.versionNumber)

end Database

/-- Question destination displayed alongside an exact draft preview. -/
structure DraftDestination where
  questionId : UUID
  chatTitle : String
  topicTitle : Option String
deriving Repr, DecidableEq

/-- One immutable stored reply version and its destination. -/
structure StoredDraft where
  destination : DraftDestination
  versionNumber : Nat
  text : String
deriving Repr, DecidableEq

/-- The contents after `session_factory.begin()` around one call: an exception rolls back. -/
def Answer.committed {α : Type} (before : Database) (answer : Answer α) : Database :=
  match answer.1 with
  | .ok _ => answer.2
  | .error _ => before

namespace ReplyDraftRepository

/-- `_destination`: a removed chat has no title. -/
def destination (db : Database) (question : DetectedQuestion) :
    Except RepositoryError DraftDestination :=
  match question.monitoredChatId.bind db.monitoredChats.get? with
  | none => .error .draftUnavailable
  | some chat => .ok ⟨question.id, chat.title, question.topicTitle⟩

/-- The statuses from which a draft may be opened. -/
def opensFrom (status : QuestionStatus) : Bool :=
  status = .detected || status = .waitingForDraft || status = .waitingConfirmation

/-- `open`: the status is written before the destination is looked up. -/
def openQuestion (questionId : UUID) (db : Database) : Answer DraftDestination :=
  match db.detectedQuestions.get? questionId with
  | none => (.error .draftUnavailable, db)
  | some question =>
      if opensFrom question.status then
        let opened := db.setQuestionStatus questionId .waitingForDraft
        (destination opened question, opened)
      else (.error .draftUnavailable, db)

def createVersion (questionId : UUID) (text : String) (db : Database) : Answer StoredDraft :=
  match db.detectedQuestions.get? questionId with
  | none => (.error .draftUnavailable, db)
  | some question =>
      if question.status ≠ .waitingForDraft then (.error .draftUnavailable, db)
      else
        let versionNumber := db.latestVersionNumber questionId + 1
        match db.insertReplyVersion ⟨questionId, versionNumber, text, .draft⟩ with
        | none => (.error .integrityError, db)
        | some inserted =>
            let stored := inserted.setQuestionStatus questionId .waitingConfirmation
            match destination stored question with
            | .error error => (.error error, stored)
            | .ok destination => (.ok ⟨destination, versionNumber, text⟩, stored)

def reopenForEdit (questionId : UUID) (db : Database) : Answer Unit :=
  match db.detectedQuestions.get? questionId with
  | none => (.error .draftUnavailable, db)
  | some question =>
      if question.status ≠ .waitingConfirmation then (.error .draftUnavailable, db)
      else (.ok (), db.setQuestionStatus questionId .waitingForDraft)

/-- `cancel`: a repeat on a cancelled question answers `false` and changes nothing. -/
def cancel (questionId : UUID) (db : Database) : Answer Bool :=
  match db.detectedQuestions.get? questionId with
  | none => (.error .draftUnavailable, db)
  | some question =>
      if question.status = .cancelled then (.ok false, db)
      else if question.status = .waitingForDraft ∨ question.status = .waitingConfirmation then
        (.ok true, db.setQuestionStatus questionId .cancelled)
      else (.error .draftUnavailable, db)

def latest (questionId : UUID) (db : Database) : Answer (Option StoredDraft) :=
  match db.detectedQuestions.get? questionId with
  | none => (.error .draftUnavailable, db)
  | some question =>
      match db.latestVersion? questionId with
      | none => (.ok none, db)
      | some version =>
          match destination db question with
          | .error error => (.error error, db)
          | .ok destination => (.ok (some ⟨destination, version.versionNumber, version.text⟩), db)

end ReplyDraftRepository

namespace QuestionFeedbackRepository

/-- The shape shared by `dismiss` and `reopen`: move a question from one status to another, with
a repeat answered `false`. -/
def move (source target : QuestionStatus) (questionId : UUID) (db : Database) : Answer Bool :=
  match db.detectedQuestions.get? questionId with
  | none => (.error .questionFeedbackUnavailable, db)
  | some question =>
      if question.status = target then (.ok false, db)
      else if question.status ≠ source then (.error .questionFeedbackUnavailable, db)
      else (.ok true, db.setQuestionStatus questionId target)

def dismiss : UUID → Database → Answer Bool := move .detected .dismissed

def reopen : UUID → Database → Answer Bool := move .dismissed .detected

end QuestionFeedbackRepository

namespace MonitoredChatRepository

/-- `remove`: the foreign keys cascade to the chat's jobs and detach its questions. -/
def remove (chatId : UUID) (db : Database) : Database :=
  { db with
    monitoredChats := db.monitoredChats.erase chatId
    processingJobs := db.processingJobs.deleteWhere (fun job => job.monitoredChatId = chatId)
    detectedQuestions := db.detectedQuestions.updateWhere
      (fun question => question.monitoredChatId = some chatId)
      (fun question => { question with monitoredChatId := none }) (fun _ _ => rfl) }

end MonitoredChatRepository

/-! ### The highest version number -/

theorem le_foldr_max {numbers : List Nat} {n : Nat} (held : n ∈ numbers) :
    n ≤ numbers.foldr max 0 := by
  induction numbers with
  | nil => simp at held
  | cons m numbers ih =>
      simp only [List.foldr_cons]
      rcases List.mem_cons.1 held with rfl | held
      · exact Nat.le_max_left _ _
      · exact Nat.le_trans (ih held) (Nat.le_max_right _ _)

theorem foldr_max_mem {numbers : List Nat} (nonempty : numbers ≠ []) :
    numbers.foldr max 0 ∈ numbers := by
  induction numbers with
  | nil => exact absurd rfl nonempty
  | cons m numbers ih =>
      simp only [List.foldr_cons]
      rcases Nat.le_total (numbers.foldr max 0) m with le | le
      · simp [Nat.max_eq_left le]
      · rw [Nat.max_eq_right le]
        by_cases empty : numbers = []
        · subst empty
          simp_all
        · exact List.mem_cons_of_mem _ (ih empty)

namespace Database

theorem versionNumber_le_latest {db : Database} {version : ReplyVersion}
    (held : version ∈ db.replyVersions) :
    version.versionNumber ≤ db.latestVersionNumber version.questionId := by
  apply le_foldr_max
  exact List.mem_map.2 ⟨version, by simpa using held, rfl⟩

/-- A positive highest number belongs to a stored version. -/
theorem exists_latest {db : Database} {questionId : UUID}
    (positive : 0 < db.latestVersionNumber questionId) :
    ∃ version ∈ db.replyVersions, version.questionId = questionId ∧
      version.versionNumber = db.latestVersionNumber questionId := by
  have nonempty : (db.replyVersions.rows.filter
      (fun version => version.questionId = questionId)).map (·.versionNumber) ≠ [] := by
    intro empty
    simp [latestVersionNumber, empty] at positive
  obtain ⟨version, held, same⟩ := List.mem_map.1 (foldr_max_mem nonempty)
  simp only [List.mem_filter, decide_eq_true_eq] at held
  exact ⟨version, held.1, held.2, same⟩

/-- The version the preview query reads is the stored one with the highest number. -/
theorem latestVersion?_spec {db : Database} {questionId : UUID} {version : ReplyVersion}
    (found : db.latestVersion? questionId = some version) :
    version ∈ db.replyVersions ∧ version.questionId = questionId ∧
      version.versionNumber = db.latestVersionNumber questionId := by
  have held := Table.mem_of_lastBy found
  rw [decide_eq_true_eq] at held
  refine ⟨held.1, held.2, ?_⟩
  apply Nat.le_antisymm
  · exact held.2 ▸ versionNumber_le_latest held.1
  · by_cases positive : 0 < db.latestVersionNumber questionId
    · obtain ⟨top, topHeld, owner, number⟩ := exists_latest positive
      rw [← number]
      exact Table.le_of_lastBy found topHeld (by simpa using owner)
    · omega

end Database

end LeadAssistant
