/-
Module: LeadAssistant.Repositories.OperatorSessions
Layer: Repositories
Purpose: `OperatorSessionRepository` (`operator_sessions.py`): the pointer to the question whose
  draft an operator has open. Reading it takes no lock; `open_question` locks the row.
Trusted boundary: human-reviewed spec
Main exports: Database.activeQuestion?, OperatorSessionRepository.openQuestion,
  OperatorSessionRepository.clearActiveQuestion
-/
import LeadAssistant.Repositories.ReplyDrafts

namespace LeadAssistant

open Relational

namespace Database

/-- `get_active_question`. -/
def activeQuestion? (db : Database) (operatorUserId : Int) : Option UUID :=
  (db.operatorSessions.get? operatorUserId).bind (fun row => row.activeQuestionId)

/-- The database with other operator sessions. -/
def setOperatorSessions (db : Database)
    (sessions : Table OperatorSession.operatorTelegramUserId) : Database :=
  { db with operatorSessions := sessions }

end Database

namespace OperatorSessionRepository

def openQuestion (operatorUserId : Int) (questionId : UUID) (replace : Bool) (db : Database) :
    Answer Unit :=
  match db.operatorSessions.get? operatorUserId with
  | none =>
      match db.operatorSessions.insert? ⟨operatorUserId, some questionId⟩ with
      | none => (.error .integrityError, db)
      | some sessions => (.ok (), db.setOperatorSessions sessions)
  | some row =>
      if row.activeQuestionId ≠ none ∧ row.activeQuestionId ≠ some questionId ∧ !replace then
        (.error .activeDraftConflict, db)
      else
        (.ok (), db.setOperatorSessions (db.operatorSessions.update operatorUserId
          (fun row => { row with activeQuestionId := some questionId })))

def clearActiveQuestion (operatorUserId : Int) (db : Database) : Database :=
  db.setOperatorSessions (db.operatorSessions.update operatorUserId
    (fun row => { row with activeQuestionId := none }))

/-! ### What the calls do to the pointer -/

variable {operatorUserId : Int} {questionId : UUID} {replace : Bool} {db : Database}

theorem activeQuestion?_clear :
    (clearActiveQuestion operatorUserId db).activeQuestion? operatorUserId = none := by
  unfold clearActiveQuestion Database.setOperatorSessions Database.activeQuestion?
  rw [Table.get?_update, if_pos rfl]
  cases db.operatorSessions.get? operatorUserId <;> rfl

/-- The pointer is refused when another question is open and is not to be replaced. -/
theorem openQuestion_spec (open_ : replace = true ∨ db.activeQuestion? operatorUserId = none ∨
      db.activeQuestion? operatorUserId = some questionId) :
    ∃ sessions, openQuestion operatorUserId questionId replace db =
        (.ok (), db.setOperatorSessions sessions) ∧
      (db.setOperatorSessions sessions).activeQuestion? operatorUserId = some questionId := by
  unfold openQuestion
  cases found : db.operatorSessions.get? operatorUserId with
  | none =>
      have free : ∀ other ∈ db.operatorSessions, other.operatorTelegramUserId ≠
          (OperatorSession.mk operatorUserId (some questionId)).operatorTelegramUserId :=
        Table.get?_eq_none_iff.1 found
      rcases Table.exists_insert? free with ⟨sessions, inserted⟩
      refine ⟨sessions, by rw [inserted], ?_⟩
      unfold Database.activeQuestion? Database.setOperatorSessions
      rw [Table.get?_insert? inserted, if_pos rfl]
      rfl
  | some row =>
      have allowed : ¬ (row.activeQuestionId ≠ none ∧
          row.activeQuestionId ≠ some questionId ∧ (!replace) = true) := by
        have pointer : db.activeQuestion? operatorUserId = row.activeQuestionId := by
          simp [Database.activeQuestion?, found]
        rw [pointer] at open_
        rcases open_ with replaced | empty | same
        · simp [replaced]
        · simp [empty]
        · simp [same]
      refine ⟨_, if_neg allowed, ?_⟩
      unfold Database.activeQuestion? Database.setOperatorSessions
      rw [Table.get?_update, if_pos rfl, found]
      rfl

theorem openQuestion_conflict {active : UUID} (held : replace = false)
    (pointer : db.activeQuestion? operatorUserId = some active) (other : active ≠ questionId) :
    openQuestion operatorUserId questionId replace db = (.error .activeDraftConflict, db) := by
  unfold openQuestion
  cases found : db.operatorSessions.get? operatorUserId with
  | none => simp [Database.activeQuestion?, found] at pointer
  | some row =>
      have active' : row.activeQuestionId = some active := by
        simpa [Database.activeQuestion?, found] using pointer
      dsimp only
      rw [if_pos]
      simp [active', other, held]

end OperatorSessionRepository

end LeadAssistant
