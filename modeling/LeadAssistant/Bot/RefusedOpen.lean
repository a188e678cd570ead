/-
Module: LeadAssistant.Bot.RefusedOpen
Layer: Bot
Purpose: What is committed when a reply or replace callback answers that the question is
  unavailable. `_open_question` catches the refusal inside its transaction, so everything that was
  written before it is kept: the cancellation of the draft to be replaced, and the status that
  `open` sets before it looks for the chat.
Trusted boundary: human-reviewed spec
Main exports: ReplyCall.Refused, ReplyCall.CancelsDraft, ReplyCall.Reopens, refused_open_unchanged
-/
import LeadAssistant.Bot.ReplyDesk

namespace LeadAssistant

open Relational

namespace ReplyCall

variable {operatorUserId : Int} {questionId : UUID} {replace : Bool} {active : Option UUID}
  {db : Database}

/-- The callback that calls `_open_question`. -/
def opening (questionId : UUID) (replace : Bool) : ReplyCall :=
  if replace then .replace questionId else .reply questionId

/-- The handler reaches `open` and `open` raises. -/
def Refused (questionId : UUID) (replace : Bool) (active : Option UUID) (db : Database) : Prop :=
  (active = none ∨ active = some questionId ∨ replace = true) ∧
    (ReplyDraftRepository.openQuestion questionId
      (cancelPrevious (previous? questionId replace active) db)).1 = .error .draftUnavailable

instance : Decidable (Refused questionId replace active db) :=
  inferInstanceAs (Decidable (_ ∧ _))

/-- The draft that is to be replaced waits, so that it is cancelled before `open` is tried. -/
def CancelsDraft (questionId : UUID) (replace : Bool) (active : Option UUID)
    (db : Database) : Prop :=
  ∃ previous, previous? questionId replace active = some previous ∧ db.waits previous = true

/-- `open` gives the question another status. -/
def Reopens (questionId : UUID) (db : Database) : Prop :=
  db.opens questionId = true ∧ db.statusOf? questionId ≠ some .waitingForDraft

theorem setQuestionStatus_self {status : QuestionStatus}
    (same : db.statusOf? questionId = some status) : db.setQuestionStatus questionId status = db := by
  have fixed : db.detectedQuestions.update questionId
      (fun question => { question with status := status }) = db.detectedQuestions := by
    rw [Table.update_eq_self_iff]
    intro question found
    have current := (Database.statusOf?_of_found found).symm.trans same
    rw [← Option.some.inj current]
  unfold Database.setQuestionStatus
  rw [fixed]

/-- `cancel` writes nothing exactly when the question does not wait. -/
theorem cancel_eq_self_iff :
    (ReplyDraftRepository.cancel questionId db).2 = db ↔ db.waits questionId = false := by
  constructor
  · intro same
    have idle := (@ReplyDraftRepository.cancel_spec db questionId 0).1 questionId
    rw [same] at idle
    simpa using idle
  · intro idle
    unfold ReplyDraftRepository.cancel
    cases found : db.detectedQuestions.get? questionId with
    | none => rfl
    | some question =>
        have status := Database.statusOf?_of_found found
        simp only [Database.waits, status, Option.any_some, isWaiting, Bool.or_eq_false_iff,
          decide_eq_false_iff_not] at idle
        dsimp only
        rw [if_neg (not_or.2 idle)]
        split <;> rfl

theorem cancelPrevious_eq_self_iff :
    cancelPrevious (previous? questionId replace active) db = db ↔
      ¬ CancelsDraft questionId replace active db := by
  unfold CancelsDraft cancelPrevious
  cases previous? questionId replace active with
  | none => simp
  | some previous => simp [cancel_eq_self_iff]

/-- A refused callback commits what `open` has left behind. -/
theorem commit_refused (refused : Refused questionId replace active db) :
    (opening questionId replace).commit operatorUserId active db =
      (ReplyDraftRepository.openQuestion questionId
        (cancelPrevious (previous? questionId replace active) db)).2 := by
  have committed : (opening questionId replace).commit operatorUserId active db =
      openQuestion operatorUserId questionId replace active db := by
    cases replace with
    | false => rfl
    | true => rfl
  rw [committed]
  rcases refused with ⟨reached, raised⟩
  unfold openQuestion
  rw [if_neg]
  · generalize ReplyDraftRepository.openQuestion questionId
      (cancelPrevious (previous? questionId replace active) db) = answer at raised
    rcases answer with ⟨result, opened⟩
    cases raised
    rfl
  · rintro ⟨some_, other, kept⟩
    rcases reached with none_ | same | replaced
    · exact some_ none_
    · exact other same
    · simp [replaced] at kept

/-- A callback that answers that the question is unavailable leaves the contents as they were, if
and only if it has cancelled no draft and `open` has given the question no other status. -/
theorem refused_open_unchanged (refused : Refused questionId replace active db) :
    (opening questionId replace).commit operatorUserId active db = db ↔
      ¬ CancelsDraft questionId replace active db ∧ ¬ Reopens questionId db := by
  have other : previous? questionId replace active ≠ some questionId := previous?_ne
  rcases @cancelPrevious_spec operatorUserId db questionId _ other with ⟨waits, opens, _⟩
  rw [commit_refused refused, ← cancelPrevious_eq_self_iff]
  cases open_ : db.opens questionId with
  | false =>
      have closed := ReplyDraftRepository.openQuestion_refused (opens.trans open_)
      have still : ¬ Reopens questionId db := by
        rintro ⟨opened, _⟩
        rw [open_] at opened
        exact Bool.noConfusion opened
      rw [closed]
      exact (and_iff_left still).symm
  | true =>
      have opened := (ReplyDraftRepository.openQuestion_opened (opens.trans open_)).1
      rw [opened]
      have stored := Database.isSome_of_opens (opens.trans open_)
      constructor
      · intro same
        constructor
        · rw [cancelPrevious_eq_self_iff]
          rintro ⟨previous, chosen, waiting⟩
          have ne : previous ≠ questionId := fun eq => other (chosen.trans (congrArg some eq))
          have idle := waits previous
          rw [← same, Database.waits_setQuestionStatus stored, if_neg ne, idle] at waiting
          simp [chosen] at waiting
        · rintro ⟨_, changed⟩
          apply changed
          rcases Option.isSome_iff_exists.1 stored with ⟨status, found⟩
          rw [← same, Database.statusOf?_setQuestionStatus, if_pos rfl, found, Option.map_some]
      · rintro ⟨idle, kept⟩
        rw [idle]
        apply setQuestionStatus_self
        by_contra changed
        exact kept ⟨open_, changed⟩

/-- The chat of question 8 is removed, and question 7 has the draft or none has. -/
def sampleRemoved (drafting : Bool) : Database :=
  let removed := MonitoredChatRepository.remove 2 ReplyDesk.sampleDesk.db
  if drafting then (ReplyCall.reply 7).commit 5 none removed else removed

/-- A refused reply on a question that waits already. -/
theorem refused_open_unchanged_sample :
    (opening 8 false).commit 5 (some 8)
        ((sampleRemoved false).setQuestionStatus 8 .waitingForDraft) =
      (sampleRemoved false).setQuestionStatus 8 .waitingForDraft := by
  apply (refused_open_unchanged (by decide)).2
  constructor
  · rintro ⟨previous, chosen, _⟩
    simp [previous?] at chosen
  · rintro ⟨_, changed⟩
    exact changed (by decide)

/-- A first reply on question 8 is refused and leaves it waiting for a draft. Replacing the draft
of question 7 by one of question 8 is refused and has cancelled question 7. -/
theorem refused_open_commits :
    (Refused 8 false none (sampleRemoved false) ∧
      (opening 8 false).commit 5 none (sampleRemoved false) ≠ sampleRemoved false) ∧
    (Refused 8 true (some 7) (sampleRemoved true) ∧
      (sampleRemoved true).activeQuestion? 5 = some 7 ∧
      ((opening 8 true).commit 5 (some 7) (sampleRemoved true)).statusOf? 7 = some .cancelled ∧
      (opening 8 true).commit 5 (some 7) (sampleRemoved true) ≠ sampleRemoved true) := by
  have detected : (sampleRemoved false).statusOf? 8 = some .detected := by decide +kernel
  have opened : ((opening 8 false).commit 5 none (sampleRemoved false)).statusOf? 8 =
      some .waitingForDraft := by decide +kernel
  have drafting : (sampleRemoved true).statusOf? 7 = some .waitingForDraft := by decide +kernel
  have cancelled : ((opening 8 true).commit 5 (some 7) (sampleRemoved true)).statusOf? 7 =
      some .cancelled := by decide +kernel
  refine ⟨⟨by decide +kernel, fun same => ?_⟩, by decide +kernel, by decide +kernel, cancelled,
    fun same => ?_⟩
  · rw [same, detected] at opened
    cases opened
  · rw [same, drafting] at cancelled
    cases cancelled

end ReplyCall

end LeadAssistant
