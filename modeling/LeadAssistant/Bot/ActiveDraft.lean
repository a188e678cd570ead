/-
Module: LeadAssistant.Bot.ActiveDraft
Layer: Bot
Purpose: One active draft. A question waits for the operator exactly while the operator's session
  points to it. The callbacks keep this when what they read without a lock is still right at their
  commit, and when a question they open still has its chat; `Sound` states this for each callback,
  and a commit keeps the agreement exactly when it is sound.
Trusted boundary: human-reviewed spec
Main exports: OneActive, ReplyCall.Bound, ReplyCall.Sound, commit_bound_iff
-/
import LeadAssistant.Bot.Replies
import LeadAssistant.Repositories.Views
import LeadAssistant.Library.Transition

namespace LeadAssistant

open Relational Transition

/-- The question waits for the operator's text or confirmation. -/
def isWaiting (status : QuestionStatus) : Bool :=
  status = .waitingForDraft || status = .waitingConfirmation

namespace Database

def waits (db : Database) (questionId : UUID) : Bool :=
  (db.statusOf? questionId).any isWaiting

/-- A draft of the question may be opened. -/
def opens (db : Database) (questionId : UUID) : Bool :=
  (db.statusOf? questionId).any ReplyDraftRepository.opensFrom

/-- The question's chat is still monitored, so that a draft has a destination. -/
def hasChat (db : Database) (questionId : UUID) : Bool :=
  (db.detectedQuestions.get? questionId).any
    (fun question => (ReplyDraftRepository.destination db question).isOk)

end Database

/-- What the reply flow keeps of the one active draft. -/
structure OneActive (operatorUserId : Int) (db : Database) : Prop where
  atMostOne : ∀ a ∈ db.detectedQuestions, ∀ b ∈ db.detectedQuestions,
    isWaiting a.status = true → isWaiting b.status = true → a = b
  active : ∀ question ∈ db.detectedQuestions, isWaiting question.status = true →
    db.activeQuestion? operatorUserId = some question.id
  waiting : ∀ questionId, db.activeQuestion? operatorUserId = some questionId →
    ∃ question ∈ db.detectedQuestions, question.id = questionId ∧
      isWaiting question.status = true

/-- The same in one equivalence: the session's question is the one that waits. -/
def Bound (operatorUserId : Int) (db : Database) : Prop :=
  ∀ questionId, db.activeQuestion? operatorUserId = some questionId ↔ db.waits questionId = true

theorem Database.waits_iff {db : Database} {questionId : UUID} :
    db.waits questionId = true ↔ ∃ question ∈ db.detectedQuestions,
      question.id = questionId ∧ isWaiting question.status = true := by
  unfold waits statusOf?
  cases found : db.detectedQuestions.get? questionId with
  | none =>
      rw [Table.get?_eq_none_iff] at found
      constructor
      · intro absurd_
        simp at absurd_
      · intro stored
        rcases stored with ⟨question, held, same, _⟩
        exact absurd same (found question held)
  | some question =>
      rw [Table.get?_eq_some_iff] at found
      constructor
      · intro waiting
        exact ⟨question, found.1, found.2, by simpa using waiting⟩
      · intro stored
        rcases stored with ⟨other, held, same, waiting⟩
        have one : other = question := Table.eq_of_key_eq held found.1 (same.trans found.2.symm)
        rw [← one]
        simpa using waiting

theorem oneActive_iff {operatorUserId : Int} {db : Database} :
    OneActive operatorUserId db ↔ Bound operatorUserId db := by
  constructor
  · intro one questionId
    rw [Database.waits_iff]
    constructor
    · exact one.waiting questionId
    · intro stored
      rcases stored with ⟨question, held, same, waiting⟩
      rw [one.active question held waiting, same]
  · intro bound
    have active : ∀ question ∈ db.detectedQuestions, isWaiting question.status = true →
        db.activeQuestion? operatorUserId = some question.id := by
      intro question held waiting
      rw [bound, Database.waits_iff]
      exact ⟨question, held, rfl, waiting⟩
    constructor
    · intro a ha b hb waitingA waitingB
      apply Table.eq_of_key_eq ha hb
      have same := (active a ha waitingA).symm.trans (active b hb waitingB)
      exact Option.some.inj same
    · exact active
    · intro questionId pointer
      rw [bound, Database.waits_iff] at pointer
      exact pointer

/-! ### What the repositories do to waiting questions -/

namespace Database

variable {db : Database} {questionId id : UUID} {operatorUserId : Int}

theorem waits_setQuestionStatus {status : QuestionStatus}
    (stored : (db.statusOf? questionId).isSome = true) :
    (db.setQuestionStatus questionId status).waits id =
      if id = questionId then isWaiting status else db.waits id := by
  unfold waits
  rw [statusOf?_setQuestionStatus]
  split
  · rename_i same
    rw [← same] at stored
    rcases Option.isSome_iff_exists.1 stored with ⟨old, found⟩
    simp [found]
  · rfl

/-- A change of status that does not change whether the question waits. -/
theorem waits_setQuestionStatus_same {old status : QuestionStatus}
    (found : db.statusOf? questionId = some old) (same : isWaiting status = isWaiting old) :
    (db.setQuestionStatus questionId status).waits id = db.waits id := by
  rw [waits_setQuestionStatus (by rw [found]; rfl)]
  split
  · rename_i own
    simp [waits, own, found, same]
  · rfl

theorem isSome_of_opens (open_ : db.opens questionId = true) :
    (db.statusOf? questionId).isSome = true := by
  unfold opens at open_
  cases found : db.statusOf? questionId with
  | none => simp [found] at open_
  | some _ => rfl

@[simp] theorem waits_setOperatorSessions
    {sessions : Table OperatorSession.operatorTelegramUserId} :
    (db.setOperatorSessions sessions).waits id = db.waits id := rfl

@[simp] theorem waits_clear :
    (OperatorSessionRepository.clearActiveQuestion operatorUserId db).waits id = db.waits id := rfl

@[simp] theorem activeQuestion?_setQuestionStatus {status : QuestionStatus} :
    (db.setQuestionStatus questionId status).activeQuestion? operatorUserId =
      db.activeQuestion? operatorUserId := rfl

/-- Another question's chat does not depend on a status. -/
theorem hasChat_setQuestionStatus {status : QuestionStatus} (ne : id ≠ questionId) :
    (db.setQuestionStatus questionId status).hasChat id = db.hasChat id := by
  unfold hasChat setQuestionStatus
  dsimp only
  rw [Table.get?_update, if_neg ne]
  rfl

end Database

namespace ReplyDraftRepository

variable {db : Database} {questionId id : UUID} {operatorUserId : Int}

theorem openQuestion_refused (closed : db.opens questionId = false) :
    openQuestion questionId db = (.error .draftUnavailable, db) := by
  unfold openQuestion
  cases found : db.detectedQuestions.get? questionId with
  | none => rfl
  | some question =>
      have status := Database.statusOf?_of_found found
      simp only [Database.opens, status, Option.any_some] at closed
      dsimp only
      rw [closed]
      rfl

/-- An opened question waits for a draft, whether or not it still has a chat; without one the call
raises after the status was written. -/
theorem openQuestion_opened (open_ : db.opens questionId = true) :
    (openQuestion questionId db).2 = db.setQuestionStatus questionId .waitingForDraft ∧
      (openQuestion questionId db).1.isOk = db.hasChat questionId := by
  unfold openQuestion Database.hasChat
  cases found : db.detectedQuestions.get? questionId with
  | none => simp [Database.opens, Database.statusOf?, found] at open_
  | some question =>
      have status := Database.statusOf?_of_found found
      simp only [Database.opens, status, Option.any_some] at open_
      dsimp only
      rw [open_]
      constructor
      · rfl
      · rfl

/-- After `cancel` the question does not wait; nothing else changes. -/
theorem cancel_spec :
    (∀ id, (cancel questionId db).2.waits id = (db.waits id && id ≠ questionId)) ∧
      (∀ id, id ≠ questionId → (cancel questionId db).2.statusOf? id = db.statusOf? id ∧
        (cancel questionId db).2.hasChat id = db.hasChat id) ∧
      (cancel questionId db).2.activeQuestion? operatorUserId =
        db.activeQuestion? operatorUserId := by
  have still : db.waits questionId = false →
      ∀ id, db.waits id = (db.waits id && id ≠ questionId) := by
    intro idle id
    by_cases same : id = questionId
    · rw [same, idle]
      rfl
    · simp [same]
  unfold cancel
  cases found : db.detectedQuestions.get? questionId with
  | none =>
      have idle : db.waits questionId = false := by simp [Database.waits, Database.statusOf?, found]
      exact ⟨still idle, fun _ _ => ⟨rfl, rfl⟩, rfl⟩
  | some question =>
      have status := Database.statusOf?_of_found found
      dsimp only
      split
      · rename_i cancelled
        have idle : db.waits questionId = false := by
          simp [Database.waits, status, cancelled, isWaiting]
        exact ⟨still idle, fun _ _ => ⟨rfl, rfl⟩, rfl⟩
      · split
        · have stored : (db.statusOf? questionId).isSome = true := by rw [status]; rfl
          refine ⟨fun id => ?_, fun id ne => ⟨?_, Database.hasChat_setQuestionStatus ne⟩, rfl⟩
          · rw [Database.waits_setQuestionStatus stored]
            by_cases same : id = questionId
            · simp [same, isWaiting]
            · simp [same]
          · rw [Database.statusOf?_setQuestionStatus, if_neg ne]
        · rename_i notWaiting
          have idle : db.waits questionId = false := by
            simp only [not_or] at notWaiting
            simp [Database.waits, status, isWaiting, notWaiting.1, notWaiting.2]
          exact ⟨still idle, fun _ _ => ⟨rfl, rfl⟩, rfl⟩

/-- `cancel` succeeds on a waiting question and, as a repeat, on a cancelled one. -/
theorem cancel_result :
    (∃ changed, (cancel questionId db).1 = .ok changed ∧
      (db.statusOf? questionId = some .cancelled ∨ db.waits questionId = true)) ∨
    (∃ error, (cancel questionId db).1 = .error error ∧
      db.statusOf? questionId ≠ some .cancelled) := by
  unfold cancel
  cases found : db.detectedQuestions.get? questionId with
  | none =>
      apply Or.inr
      exact ⟨_, rfl, by simp [Database.statusOf?, found]⟩
  | some question =>
      have status := Database.statusOf?_of_found found
      dsimp only
      split
      · rename_i cancelled
        exact Or.inl ⟨false, rfl, Or.inl (by rw [status, cancelled])⟩
      · rename_i other
        split
        · rename_i waiting
          apply Or.inl
          refine ⟨true, rfl, Or.inr ?_⟩
          rcases waiting with waiting | waiting <;>
            simp [Database.waits, status, waiting, isWaiting]
        · apply Or.inr
          refine ⟨_, rfl, ?_⟩
          rw [status]
          exact fun same => other (Option.some.inj same)

end ReplyDraftRepository

/-! ### The callbacks -/

namespace ReplyCall

variable {operatorUserId : Int} {active : Option UUID} {db : Database} {questionId : UUID}

/-- When a callback that read `active` may commit on these contents. -/
def Sound (operatorUserId : Int) (call : ReplyCall) (active : Option UUID) (db : Database) : Prop :=
  let pointer := db.activeQuestion? operatorUserId
  match call with
  | .reply questionId =>
      active = none ∨ active = some questionId → db.opens questionId = true →
        db.hasChat questionId = false → pointer = some questionId
  | .replace questionId =>
      if db.opens questionId = false then
        previous? questionId true active = none ∨ pointer ≠ previous? questionId true active
      else if db.hasChat questionId = false then pointer = some questionId
      else pointer = none ∨ pointer = some questionId ∨ pointer = previous? questionId true active
  | .cancel questionId =>
      active = some questionId → db.statusOf? questionId = some .cancelled → pointer = none
  | .confirm questionId _ _ =>
      active = some questionId → db.statusOf? questionId = some .sendRequested →
        (db.sendCommand? questionId).isSome = true → pointer = none
  | _ => True

instance (operatorUserId : Int) (call : ReplyCall) (active : Option UUID) (db : Database) :
    Decidable (Sound operatorUserId call active db) := by
  unfold Sound
  cases call <;> dsimp only <;> infer_instance

/-- What is seen after the cancellation of another draft. -/
theorem cancelPrevious_spec {previous : Option UUID} (other : previous ≠ some questionId) :
    (∀ id, (cancelPrevious previous db).waits id =
        (db.waits id && previous ≠ some id)) ∧
      (cancelPrevious previous db).opens questionId = db.opens questionId ∧
      (cancelPrevious previous db).hasChat questionId = db.hasChat questionId ∧
      (cancelPrevious previous db).activeQuestion? operatorUserId =
        db.activeQuestion? operatorUserId := by
  cases previous with
  | none => exact ⟨fun id => by simp [cancelPrevious], rfl, rfl, rfl⟩
  | some previous =>
      have ne : questionId ≠ previous := fun eq => other (congrArg some eq.symm)
      have spec := @ReplyDraftRepository.cancel_spec db previous operatorUserId
      refine ⟨fun id => ?_, ?_, (spec.2.1 questionId ne).2, spec.2.2⟩
      · rw [cancelPrevious, spec.1]
        simp [eq_comm]
      · unfold Database.opens
        rw [cancelPrevious, (spec.2.1 questionId ne).1]

/-- A pointer to the questions that waited, less the cancelled one. -/
theorem bound_cancelled {pointer previous : Option UUID} {waits : UUID → Bool}
    (bound : ∀ id, pointer = some id ↔ waits id = true) :
    (∀ id, pointer = some id ↔ (waits id && previous ≠ some id) = true) ↔
      previous = none ∨ pointer ≠ previous := by
  have waiting : ∀ id, (waits id && previous ≠ some id) = true ↔
      pointer = some id ∧ previous ≠ some id := by
    intro id
    rw [bound]
    simp
  simp only [waiting]
  constructor
  · intro kept
    cases previous with
    | none => exact Or.inl rfl
    | some other =>
        apply Or.inr
        intro same
        exact ((kept other).1 same).2 rfl
  · intro different id
    constructor
    · intro points
      apply And.intro points
      rintro rfl
      rcases different with absent | ne
      · simp at absent
      · exact ne points
    · exact And.left

/-- The same pointer, with one more question waiting. -/
theorem bound_opened {pointer previous : Option UUID} {waits : UUID → Bool}
    (bound : ∀ id, pointer = some id ↔ waits id = true) :
    (∀ id, pointer = some id ↔
        (if id = questionId then true else waits id && previous ≠ some id) = true) ↔
      pointer = some questionId := by
  constructor
  · intro kept
    exact (kept questionId).2 (by simp)
  · intro points id
    by_cases same : id = questionId
    · simp [same, points]
    · have ne : waits id = false := by
        rw [← Bool.not_eq_true, ← bound, points]
        intro eq
        exact same (Option.some.inj eq).symm
      have away : questionId ≠ id := fun eq => same eq.symm
      rw [points]
      simp [same, ne, away]

/-- The pointer moved to the opened question. -/
theorem bound_moved {pointer previous : Option UUID} {waits : UUID → Bool}
    (bound : ∀ id, pointer = some id ↔ waits id = true) :
    (∀ id, some questionId = some id ↔
        (if id = questionId then true else waits id && previous ≠ some id) = true) ↔
      pointer = none ∨ pointer = some questionId ∨ pointer = previous := by
  constructor
  · intro kept
    cases points : pointer with
    | none => exact Or.inl rfl
    | some active =>
        apply Or.inr
        by_cases same : active = questionId
        · exact Or.inl (congrArg some same)
        · apply Or.inr
          have waiting : waits active = true := (bound active).1 points
          by_contra different
          have moved := (kept active).2
          rw [if_neg same, waiting] at moved
          have eq := moved (by simpa using fun eq => different eq.symm)
          exact same (Option.some.inj eq).symm
  · intro allowed id
    by_cases same : id = questionId
    · simp [same]
    · rw [if_neg same]
      have idle : (waits id && previous ≠ some id) = false := by
        rw [← Bool.not_eq_true, Bool.and_eq_true, ← bound]
        rintro ⟨points, ne⟩
        simp only [ne_eq, decide_not, Bool.not_eq_true', decide_eq_false_iff_not] at ne
        rcases allowed with empty | own | cancelled
        · rw [empty] at points
          simp at points
        · rw [own] at points
          exact same (Option.some.inj points).symm
        · exact ne (cancelled ▸ points)
      rw [idle]
      have ne : questionId ≠ id := fun eq => same eq.symm
      simp [ne]

theorem previous?_ne {replace : Bool} :
    previous? questionId replace active ≠ some questionId := by
  unfold previous?
  cases replace with
  | false => simp
  | true =>
      intro same
      have kept := (Option.filter_eq_some_iff.1 same).2
      simp at kept

/-- What `_open_question` leaves in agreement, past its conflict check. -/
theorem openQuestion_bound_iff {replace : Bool} (bound : Bound operatorUserId db)
    (passes : ¬ (active ≠ none ∧ active ≠ some questionId ∧ (!replace) = true)) :
    Bound operatorUserId (openQuestion operatorUserId questionId replace active db) ↔
      if db.opens questionId = false then
        previous? questionId replace active = none ∨
          db.activeQuestion? operatorUserId ≠ previous? questionId replace active
      else if db.hasChat questionId = false then
        db.activeQuestion? operatorUserId = some questionId
      else replace = true → db.activeQuestion? operatorUserId = none ∨
        db.activeQuestion? operatorUserId = some questionId ∨
        db.activeQuestion? operatorUserId = previous? questionId replace active := by
  unfold openQuestion
  rw [if_neg passes]
  generalize cancels : previous? questionId replace active = previous
  have other : previous ≠ some questionId := cancels ▸ previous?_ne
  rcases @cancelPrevious_spec operatorUserId db questionId previous other with
    ⟨waits, opens, hasChat, pointer⟩
  generalize cancelPrevious previous db = cancelled at waits opens hasChat pointer ⊢
  cases closed : db.opens questionId with
  | false =>
      rw [ReplyDraftRepository.openQuestion_refused (opens.trans closed), if_pos rfl]
      unfold Bound
      simp only [pointer, waits]
      exact bound_cancelled bound
  | true =>
      rw [if_neg (by simp)]
      rcases ReplyDraftRepository.openQuestion_opened (opens.trans closed) with ⟨written, result⟩
      have stored := Database.isSome_of_opens (opens.trans closed)
      have waiting : ∀ id, (cancelled.setQuestionStatus questionId .waitingForDraft).waits id =
          if id = questionId then true else db.waits id && previous ≠ some id := by
        intro id
        rw [Database.waits_setQuestionStatus stored, waits]
        rfl
      rw [hasChat] at result
      generalize ReplyDraftRepository.openQuestion questionId cancelled = answer at written result
      rcases answer with ⟨answer, opened⟩
      dsimp only at written result
      subst written
      cases answer with
      | error _ =>
          have absent : db.hasChat questionId = false := result.symm
          rw [if_pos absent]
          unfold Bound
          simp only [Database.activeQuestion?_setQuestionStatus, pointer, waiting]
          exact bound_opened bound
      | ok _ =>
          have present : db.hasChat questionId = true := result.symm
          rw [if_neg (by simp [present])]
          have points : (cancelled.setQuestionStatus questionId .waitingForDraft).activeQuestion?
              operatorUserId = db.activeQuestion? operatorUserId := pointer
          by_cases open_ : replace = true ∨ db.activeQuestion? operatorUserId = none ∨
              db.activeQuestion? operatorUserId = some questionId
          · rcases OperatorSessionRepository.openQuestion_spec (points.symm ▸ open_) with
              ⟨sessions, answered, moved⟩
            dsimp only
            rw [answered]
            unfold Bound
            simp only [moved, Database.waits_setOperatorSessions, waiting]
            rw [bound_moved bound]
            constructor
            · exact fun allowed _ => allowed
            · intro allowed
              rcases open_ with replaces | empty | own
              · exact allowed replaces
              · exact Or.inl empty
              · exact Or.inr (Or.inl own)
          · simp only [not_or] at open_
            cases held : db.activeQuestion? operatorUserId with
            | none => exact absurd held open_.2.1
            | some activeId =>
                have ne : activeId ≠ questionId := fun eq => open_.2.2 (held.trans (congrArg some eq))
                have conflict := OperatorSessionRepository.openQuestion_conflict
                  (by simpa using open_.1) (points.trans held) ne
                dsimp only
                rw [conflict]
                apply iff_of_true bound
                intro replaces
                exact absurd replaces open_.1

/-- A cleared pointer agrees with nothing waiting. -/
theorem bound_clear_iff : Bound operatorUserId
      (OperatorSessionRepository.clearActiveQuestion operatorUserId db) ↔
    ∀ id, db.waits id = false := by
  unfold Bound
  simp [OperatorSessionRepository.activeQuestion?_clear]

/-- The question of the session was the only one that waited. -/
theorem idle_iff (bound : Bound operatorUserId db) :
    (∀ id, (db.waits id && id ≠ questionId) = false) ↔
      db.activeQuestion? operatorUserId = none ∨
        db.activeQuestion? operatorUserId = some questionId := by
  constructor
  · intro idle
    cases points : db.activeQuestion? operatorUserId with
    | none => exact Or.inl rfl
    | some active =>
        apply Or.inr
        by_contra other
        have alone := idle active
        rw [(bound active).1 points] at alone
        have same : active = questionId := by simpa using alone
        exact other (congrArg some same)
  · intro allowed id
    rw [← Bool.not_eq_true, Bool.and_eq_true, ← bound]
    rintro ⟨points, ne⟩
    rcases allowed with empty | own
    · simp [empty] at points
    · rw [own] at points
      simp [Option.some.inj points] at ne

/-- A stored version leaves its question waiting. -/
theorem createVersion_waits {body : String} :
    (∀ id, ((ReplyDraftRepository.createVersion questionId body db).committed db).waits id =
        db.waits id) ∧
      ((ReplyDraftRepository.createVersion questionId body db).committed db).activeQuestion?
        operatorUserId = db.activeQuestion? operatorUserId := by
  unfold ReplyDraftRepository.createVersion
  cases found : db.detectedQuestions.get? questionId with
  | none => exact ⟨fun _ => rfl, rfl⟩
  | some question =>
      dsimp only
      split
      · exact ⟨fun _ => rfl, rfl⟩
      · rename_i waiting
        simp only [ne_eq, not_not] at waiting
        cases insert : db.insertReplyVersion
            ⟨questionId, db.latestVersionNumber questionId + 1, body, .draft⟩ with
        | none => exact ⟨fun _ => rfl, rfl⟩
        | some inserted =>
            rcases Option.map_eq_some_iff.1 insert with ⟨versions, _, rfl⟩
            dsimp only
            split
            · exact ⟨fun _ => rfl, rfl⟩
            · have status := Database.statusOf?_of_found found
              have same : ∀ id, Database.waits { db with replyVersions := versions } id =
                  db.waits id := fun _ => rfl
              constructor
              · intro id
                have stored : Database.statusOf? { db with replyVersions := versions } questionId =
                    some question.status := status
                refine (Database.waits_setQuestionStatus_same stored ?_).trans (same id)
                rw [waiting]
                rfl
              · rfl

theorem reopenForEdit_waits :
    (∀ id, ((ReplyDraftRepository.reopenForEdit questionId db).committed db).waits id =
        db.waits id) ∧
      ((ReplyDraftRepository.reopenForEdit questionId db).committed db).activeQuestion?
        operatorUserId = db.activeQuestion? operatorUserId := by
  unfold ReplyDraftRepository.reopenForEdit
  cases found : db.detectedQuestions.get? questionId with
  | none => exact ⟨fun _ => rfl, rfl⟩
  | some question =>
      have status := Database.statusOf?_of_found found
      dsimp only
      split
      · exact ⟨fun _ => rfl, rfl⟩
      · rename_i waiting
        simp only [ne_eq, not_not] at waiting
        constructor
        · intro id
          apply Database.waits_setQuestionStatus_same status
          rw [waiting]
          rfl
        · rfl

/-- A confirmation is a repeat, or it takes its waiting question out of the draft. -/
theorem confirmSend_ok {newId : UUID} {now : Time} {command : ConfirmedCommand}
    {confirmed : Database}
    (done : OutboundCommandRepository.confirmSend questionId newId now db =
      (.ok command, confirmed)) :
    (confirmed = db ∧ db.statusOf? questionId = some .sendRequested ∧
      (db.sendCommand? questionId).isSome = true) ∨
    (db.waits questionId = true ∧
      ∀ id, confirmed.waits id = (db.waits id && id ≠ questionId)) := by
  unfold OutboundCommandRepository.confirmSend at done
  cases found : db.detectedQuestions.get? questionId with
  | none => simp [found] at done
  | some question =>
      have status := Database.statusOf?_of_found found
      simp only [found] at done
      split at done
      · rename_i existing listed
        split at done
        · simp at done
        · rename_i requested
          simp only [ne_eq, not_not] at requested
          simp only [Prod.mk.injEq] at done
          refine Or.inl ⟨done.2.symm, ?_, by rw [listed]; rfl⟩
          rw [status, requested]
      · split at done
        · simp at done
        · rename_i waiting
          simp only [ne_eq, not_not] at waiting
          split at done
          · simp at done
          · split at done
            · simp at done
            · split at done
              · simp at done
              · rename_i versioned version
                split at done
                · simp at done
                · rename_i inserted insert
                  simp only [Prod.mk.injEq] at done
                  have questions := (Database.insertOutboundCommand_spec insert).1.trans
                    (Database.insertReplyVersion_spec version).1
                  have views : ∀ id, inserted.statusOf? id = db.statusOf? id := by
                    intro id
                    simp [Database.statusOf?, questions]
                  apply Or.inr
                  constructor
                  · simp [Database.waits, status, waiting, isWaiting]
                  · intro id
                    rw [← done.2, Database.waits_setQuestionStatus (by rw [views, status]; rfl)]
                    by_cases own : id = questionId
                    · simp [own, isWaiting]
                    · simp [own, Database.waits, views]

/-- A repeated confirmation is answered and changes nothing. -/
theorem confirmSend_repeat {newId : UUID} {now : Time}
    (requested : db.statusOf? questionId = some .sendRequested)
    (listed : (db.sendCommand? questionId).isSome = true) :
    ∃ command, OutboundCommandRepository.confirmSend questionId newId now db =
      (.ok command, db) := by
  rcases Option.map_eq_some_iff.1 requested with ⟨question, found, status⟩
  rcases Option.isSome_iff_exists.1 listed with ⟨existing, sent⟩
  unfold OutboundCommandRepository.confirmSend
  simp [found, sent, status]

theorem bound_congr {u : Database} (bound : Bound operatorUserId db)
    (waits : ∀ id, u.waits id = db.waits id)
    (pointer : u.activeQuestion? operatorUserId = db.activeQuestion? operatorUserId) :
    Bound operatorUserId u := by
  intro id
  rw [pointer, waits]
  exact bound id

theorem commit_reply_bound_iff (bound : Bound operatorUserId db) :
    Bound operatorUserId (commit operatorUserId (.reply questionId) active db) ↔
      Sound operatorUserId (.reply questionId) active db := by
  by_cases passes : active ≠ none ∧ active ≠ some questionId ∧ (!false) = true
  · have unchanged : commit operatorUserId (.reply questionId) active db = db := if_pos passes
    rw [unchanged]
    apply iff_of_true bound
    intro allowed
    rcases allowed with empty | own
    · exact absurd empty passes.1
    · exact absurd own passes.2.1
  · have allowed : active = none ∨ active = some questionId := by
      by_contra other
      simp only [not_or] at other
      exact passes ⟨other.1, other.2, rfl⟩
    simp only [commit, openQuestion_bound_iff bound passes, Sound]
    cases db.opens questionId <;> cases db.hasChat questionId <;>
      simp [previous?, allowed]

theorem commit_cancel_bound_iff (bound : Bound operatorUserId db) :
    Bound operatorUserId (commit operatorUserId (.cancel questionId) active db) ↔
      Sound operatorUserId (.cancel questionId) active db := by
  simp only [commit, Sound]
  by_cases read : active = some questionId
  · rw [if_neg (by simp [read])]
    have waits := (@ReplyDraftRepository.cancel_spec db questionId operatorUserId).1
    have result := @ReplyDraftRepository.cancel_result db questionId
    generalize ReplyDraftRepository.cancel questionId db = answer at waits result ⊢
    rcases answer with ⟨answer, cancelled⟩
    dsimp only at waits result
    rcases result with ⟨changed, rfl, status⟩ | ⟨error, rfl, status⟩
    · dsimp only
      rw [bound_clear_iff]
      simp only [waits]
      rw [idle_iff bound]
      rcases status with status | waiting
      · have own : db.activeQuestion? operatorUserId ≠ some questionId := by
          intro points
          have waiting := (bound questionId).1 points
          simp [Database.waits, status, isWaiting] at waiting
        simp [read, status, own]
      · have points := (bound questionId).2 waiting
        apply iff_of_true (Or.inr points)
        intro _ status
        simp [Database.waits, status, isWaiting] at waiting
    · exact iff_of_true bound (fun _ same => absurd same status)
  · rw [if_pos read]
    exact iff_of_true bound (fun same => absurd same read)

theorem commit_confirm_bound_iff {newId : UUID} {now : Time} (bound : Bound operatorUserId db) :
    Bound operatorUserId (commit operatorUserId (.confirm questionId newId now) active db) ↔
      Sound operatorUserId (.confirm questionId newId now) active db := by
  simp only [commit, Sound]
  by_cases read : active = some questionId
  · rw [if_neg (by simp [read])]
    cases answered : OutboundCommandRepository.confirmSend questionId newId now db with
    | mk answer confirmed =>
        cases answer with
        | error error =>
            apply iff_of_true bound
            intro _ requested listed
            rcases confirmSend_repeat requested listed with ⟨command, repeated⟩
            rw [repeated] at answered
            simp at answered
        | ok command =>
            dsimp only
            rw [bound_clear_iff]
            rcases confirmSend_ok answered with ⟨rfl, requested, listed⟩ | ⟨waiting, waits⟩
            · simp only [read, requested, listed, true_implies]
              constructor
              · intro idle
                cases points : confirmed.activeQuestion? operatorUserId with
                | none => rfl
                | some other =>
                    have waiting := (bound other).1 points
                    rw [idle other] at waiting
                    exact absurd waiting Bool.false_ne_true
              · intro cleared id
                rw [← Bool.not_eq_true, ← bound, cleared]
                simp
            · simp only [waits]
              rw [idle_iff bound]
              apply iff_of_true (Or.inr ((bound questionId).2 waiting))
              intro _ requested _
              simp [Database.waits, requested, isWaiting] at waiting
  · rw [if_pos read]
    exact iff_of_true bound (fun same => absurd same read)

/-- A commit keeps the agreement exactly when it is sound. -/
theorem commit_bound_iff {call : ReplyCall} (bound : Bound operatorUserId db) :
    Bound operatorUserId (commit operatorUserId call active db) ↔
      Sound operatorUserId call active db := by
  cases call with
  | continue_ => exact iff_of_true bound trivial
  | reply questionId => exact commit_reply_bound_iff bound
  | replace questionId =>
      have passes : ¬ (active ≠ none ∧ active ≠ some questionId ∧ (!true) = true) := by simp
      simp only [commit, openQuestion_bound_iff bound passes, Sound]
      cases db.opens questionId <;> cases db.hasChat questionId <;> simp
  | text questionId body =>
      apply iff_of_true _ trivial
      simp only [commit]
      split
      · exact bound
      · rcases @createVersion_waits operatorUserId db questionId body with ⟨waits, pointer⟩
        exact bound_congr bound waits pointer
  | edit questionId =>
      apply iff_of_true _ trivial
      simp only [commit]
      split
      · exact bound
      · rcases @reopenForEdit_waits operatorUserId db questionId with ⟨waits, pointer⟩
        exact bound_congr bound waits pointer
  | cancel questionId => exact commit_cancel_bound_iff bound
  | confirm questionId newId now => exact commit_confirm_bound_iff bound

end ReplyCall

end LeadAssistant
