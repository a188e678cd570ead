/-
Module: LeadAssistant.Workflow.AtMostOnce
Layer: Workflow
Purpose: How often a reply is sent. A rollback after Telegram has accepted a message leaves the
  command pending, and the next iteration sends it again. In runs without such a rollback an
  accepted reply is the last one: until the commit its iteration holds the only send command of the
  question, and the commit moves the question to a final status.
Trusted boundary: none
Main exports: AtMostOnce, KeepsAccepted, sent_at_most_once, resent_after_rollback
-/
import LeadAssistant.Workflow.Steps

namespace LeadAssistant.ReplyWorkflow

open Relational OutboundCommandRepository Transition

/-- Once Telegram has accepted a reply to a question, no later call is about that question. -/
def AtMostOnce (calls : List SendCall) : Prop :=
  calls.Pairwise (fun earlier later => earlier.accepted = true →
    later.questionId ≠ earlier.questionId)

instance (calls : List SendCall) : Decidable (AtMostOnce calls) :=
  inferInstanceAs (Decidable (List.Pairwise _ _))

/-- An iteration is rolled back although Telegram has accepted its message. -/
def World.losesAccepted (w : World) : Event → Bool
  | .crashSend commandId => (w.sending.get? commandId).any
      (fun iteration => iteration.acceptedId?.isSome)
  | _ => false

/-- No accepted message is rolled back. -/
def KeepsAccepted (w : World) (e : Event) : Prop := w.losesAccepted e = false

instance (w : World) (e : Event) : Decidable (KeepsAccepted w e) :=
  inferInstanceAs (Decidable (_ = false))

/-- Telegram has accepted the message of an open iteration about this question. -/
def World.Accepting (w : World) (questionId : UUID) : Prop :=
  ∃ iteration ∈ w.sending, iteration.acceptedId?.isSome = true ∧
    iteration.command.questionId = questionId

/-- The question was sent, or its sending was given up. -/
def World.Final (w : World) (questionId : UUID) : Prop :=
  ∃ status, (status = .sent ∨ status = .sendFailed) ∧ w.db.statusOf? questionId = some status

/-- Every call so far was made at most once, and those that were accepted are accounted for. -/
structure SentOnce (w : World) : Prop where
  once : AtMostOnce w.sendCalls
  accounted : ∀ call ∈ w.sendCalls, call.accepted = true →
    w.Accepting call.questionId ∨ w.Final call.questionId

/-- A later call is about a question for which nothing was accepted. -/
theorem AtMostOnce.snoc {calls : List SendCall} {call : SendCall} (once : AtMostOnce calls)
    (fresh : ∀ earlier ∈ calls, earlier.accepted = true →
      call.questionId ≠ earlier.questionId) : AtMostOnce (calls ++ [call]) := by
  refine List.pairwise_append.2 ⟨once, List.pairwise_singleton _ _, ?_⟩
  intro earlier held later last
  rw [List.mem_singleton.1 last]
  exact fresh earlier held

/-- So Telegram accepts at most one reply to a question. -/
theorem AtMostOnce.accepted_le_one {calls : List SendCall} (once : AtMostOnce calls)
    (questionId : UUID) :
    calls.countP (fun call => call.accepted && call.questionId = questionId) ≤ 1 := by
  induction calls with
  | nil => simp
  | cons call calls ih =>
      obtain ⟨first, rest⟩ := List.pairwise_cons.1 once
      by_cases counted : call.accepted = true ∧ call.questionId = questionId
      · have none_after : calls.countP
            (fun call => call.accepted && call.questionId = questionId) = 0 := by
          rw [List.countP_eq_zero]
          intro later held same
          simp only [Bool.and_eq_true, decide_eq_true_eq] at same
          exact first later held counted.1 (same.2.trans counted.2.symm)
        rw [List.countP_cons, none_after]
        simp [counted.1, counted.2]
      · rw [List.countP_cons_of_neg (by simpa using counted)]
        exact ih rest

section Steps

variable {w w' : World} {iteration : SendIteration} {questionId : UUID}

/-- At most one open iteration is about a given question. -/
theorem Consistent.sending_unique (ok : Consistent w) {other : SendIteration}
    (held : iteration ∈ w.sending) (held' : other ∈ w.sending)
    (shared : iteration.command.questionId = other.command.questionId) : iteration = other := by
  obtain ⟨row, found, _, send, taken⟩ := ok.sends iteration held
  obtain ⟨row', found', _, send', taken'⟩ := ok.sends other held'
  rw [taken.same.questionId, taken'.same.questionId] at shared
  have rows := ok.coupled.oneSend row (Table.mem_of_get? found) row' (Table.mem_of_get? found')
    send send' shared
  refine Table.eq_of_key_eq held held' ?_
  show iteration.command.id = other.command.id
  rw [taken.same.id, taken'.same.id, rows]

theorem World.Final.not_requested (final : w.Final questionId)
    (requested : w.db.statusOf? questionId = some .sendRequested) : False := by
  obtain ⟨status, cases_, found⟩ := final
  rw [found, Option.some.injEq] at requested
  subst requested
  rcases cases_ with eq | eq <;> simp at eq

theorem World.Final.kept {e : Event} (final : w.Final questionId) (ok : Consistent w)
    (moves : Moves w e w') : w'.Final questionId := by
  obtain ⟨status, cases_, found⟩ := final
  exact ⟨status, cases_, moves.keeps_final ok cases_ found⟩

/-- Steps that leave the open iterations or only advance one that is not answered yet. -/
theorem World.Accepting.kept (accepting : w.Accepting questionId)
    (kept : ∀ iteration ∈ w.sending, iteration.acceptedId?.isSome = true →
      iteration ∈ w'.sending) : w'.Accepting questionId := by
  obtain ⟨iteration, held, accepted, owner⟩ := accepting
  exact ⟨iteration, kept iteration held accepted, accepted, owner⟩

/-- A validated iteration's question has had nothing accepted. -/
theorem SentOnce.unaccepted (once : SentOnce w) (ok : Consistent w)
    (held : iteration ∈ w.sending) (unanswered : iteration.acceptedId? = none) :
    ∀ earlier ∈ w.sendCalls, earlier.accepted = true →
      iteration.command.questionId ≠ earlier.questionId := by
  intro earlier listed accepted same
  rcases once.accounted earlier listed accepted with ⟨other, held', answered, owner⟩ | final
  · rw [ok.sending_unique held held' (same.trans owner.symm)] at unanswered
    simp [unanswered] at answered
  · exact final.not_requested (same ▸ ok.requested held)

/-- Advancing an unanswered iteration keeps the answered ones. -/
theorem mem_setSendPhase_of_answered {phase : SendPhase} {other : SendIteration}
    (held : iteration ∈ w.sending) (unanswered : iteration.acceptedId? = none)
    (held' : other ∈ w.sending) (answered : other.acceptedId?.isSome = true) :
    other ∈ (w.setSendPhase iteration.command.id phase).sending := by
  refine (mem_setSendPhase held).2 (Or.inl ⟨held', fun same => ?_⟩)
  rw [Table.eq_of_key_eq held' held same, unanswered] at answered
  simp at answered

/-- The commit of an accepted message moves its question to a final status. -/
theorem final_of_closeSend {db' : Database} {after : OutboundCommand} (ok : Consistent w)
    (held : iteration ∈ w.sending) (change : Change w.db (some iteration.command.id) db')
    (stored : db'.outboundCommands.get? iteration.command.id = some after)
    (same : SameCommand iteration.command after)
    (final : questionStatusOf after.status ≠ .sendRequested) :
    (w.closeSend iteration.command.id db').Final iteration.command.questionId := by
  obtain ⟨row, _, _, send, taken⟩ := ok.sends iteration held
  have kind : after.commandType = .sendReply :=
    same.commandType.trans (taken.same.commandType.trans send)
  have status := (change.coupled ok.coupled).sendStatus after (Table.mem_of_get? stored) kind
  rw [same.questionId] at status
  refine ⟨questionStatusOf after.status, ?_, status⟩
  generalize after.status = left at final
  cases left <;> simp_all [questionStatusOf]

/-- A step without a call that keeps the answered iterations. -/
theorem SentOnce.unchanged {e : Event} (once : SentOnce w) (ok : Consistent w)
    (moves : Moves w e w') (calls : w'.sendCalls = w.sendCalls)
    (kept : ∀ iteration ∈ w.sending, iteration.acceptedId?.isSome = true →
      iteration ∈ w'.sending) : SentOnce w' := by
  refine ⟨calls ▸ once.once, fun call listed accepted => ?_⟩
  rw [calls] at listed
  exact (once.accounted call listed accepted).imp (fun held => held.kept kept)
    (fun held => held.kept ok moves)

/-- The next call of a validated iteration, accepted or refused. -/
theorem SentOnce.called {e : Event} {answer : SendAnswer} {accepted : Bool} (once : SentOnce w)
    (ok : Consistent w) (moves : Moves w e w') (held : iteration ∈ w.sending)
    (phase : iteration.phase = .validated) (outcome : answer.acceptedId?.isSome = accepted)
    (sending : w'.sending = (w.setSendPhase iteration.command.id (.answered answer)).sending)
    (calls : w'.sendCalls =
      w.sendCalls ++ [SendCall.mk iteration.command.questionId accepted]) : SentOnce w' := by
  have unanswered : iteration.acceptedId? = none := by simp [SendIteration.acceptedId?, phase]
  have fresh : AtMostOnce
      (w.sendCalls ++ [SendCall.mk iteration.command.questionId accepted]) :=
    once.once.snoc (once.unaccepted ok held unanswered)
  refine ⟨calls ▸ fresh, fun call listed accepted' => ?_⟩
  rw [calls] at listed
  rcases List.mem_append.1 listed with old | new
  · refine (once.accounted call old accepted').imp (fun before => before.kept ?_)
      (fun before => before.kept ok moves)
    intro other held' answered
    exact sending ▸ mem_setSendPhase_of_answered held unanswered held' answered
  · rw [List.mem_singleton.1 new] at accepted' ⊢
    refine Or.inl ⟨{ iteration with phase := .answered answer },
      sending ▸ (mem_setSendPhase held).2 (Or.inr rfl), ?_, rfl⟩
    exact outcome.trans accepted'

/-- Every step that keeps accepted messages keeps the account. -/
theorem SentOnce.step {e : Event} (once : SentOnce w) (ok : Consistent w)
    (keeps : KeepsAccepted w e) (moves : Moves w e w') : SentOnce w' := by
  have same_move := moves
  cases moves with
  | committed => exact once.unchanged ok same_move rfl (fun _ held _ => held)
  | claimedSend _ _ _ insert =>
      exact once.unchanged ok same_move rfl
        (fun _ held _ => (Table.mem_insert? insert).2 (Or.inl held))
  | @validatedSend _ _ _ iteration held phase _ =>
      have unanswered : iteration.acceptedId? = none := by simp [SendIteration.acceptedId?, phase]
      exact once.unchanged ok same_move rfl
        (fun _ => mem_setSendPhase_of_answered held unanswered)
  | refusedSend held phase refused =>
      exact once.called ok same_move held phase (by simp [refused]) rfl rfl
  | acceptedSend held phase accepted =>
      exact once.called ok same_move held phase (by simp [accepted]) rfl rfl
  | @closedSend _ db' iteration after held change stored same _ settled =>
      refine ⟨once.once, fun call listed accepted => ?_⟩
      rcases once.accounted call listed accepted with ⟨other, held', answered, owner⟩ | done
      · by_cases own : other.command.id = iteration.command.id
        · have eq := Table.eq_of_key_eq held' held own
          subst eq
          exact Or.inr (owner ▸ final_of_closeSend ok held change stored same (settled answered))
        · exact Or.inl ⟨other, mem_closeSend.2 ⟨held', own⟩, answered, owner⟩
      · exact Or.inr (done.kept ok same_move)
  | @abandonedSend _ iteration held reason =>
      have unanswered : iteration.acceptedId? = none := by
        rcases reason with rfl | unanswered
        · have found : w.sending.get? iteration.command.id = some iteration :=
            Table.get?_of_mem held
          simp only [KeepsAccepted, World.losesAccepted, found] at keeps
          simpa using keeps
        · exact unanswered
      refine once.unchanged ok same_move rfl (fun other held' answered => ?_)
      refine mem_closeSend.2 ⟨held', fun own => ?_⟩
      rw [Table.eq_of_key_eq held' held own, unanswered] at answered
      simp at answered
  | claimedEdit => exact once.unchanged ok same_move rfl (fun _ held _ => held)
  | refusedEdit => exact once.unchanged ok same_move rfl (fun _ held _ => held)
  | appliedEdit => exact once.unchanged ok same_move rfl (fun _ held _ => held)
  | completedEdit => exact once.unchanged ok same_move rfl (fun _ held _ => held)
  | failedEdit => exact once.unchanged ok same_move rfl (fun _ held _ => held)
  | abortedEdit => exact once.unchanged ok same_move rfl (fun _ held _ => held)
  | crashedEdit => exact once.unchanged ok same_move rfl (fun _ held _ => held)

end Steps

/-- The account is kept over a whole run. -/
theorem sentOnce_of_run {w v : World} {es : List Event} (fresh : w.Fresh)
    (run : Run step KeepsAccepted w es v) : SentOnce v := by
  induction run with
  | nil =>
      refine ⟨?_, by simp [fresh.noCall]⟩
      rw [fresh.noCall]
      exact List.Pairwise.nil
  | snoc before keeps next ih =>
      have ok := consistent_of_run fresh before
      exact ih.step ok keeps (step_moves ok next)

/-- In every run that rolls back no accepted message, `send_reply` is never called again for a
question after Telegram has accepted a reply to it, so Telegram accepts at most one. -/
theorem sent_at_most_once {w v : World} {es : List Event} (fresh : w.Fresh)
    (run : Run step KeepsAccepted w es v) :
    AtMostOnce v.sendCalls ∧ ∀ questionId,
      v.sendCalls.countP (fun call => call.accepted && call.questionId = questionId) ≤ 1 := by
  have once := (sentOnce_of_run fresh run).once
  exact ⟨once, once.accepted_le_one⟩

/-- A run that commits what Telegram accepted. -/
theorem sent_at_most_once_sample : ∃ v : World, AtMostOnce v.sendCalls ∧
    v.sendCalls = [⟨7, true⟩] := by
  have computed : (exec step KeepsAccepted sampleWorld
      (sampleDraft ++ sampleCall ++ [.finishSend 20 0])).map (fun v => v.sendCalls) =
        some [⟨7, true⟩] := rfl
  obtain ⟨v, run, calls⟩ := Run.exists_of_exec computed
  exact ⟨v, (sent_at_most_once sampleWorld_fresh run).1, calls⟩

/-- The listener stops after Telegram has accepted message 900 and before its commit. The command
is pending again, and the next iteration sends the reply a second time. -/
theorem resent_after_rollback : sampleWorld.Fresh ∧ ∃ v : World,
    Run step anyEvent sampleWorld (sampleDraft ++ sampleCall ++ [.crashSend 20,
      .claimSend "listener" 1, .validateSend 20 (.result .active) (some sampleTarget) 1,
      .callSend 20 (.returned 901), .finishSend 20 1]) v ∧
    v.sendCalls = [⟨7, true⟩, ⟨7, true⟩] ∧ ¬ AtMostOnce v.sendCalls := by
  have computed : (exec step anyEvent sampleWorld (sampleDraft ++ sampleCall ++ [.crashSend 20,
      .claimSend "listener" 1, .validateSend 20 (.result .active) (some sampleTarget) 1,
      .callSend 20 (.returned 901), .finishSend 20 1])).map (fun v => v.sendCalls) =
        some [⟨7, true⟩, ⟨7, true⟩] := rfl
  obtain ⟨v, run, calls⟩ := Run.exists_of_exec computed
  refine ⟨sampleWorld_fresh, v, run, calls, ?_⟩
  rw [calls]
  decide

end LeadAssistant.ReplyWorkflow
