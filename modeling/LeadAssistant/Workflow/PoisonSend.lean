/-
Module: LeadAssistant.Workflow.PoisonSend
Layer: Workflow
Purpose: One whole `SendReplyWorker.run_once`, which is a run of the workflow's steps. Every error
  the client may raise ends in a committed state in which the claimed command waits for a later time
  or is settled. `OutboundValidationError` has no handler: it rolls the claim back, and the command
  is due as before. It is raised exactly when the destination of the command disagrees with the
  stored question or with the target that Telegram shows. An attempt count or a next attempt that
  cannot be stored rolls the claim back as well.
Trusted boundary: human-reviewed spec
Main exports: SendReplyWorker.runOnce, Database.isDue, SendReplyWorker.TargetsAgree,
  claimed_send_settles, runOnce_is_run
-/
import LeadAssistant.Workflow.Steps

namespace LeadAssistant

open Relational OutboundCommandRepository

/-- The command is pending and its time has come. -/
def Database.isDue (db : Database) (commandId : UUID) (now : Time) : Bool :=
  (db.outboundCommands.get? commandId).any
    (fun command => command.status = .pending && command.nextAttemptAt ≤ now)

theorem isDue_putOutboundCommand {db : Database} {command : OutboundCommand} {now : Time}
    (stored : (db.outboundCommands.get? command.id).isSome) :
    (db.putOutboundCommand command).isDue command.id now =
      (command.status = .pending && command.nextAttemptAt ≤ now) := by
  unfold Database.isDue Database.putOutboundCommand
  dsimp only
  rw [Table.get?_put_self stored, Option.any_some]

namespace SendReplyWorker

/-- What the client does in one iteration: `verify_chat`, `get_reply_message`, `send_reply`. -/
structure ClientAnswers where
  access : VerifyAnswer
  target : Option ReplyMessage
  sent : SendAnswer

/-- A flood wait carries at least one second. -/
def ClientAnswers.WaitsForFlood (client : ClientAnswers) : Prop :=
  ∀ temporary retryAfterSeconds, client.sent = .refused .floodWait temporary retryAfterSeconds →
    ∃ delay, retryAfterSeconds = some delay ∧ 1 ≤ delay

/-- The temporary error that the answers end in. -/
def ClientAnswers.temporaryError? (client : ClientAnswers) : Option TelegramOutboundError :=
  match client.access, client.target, client.sent with
  | .transient, _, _ => some transientError
  | .result .active, some _, .refused code true retryAfterSeconds =>
      some ⟨code, .temporary, retryAfterSeconds⟩
  | _, _, _ => none

/-- The next attempt after the answers, if there is one, has a date. -/
def ClientAnswers.Dated (client : ClientAnswers) (command : OutboundCommand) (now : Time) : Prop :=
  ∀ error delay, client.temporaryError? = some error → retryDelay? command error = some delay →
    Calendar.representable (now + seconds delay) = true

/-- `run_once`: its answer and the contents it commits, or `none` when an exception leaves it. The
claim is flushed but read by nothing before the row is written again, so it is not stored here. -/
def runOnce (workerId : String) (locked : UUID → Bool) (client : ClientAnswers) (now : Time)
    (db : Database) : Option (Bool × Database) :=
  match claimSend workerId locked now db with
  | .error _ => none
  | .ok none => some (false, db)
  | .ok (some command) =>
      match db.detectedQuestions.get? command.questionId with
      | none => none
      | some question =>
          match validate command question client.access client.target with
          | .error .invalid => none
          | .error (.outbound error) =>
              (recordError command error now db).map (fun db => (true, db))
          | .error .transient =>
              (recordError command transientError now db).map (fun db => (true, db))
          | .ok _ => (settle command question client.sent now db).map (fun db => (true, db))

/-- The stored question waits for a send to the destination of the command. -/
def StoredTarget (command : OutboundCommand) (question : DetectedQuestion) : Prop :=
  question.status = .sendRequested ∧ question.telegramChatId = command.telegramChatId ∧
    question.telegramMessageId = command.sourceMessageId ∧ question.topicId = command.topicId

/-- The message is the one the command answers. -/
def FoundTarget (command : OutboundCommand) (message : ReplyMessage) : Prop :=
  message.telegramChatId = command.telegramChatId ∧
    message.telegramMessageId = command.sourceMessageId ∧ message.topicId = command.topicId

/-- The destination agrees with the question and, where it is looked up, with the target. -/
def TargetsAgree (command : OutboundCommand) (question : DetectedQuestion)
    (client : ClientAnswers) : Prop :=
  StoredTarget command question ∧ (client.access = .result .active →
    ∀ message, client.target = some message → FoundTarget command message)

section Validation

variable {command : OutboundCommand} {question : DetectedQuestion} {access : VerifyAnswer}
  {target : Option ReplyMessage} {message : ReplyMessage}

theorem storedTarget_iff : StoredTarget command question ↔
    ¬ (question.status ≠ .sendRequested ∨ question.telegramChatId ≠ command.telegramChatId ∨
      question.telegramMessageId ≠ command.sourceMessageId ∨
      question.topicId ≠ command.topicId) := by
  unfold StoredTarget
  simp only [not_or, ne_eq, not_not]

theorem foundTarget_iff : FoundTarget command message ↔
    ¬ (message.telegramChatId ≠ command.telegramChatId ∨
      message.telegramMessageId ≠ command.sourceMessageId ∨
      message.topicId ≠ command.topicId) := by
  unfold FoundTarget
  simp only [not_or, ne_eq, not_not]

/-- How the validation ends, once the stored question agrees. -/
theorem validate_cases (stored : StoredTarget command question) :
    (access = .transient ∧
      validate command question access target = .error .transient) ∨
    (access = .result .active ∧ (∃ message, target = some message ∧ FoundTarget command message) ∧
      validate command question access target = .ok ()) ∨
    (access = .result .active ∧
      (∃ message, target = some message ∧ ¬ FoundTarget command message) ∧
      validate command question access target = .error .invalid) ∨
    ((access = .result .active → target = none) ∧ ∃ code,
      validate command question access target = .error (.outbound ⟨code, .permanent, none⟩)) := by
  unfold validate
  rw [if_neg (storedTarget_iff.1 stored)]
  cases access with
  | transient => exact Or.inl ⟨rfl, rfl⟩
  | result outcome =>
      cases outcome with
      | active =>
          cases target with
          | none => exact Or.inr (Or.inr (Or.inr ⟨fun _ => rfl, _, rfl⟩))
          | some message =>
              dsimp only
              by_cases found : FoundTarget command message
              · rw [if_neg (foundTarget_iff.1 found)]
                exact Or.inr (Or.inl ⟨rfl, ⟨message, rfl, found⟩, rfl⟩)
              · rw [if_pos (not_not.1 (fun absent => found (foundTarget_iff.2 absent)))]
                exact Or.inr (Or.inr (Or.inl ⟨rfl, ⟨message, rfl, found⟩, rfl⟩))
      | readOnly => exact Or.inr (Or.inr (Or.inr ⟨fun active => by simp at active, _, rfl⟩))
      | accessLost => exact Or.inr (Or.inr (Or.inr ⟨fun active => by simp at active, _, rfl⟩))
      | verificationFailed =>
          exact Or.inr (Or.inr (Or.inr ⟨fun active => by simp at active, _, rfl⟩))

theorem validate_unstored (differs : ¬ StoredTarget command question) :
    validate command question access target = .error .invalid := by
  unfold validate
  exact if_pos (not_not.1 (fun absent => differs (storedTarget_iff.2 absent)))

end Validation

section Settling

variable {command : OutboundCommand} {question : DetectedQuestion} {now : Time} {db after : Database}

theorem rescheduled_not_due {errorCode : String} {delay : Nat}
    (stored : (db.outboundCommands.get? command.id).isSome) (waits : 1 ≤ delay) :
    (db.putOutboundCommand (rescheduled command errorCode (now + seconds delay))).isDue command.id
      now = false := by
  apply (@isDue_putOutboundCommand db (rescheduled command errorCode (now + seconds delay)) now
    stored).trans
  have positive : 0 < seconds delay := by
    unfold seconds
    omega
  have later : ¬ (now + seconds delay ≤ now) := Int.not_le.2 (Int.lt_add_of_pos_right now positive)
  simp [rescheduled, later]

theorem failSend_not_due {errorCode : String} {needsReview : Bool}
    (stored : (db.outboundCommands.get? command.id).isSome) :
    (failSend command errorCode needsReview db).isDue command.id now = false := by
  let failed : OutboundCommand :=
    { command with
      status := if needsReview then .needsReview else .failed, lastErrorCode := some errorCode,
      lastErrorMessage := some errorCode, lockedAt := none, lockedBy := none }
  apply (@isDue_putOutboundCommand db failed now stored).trans
  cases needsReview <;> simp [failed]

/-- A scheduled delay is at least one second, and so is one that Telegram asks for. -/
theorem one_le_retryDelay {error : TelegramOutboundError} {delay : Nat}
    (flood : error.code = .floodWait → ∃ seconds, error.retryAfterSeconds = some seconds ∧
      1 ≤ seconds) (chosen : retryDelay? command error = some delay) : 1 ≤ delay := by
  unfold retryDelay? at chosen
  split at chosen
  · rename_i isFlood
    rcases flood isFlood with ⟨seconds, carried, positive⟩
    simp only [carried, Option.getD_some, Option.some.injEq] at chosen
    exact chosen ▸ positive
  · split at chosen
    · have scheduled : ∀ listed ∈ retryDelays, 1 ≤ listed := by decide
      exact scheduled delay (List.mem_of_getElem? chosen)
    · simp at chosen

/-- After `_record_error` the command is not due: it waits, or is settled. -/
theorem recordError_not_due {error : TelegramOutboundError}
    (stored : (db.outboundCommands.get? command.id).isSome)
    (flood : error.kind = .temporary → error.code = .floodWait →
      ∃ seconds, error.retryAfterSeconds = some seconds ∧ 1 ≤ seconds)
    (recorded : recordError command error now db = some after) :
    after.isDue command.id now = false := by
  rcases recordError_cases recorded with
    ⟨chats, ⟨temporary, delay, chosen, _, rfl⟩ | ⟨needsReview, rfl⟩⟩
  · exact rescheduled_not_due stored (one_le_retryDelay (flood temporary) chosen)
  · exact failSend_not_due stored

/-- An iteration that records an error returns unless the next attempt cannot be dated. -/
theorem recorded_iff {error : TelegramOutboundError}
    (stored : (db.outboundCommands.get? command.id).isSome)
    (flood : error.kind = .temporary → error.code = .floodWait →
      ∃ seconds, error.retryAfterSeconds = some seconds ∧ 1 ≤ seconds) :
    (∃ after, (recordError command error now db).map (fun db => (true, db)) = some (true, after) ∧
      after.isDue command.id now = false) ↔
    (error.kind = .temporary → ∀ delay, retryDelay? command error = some delay →
      Calendar.representable (now + seconds delay) = true) := by
  rw [← @recordError_isSome_iff command error now db]
  cases recorded : recordError command error now db with
  | some after =>
      exact iff_of_true ⟨after, rfl, recordError_not_due stored flood recorded⟩ rfl
  | none =>
      apply iff_of_false
      · rintro ⟨_, returned, _⟩
        cases returned
      · simp

/-- After a validated send the rest of the iteration commits, and the command is not due, unless a
temporary error cannot be dated. -/
theorem settle_iff {sent : SendAnswer} {message : ReplyMessage}
    (stored : (db.outboundCommands.get? command.id).isSome)
    (owner : (db.detectedQuestions.get? command.questionId).isSome)
    (requested : question.status = .sendRequested)
    (flood : ClientAnswers.WaitsForFlood ⟨.result .active, some message, sent⟩) :
    (∃ after, (settle command question sent now db).map (fun db => (true, db)) =
      some (true, after) ∧ after.isDue command.id now = false) ↔
    ClientAnswers.Dated ⟨.result .active, some message, sent⟩ command now := by
  cases sent with
  | returned messageId =>
      have present : ¬ ((db.detectedQuestions.get? command.questionId).isNone = true ∨
          question.status ≠ .sendRequested) := by
        simp [Option.isSome_iff_ne_none.1 owner, requested]
      let completed : OutboundCommand :=
        { command with
          sentMessageId := some messageId, status := .succeeded, completedAt := some now,
          lockedAt := none, lockedBy := none }
      refine iff_of_true ?_ (fun _ _ none => by cases none)
      unfold settle completeSend
      dsimp only
      rw [if_neg present]
      exact ⟨_, rfl, (@isDue_putOutboundCommand db completed now stored).trans rfl⟩
  | refused code temporary retryAfterSeconds =>
      unfold settle
      dsimp only
      rw [recorded_iff stored (fun _ isFlood => flood temporary retryAfterSeconds (by
        dsimp only at isFlood ⊢
        rw [isFlood]))]
      cases temporary with
      | true =>
          constructor
          · rintro dated error delay same chosen
            cases same
            exact dated rfl delay chosen
          · intro dated _ delay chosen
            exact dated _ delay rfl chosen
      | false => exact iff_of_true (fun temporary => by cases temporary) (fun _ _ none => by cases none)
  | ambiguous code acceptedId =>
      unfold settle
      dsimp only
      rw [recorded_iff stored (fun temporary => by cases temporary)]
      exact iff_of_true (fun temporary => by cases temporary) (fun _ _ none => by cases none)

end Settling

/-- What becomes of a claimed command. -/
theorem claimed_settles_iff {workerId : String} {locked : UUID → Bool} {client : ClientAnswers}
    {now : Time} {db : Database} {command : OutboundCommand} {question : DetectedQuestion}
    (claims : claimSend workerId locked now db = .ok (some command))
    (owner : db.detectedQuestions.get? command.questionId = some question)
    (stored : (db.outboundCommands.get? command.id).isSome) (flood : client.WaitsForFlood) :
    (∃ after, runOnce workerId locked client now db = some (true, after) ∧
      after.isDue command.id now = false) ↔
    TargetsAgree command question client ∧ client.Dated command now := by
  obtain ⟨access, target, sent⟩ := client
  have owned := Option.isSome_of_eq_some owner
  unfold runOnce TargetsAgree
  rw [claims]
  dsimp only
  rw [owner]
  dsimp only
  by_cases agrees : StoredTarget command question
  · rcases @validate_cases command question access target agrees with
      ⟨rfl, ends⟩ | ⟨rfl, ⟨message, rfl, same⟩, ends⟩ | ⟨active, ⟨message, found, differs⟩, ends⟩ |
      ⟨inactive, code, ends⟩
    · rw [ends]
      dsimp only
      rw [recorded_iff stored (fun _ isFlood => by cases isFlood)]
      constructor
      · intro dated
        refine ⟨⟨agrees, fun active => by cases active⟩, ?_⟩
        rintro error delay same chosen
        cases same
        exact dated rfl delay chosen
      · rintro ⟨_, dated⟩ _ delay chosen
        exact dated _ delay rfl chosen
    · rw [ends]
      dsimp only
      rw [settle_iff stored owned agrees.1 flood]
      refine ⟨fun dated => ⟨⟨agrees, fun _ other found' => ?_⟩, dated⟩, And.right⟩
      exact Option.some.inj found' ▸ same
    · rw [ends]
      apply iff_of_false
      · rintro ⟨_, returned, _⟩
        cases returned
      · rintro ⟨⟨_, looked⟩, _⟩
        exact differs (looked active message found)
    · rw [ends]
      dsimp only
      rw [recorded_iff stored (fun temporary => by cases temporary)]
      refine iff_of_true (fun temporary => by cases temporary)
        ⟨⟨agrees, fun active message found => ?_⟩, ?_⟩
      · rw [inactive active] at found
        cases found
      · intro error delay ended
        unfold ClientAnswers.temporaryError? at ended
        dsimp only at ended
        split at ended
        · rw [validate, if_neg (storedTarget_iff.1 agrees)] at ends
          cases ends
        · cases inactive rfl
        · cases ended
  · rw [validate_unstored agrees]
    apply iff_of_false
    · rintro ⟨_, returned, _⟩
      cases returned
    · rintro ⟨⟨same, _⟩, _⟩
      exact agrees same

/-- The iteration that selects a due command returns and leaves it not due, if and only if the claim
can be stored, the destination agrees with the stored question and with the target that Telegram
shows, and the next attempt, if the answers ask for one, can be dated. Otherwise it raises, and
nothing of it is committed. -/
theorem claimed_send_settles {workerId : String} {locked : UUID → Bool} {client : ClientAnswers}
    {now : Time} {db : Database} {command : OutboundCommand} {question : DetectedQuestion}
    (selects : due? .sendReply locked now db = some command)
    (owner : db.detectedQuestions.get? command.questionId = some question)
    (flood : client.WaitsForFlood) :
    (∃ after, runOnce workerId locked client now db = some (true, after) ∧
      after.isDue command.id now = false) ↔
    claimFits workerId command = true ∧ TargetsAgree command question client ∧
      client.Dated (claimed workerId now command) now := by
  by_cases fits : claimFits workerId command = true
  · have claims : claimSend workerId locked now db =
        .ok (some (claimed workerId now command)) := by
      rw [claimSend, claim, selects]
      exact if_pos fits
    have stored : (db.outboundCommands.get? command.id).isSome :=
      Option.isSome_of_eq_some (Table.get?_of_mem (Table.mem_of_firstBy selects).1)
    have settles := claimed_settles_iff claims owner stored flood
    exact settles.trans (and_iff_right fits).symm
  · have raises : claimSend workerId locked now db = .error .dataError := by
      rw [claimSend, claim, selects]
      exact if_neg fits
    apply iff_of_false
    · rintro ⟨_, returned, _⟩
      unfold runOnce at returned
      rw [raises] at returned
      cases returned
    · rintro ⟨fit, _⟩
      exact fits fit

/-- A question whose reply is to be sent. -/
def sampleQuestion : DetectedQuestion where
  id := 7
  monitoredChatId := some 1
  telegramChatId := -100
  telegramMessageId := 40
  topicId := none
  topicTitle := none
  authorTelegramId := none
  authorDisplayName := none
  telegramCreatedAt := 0
  originalText := "How do we deploy?"
  translatedText := none
  sourceLanguage := none
  category := .technical
  confidence := 1
  status := .sendRequested
  detectedAt := 0
  expiresAt := 0

/-- Its send command, as `confirm_send` stores it. -/
def sampleRequested : Database where
  detectedQuestions := ⟨[sampleQuestion], List.nodup_singleton _⟩
  outboundCommands := ⟨[newSendCommand 20 0 sampleQuestion 2 "With the script."],
    List.nodup_singleton _⟩

/-- A client that shows a target in the given topic and is flooded. -/
def sampleClient (topicId : Option Int) : ClientAnswers where
  access := .result .active
  target := some { ReplyWorkflow.sampleTarget with topicId := topicId }
  sent := .refused .floodWait true (some 30)

theorem sampleClient_waits (topicId : Option Int) : (sampleClient topicId).WaitsForFlood := by
  intro temporary retryAfterSeconds same
  cases same
  exact ⟨30, rfl, by decide⟩

/-- A flooded send waits for its time. -/
theorem claimed_send_settles_sample : ∃ after,
    runOnce "listener" (fun _ => false) (sampleClient none) 1 sampleRequested =
      some (true, after) ∧ after.isDue 20 1 = false := by
  have selects : due? .sendReply (fun _ => false) 1 sampleRequested =
      some (newSendCommand 20 0 sampleQuestion 2 "With the script.") := by
    decide +kernel
  apply (claimed_send_settles selects rfl (sampleClient_waits none)).2
  refine ⟨by decide, ⟨⟨rfl, rfl, rfl, rfl⟩, ?_⟩, ?_⟩
  · intro _ message found
    cases found
    exact ⟨rfl, rfl, rfl⟩
  · intro error delay ended chosen
    cases ended
    cases chosen
    decide

/-- Telegram shows the source message in a topic that the command does not have. The iteration
raises, and the command is pending and due as before. -/
theorem moved_target_poisons : sampleRequested.isDue 20 1 = true ∧
    (sampleClient (some 9)).WaitsForFlood ∧
    (runOnce "listener" (fun _ => false) (sampleClient (some 9)) 1 sampleRequested).isNone ∧
    ¬ ∃ after, runOnce "listener" (fun _ => false) (sampleClient (some 9)) 1 sampleRequested =
      some (true, after) ∧ after.isDue 20 1 = false := by
  have raised : (runOnce "listener" (fun _ => false) (sampleClient (some 9)) 1
      sampleRequested).isNone := by decide +kernel
  refine ⟨by decide +kernel, sampleClient_waits (some 9), raised, ?_⟩
  rintro ⟨after, returned, _⟩
  rw [returned] at raised
  cases raised

end SendReplyWorker

namespace ReplyWorkflow

open Transition SendReplyWorker

/-- What `run_once` leaves committed: with an exception, what was there before. -/
def committedBy (workerId : String) (locked : UUID → Bool) (client : ClientAnswers) (now : Time)
    (db : Database) : Database :=
  ((runOnce workerId locked client now db).map Prod.snd).getD db

section Iteration

variable {w : World} {command : OutboundCommand} {question : DetectedQuestion}
  {phase : SendPhase} {client : ClientAnswers} {now : Time} {workerId : String}

theorem get?_setSendPhase {next : SendPhase}
    (held : w.sending.get? command.id = some ⟨command, question, phase⟩) :
    (w.setSendPhase command.id next).sending.get? command.id = some ⟨command, question, next⟩ := by
  unfold World.setSendPhase
  dsimp only
  rw [Table.get?_update, if_pos rfl, held, Option.map_some]

/-- The send call of a validated iteration changes nothing that is stored. -/
theorem exists_callSend (held : w.sending.get? command.id = some ⟨command, question, .validated⟩)
    (fresh : ∀ messageId, client.sent.acceptedId? = some messageId →
      w.telegram.get? (command.telegramChatId, messageId) = none) :
    ∃ u, step w (.callSend command.id client.sent) = some u ∧ u.db = w.db ∧
      u.sending.get? command.id = some ⟨command, question, .answered client.sent⟩ := by
  simp only [step, held, World.callSend]
  cases accepted : client.sent.acceptedId? with
  | none => exact ⟨_, rfl, rfl, get?_setSendPhase held⟩
  | some messageId =>
      have free : ∀ other ∈ w.telegram, other.key ≠ (TelegramMessage.mk command.telegramChatId
          messageId command.questionId command.text).key :=
        Table.get?_eq_none_iff.1 (fresh messageId accepted)
      rcases Table.exists_insert? free with ⟨telegram, shown⟩
      dsimp only
      rw [shown, Option.map_some]
      exact ⟨_, rfl, rfl, get?_setSendPhase held⟩

/-- A claimed iteration goes through the steps of the workflow and commits what `run_once` does. -/
theorem runOnce_is_run
    (claims : OutboundCommandRepository.claimSend workerId w.locked now w.db = .ok (some command))
    (owner : w.db.detectedQuestions.get? command.questionId = some question)
    (fresh : ∀ messageId, client.sent.acceptedId? = some messageId →
      w.telegram.get? (command.telegramChatId, messageId) = none) :
    ∃ es v, Run step anyEvent w es v ∧ v.db = committedBy workerId w.locked client now w.db := by
  have unlocked := (claims_of_claim claims).2
  simp only [World.locked, Bool.or_eq_false_iff, Option.isSome_eq_false_iff,
    Option.isNone_iff_eq_none] at unlocked
  have free : ∀ other ∈ w.sending, other.commandId ≠
      (SendIteration.mk command question .claimed).commandId :=
    Table.get?_eq_none_iff.1 unlocked.1
  rcases Table.exists_insert? free with ⟨sending, inserted⟩
  let opened : World := { w with sending := sending }
  have first : step w (.claimSend workerId now) = some opened := by
    simp only [step, World.claimSend, claims, owner, inserted, Option.map_some, opened]
  have held : opened.sending.get? command.id = some ⟨command, question, .claimed⟩ :=
    (Table.get?_insert? inserted).trans (if_pos rfl)
  have second : step opened (.validateSend command.id client.access client.target now) =
      some (opened.validateSend ⟨command, question, .claimed⟩ client.access client.target now) := by
    simp only [step, held]
  have claimed : Run step anyEvent w [.claimSend workerId now] opened :=
    .snoc .nil trivial first
  have validated := claimed.snoc trivial second
  unfold committedBy runOnce
  rw [claims]
  dsimp only
  rw [owner]
  dsimp only
  cases ends : validate command question client.access client.target with
  | error failure =>
      refine ⟨_, _, validated, ?_⟩
      unfold World.validateSend
      dsimp only
      have unchanged : opened.db = w.db := rfl
      rw [ends, unchanged]
      cases failure with
      | invalid => rfl
      | outbound error =>
          dsimp only
          cases recordError command error now w.db <;> rfl
      | transient =>
          dsimp only
          cases recordError command transientError now w.db <;> rfl
  | ok _ =>
      have later : opened.validateSend ⟨command, question, .claimed⟩ client.access client.target
          now = opened.setSendPhase command.id .validated := by
        unfold World.validateSend
        dsimp only
        rw [ends]
      rw [later] at validated
      rcases exists_callSend (get?_setSendPhase held) fresh with ⟨called, third, same, answered⟩
      have fourth : step called (.finishSend command.id now) =
          some (called.finishSend ⟨command, question, .answered client.sent⟩ client.sent now) := by
        simp only [step, answered]
      refine ⟨_, _, (validated.snoc trivial third).snoc trivial fourth, ?_⟩
      have unchanged : called.db = w.db := same
      unfold World.finishSend
      dsimp only
      rw [unchanged]
      cases settle command question client.sent now w.db <;> rfl

end Iteration

end ReplyWorkflow

end LeadAssistant
