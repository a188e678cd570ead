/-
Module: LeadAssistant.Workflow.FloodWait
Layer: Workflow
Purpose: `SendReplyWorker.run_once` over the Telethon client, and what becomes of a command when
  Telegram answers one of its requests with a flood wait. Only the send carries the seconds to the
  schedule: a flooded verification waits as the attempt count says, and a flooded fetch of the
  target leaves the iteration by an exception.
Trusted boundary: human-reviewed spec
Main exports: SendReplyWorker.runOnceOver, runOnceOver_eq, TelethonRequest, TelethonAnswers.Made,
  Honours, flood_wait_honoured_iff
-/
import LeadAssistant.Listener.TelethonClient
import LeadAssistant.Workflow.PoisonSend

namespace LeadAssistant

open Relational OutboundCommandRepository

namespace SendReplyWorker

instance (command : OutboundCommand) (question : DetectedQuestion) :
    Decidable (StoredTarget command question) := by
  unfold StoredTarget
  infer_instance

/-- `_validate`; `none` when an exception of Telethon leaves it. -/
def validateOver (command : OutboundCommand) (question : DetectedQuestion)
    (telethon : TelethonAnswers) : Option (Except ValidationFailure Unit) :=
  if StoredTarget command question then
    match telethon.verifyChat with
    | .error (.unhandled _) => none
    | .error .transient => some (.error .transient)
    | .ok access =>
        if access.outcome = .active then
          match telethon.getReplyMessage with
          | .error _ => none
          | .ok target => some (validate command question (.result .active) target)
        else some (validate command question (.result access.outcome) none)
  else some (.error .invalid)

/-- `run_once` after the claim; `none` when an exception leaves it. -/
def runClaimed (telethon : TelethonAnswers) (command : OutboundCommand)
    (question : DetectedQuestion) (now : Time) (db : Database) : Option (Bool × Database) :=
  match validateOver command question telethon with
  | none => none
  | some (.error .invalid) => none
  | some (.error (.outbound error)) => (recordError command error now db).map (fun db => (true, db))
  | some (.error .transient) =>
      (recordError command transientError now db).map (fun db => (true, db))
  | some (.ok _) =>
      match telethon.sendReply with
      | .error _ => none
      | .ok answer => (settle command question answer now db).map (fun db => (true, db))

/-- `run_once` over Telethon. -/
def runOnceOver (workerId : String) (locked : UUID → Bool) (telethon : TelethonAnswers)
    (now : Time) (db : Database) : Option (Bool × Database) :=
  match claimSend workerId locked now db with
  | .error _ => none
  | .ok none => some (false, db)
  | .ok (some command) =>
      match db.detectedQuestions.get? command.questionId with
      | none => none
      | some question => runClaimed telethon command question now db

/-- What it leaves committed. -/
def committedOver (workerId : String) (locked : UUID → Bool) (telethon : TelethonAnswers)
    (now : Time) (db : Database) : Database :=
  ((runOnceOver workerId locked telethon now db).map Prod.snd).getD db

theorem committedOver_of_claims {workerId : String} {locked : UUID → Bool}
    {telethon : TelethonAnswers} {now : Time} {db : Database} {command : OutboundCommand}
    {question : DetectedQuestion} (claims : claimSend workerId locked now db = .ok (some command))
    (owner : db.detectedQuestions.get? command.questionId = some question) :
    committedOver workerId locked telethon now db =
      ((runClaimed telethon command question now db).map Prod.snd).getD db := by
  unfold committedOver runOnceOver
  rw [claims]
  dsimp only
  rw [owner]

/-- The answer of `verify_chat`, unless an exception leaves it that the worker does not handle. -/
def access? (telethon : TelethonAnswers) : Option VerifyAnswer :=
  match telethon.verifyChat with
  | .ok access => some (.result access.outcome)
  | .error .transient => some .transient
  | .error (.unhandled _) => none

/-- A client whose methods all return, or raise what the worker handles, is the worker's client. -/
theorem runOnceOver_eq {workerId : String} {locked : UUID → Bool} {telethon : TelethonAnswers}
    {client : ClientAnswers} {now : Time} {db : Database}
    (access : access? telethon = some client.access)
    (target : telethon.getReplyMessage = .ok client.target)
    (sent : telethon.sendReply = .ok client.sent) :
    runOnceOver workerId locked telethon now db = runOnce workerId locked client now db := by
  have validated : ∀ command question, validateOver command question telethon =
      some (validate command question client.access client.target) := by
    intro command question
    unfold validateOver
    by_cases stored : StoredTarget command question
    · rw [if_pos stored]
      unfold access? at access
      cases verified : telethon.verifyChat with
      | error failure =>
          rw [verified] at access
          cases failure with
          | unhandled error => cases access
          | transient =>
              rw [← Option.some.inj access]
              unfold validate
              rw [if_neg (storedTarget_iff.1 stored)]
      | ok result =>
          rw [verified] at access
          have access : VerifyAnswer.result result.outcome = client.access := Option.some.inj access
          rw [← access]
          dsimp only
          by_cases active : result.outcome = .active
          · rw [if_pos active, target, active]
          · rw [if_neg active]
            unfold validate
            rw [if_neg (storedTarget_iff.1 stored), if_neg (storedTarget_iff.1 stored)]
            cases outcome : result.outcome with
            | active => exact absurd outcome active
            | readOnly | accessLost | verificationFailed => rfl
    · rw [if_neg stored, validate_unstored stored]
  unfold runOnceOver runOnce runClaimed
  cases claimSend workerId locked now db with
  | error raised => rfl
  | ok claims =>
      cases claims with
      | none => rfl
      | some command =>
          dsimp only
          cases db.detectedQuestions.get? command.questionId with
          | none => rfl
          | some question =>
              dsimp only
              rw [validated, sent]
              cases validate command question client.access client.target with
              | ok _ => rfl
              | error failure => cases failure <;> rfl

end SendReplyWorker

/-- The requests of one iteration. -/
inductive TelethonRequest where
  | entity | history | permissions | message | send
deriving Repr, DecidableEq

/-- The requests of `verify_chat`. -/
def TelethonRequest.verifies : TelethonRequest → Bool
  | .entity | .history | .permissions => true
  | .message | .send => false

namespace TelethonAnswers

/-- The request is answered with a flood wait. -/
def Floods (telethon : TelethonAnswers) (wait : Int) : TelethonRequest → Prop
  | .entity => telethon.entity = .error (.floodWait wait)
  | .history => telethon.history = .error (.floodWait wait)
  | .permissions => telethon.permissions = .error (.floodWait wait)
  | .message => telethon.message = .error (.floodWait wait)
  | .send => telethon.sent = .error (.floodWait wait)

/-- The iteration of a command comes to the request. -/
def Made (telethon : TelethonAnswers) (command : OutboundCommand) (question : DetectedQuestion) :
    TelethonRequest → Prop
  | .entity => SendReplyWorker.StoredTarget command question
  | .history => SendReplyWorker.StoredTarget command question ∧
      ∃ entity, telethon.entity = .ok entity ∧ entity.group?.isSome
  | .permissions => SendReplyWorker.StoredTarget command question ∧
      (∃ entity, telethon.entity = .ok entity ∧ entity.group?.isSome) ∧ telethon.history = .ok ()
  | .message => SendReplyWorker.StoredTarget command question ∧
      ∃ access, telethon.verifyChat = .ok access ∧ access.outcome = .active
  | .send => SendReplyWorker.validateOver command question telethon = some (.ok ())

variable {telethon : TelethonAnswers} {command : OutboundCommand} {question : DetectedQuestion}
  {request : TelethonRequest} {wait : Int}

theorem Made.stored (made : telethon.Made command question request) (early : request ≠ .send) :
    SendReplyWorker.StoredTarget command question := by
  cases request with
  | entity => exact made
  | history | permissions | message => exact made.1
  | send => exact absurd rfl early

/-- A flooded verification raises the transient error, and the seconds are lost. -/
theorem verifyChat_of_flood (made : telethon.Made command question request)
    (flooded : telethon.Floods wait request) (verifies : request.verifies = true) :
    telethon.verifyChat = .error .transient := by
  have raised : telethon.checkChat = .error (.floodWait wait) := by
    unfold checkChat
    cases request with
    | entity =>
        have flooded : telethon.entity = .error (.floodWait wait) := flooded
        rw [flooded]
        rfl
    | history =>
        have flooded : telethon.history = .error (.floodWait wait) := flooded
        rcases made with ⟨_, entity, found, isGroup⟩
        rcases Option.isSome_iff_exists.1 isGroup with ⟨kind, group⟩
        simp only [found, group, flooded, bind, Except.bind]
    | permissions =>
        have flooded : telethon.permissions = .error (.floodWait wait) := flooded
        rcases made with ⟨_, ⟨entity, found, isGroup⟩, read⟩
        rcases Option.isSome_iff_exists.1 isGroup with ⟨kind, group⟩
        simp only [found, group, read, flooded, bind, Except.bind]
    | message | send => cases verifies
  unfold verifyChat
  rw [raised]

end TelethonAnswers

/-- Nobody works on the command any more, or it waits until Telegram's wait is over. -/
def Honours (db : Database) (commandId : UUID) (wait : Int) (now : Time) : Prop :=
  ∃ row, db.outboundCommands.get? commandId = some row ∧
    (row.status = .pending ∧ now + seconds wait ≤ row.nextAttemptAt ∨
      row.status = .succeeded ∨ row.status = .failed ∨ row.status = .needsReview)

namespace SendReplyWorker

section Honours

variable {command : OutboundCommand} {question : DetectedQuestion} {now : Time} {db : Database}
  {wait : Int}

theorem seconds_le_seconds {a b : Int} : seconds a ≤ seconds b ↔ a ≤ b := by
  unfold seconds
  omega

theorem honours_iff {commandId : UUID} {row : OutboundCommand}
    (held : db.outboundCommands.get? commandId = some row) :
    Honours db commandId wait now ↔
      row.status = .pending ∧ now + seconds wait ≤ row.nextAttemptAt ∨
        row.status = .succeeded ∨ row.status = .failed ∨ row.status = .needsReview := by
  unfold Honours
  rw [held]
  exact ⟨fun ⟨_, same, ends⟩ => Option.some.inj same ▸ ends, fun ends => ⟨row, rfl, ends⟩⟩

/-- A retry honours the waits up to its delay. -/
theorem honours_rescheduled_iff {errorCode : String} {delay : Nat}
    (stored : (db.outboundCommands.get? command.id).isSome) :
    Honours (db.putOutboundCommand (rescheduled command errorCode (now + seconds delay))) command.id
      wait now ↔ wait ≤ delay := by
  have row : (db.putOutboundCommand (rescheduled command errorCode
      (now + seconds delay))).outboundCommands.get? command.id =
      some (rescheduled command errorCode (now + seconds delay)) :=
    ReplyWorkflow.get?_putOutboundCommand stored
  rw [honours_iff row]
  constructor
  · rintro (⟨_, late⟩ | settled)
    · exact seconds_le_seconds.1 (Int.le_of_add_le_add_left late)
    · simp [rescheduled] at settled
  · intro short
    exact Or.inl ⟨rfl, Int.add_le_add_left (seconds_le_seconds.2 short) now⟩

/-- A command that has failed honours every wait. -/
theorem honours_failSend {errorCode : String} {needsReview : Bool}
    (stored : (db.outboundCommands.get? command.id).isSome) :
    Honours (failSend command errorCode needsReview db) command.id wait now := by
  let failed : OutboundCommand :=
    { command with
      status := if needsReview then .needsReview else .failed, lastErrorCode := some errorCode,
      lastErrorMessage := some errorCode, lockedAt := none, lockedBy := none }
  have row : (failSend command errorCode needsReview db).outboundCommands.get? command.id =
      some failed := @Table.get?_put_self _ _ _ _ _ failed stored
  rw [honours_iff row]
  cases needsReview with
  | true => exact Or.inr (Or.inr (Or.inr rfl))
  | false => exact Or.inr (Or.inr (Or.inl rfl))

/-- A command that is due honours no wait. -/
theorem not_honours_of_due {commandId : UUID} {row : OutboundCommand}
    (held : db.outboundCommands.get? commandId = some row) (pending : row.status = .pending)
    (due : row.nextAttemptAt ≤ now) (positive : 1 ≤ wait) : ¬ Honours db commandId wait now := by
  rw [honours_iff held]
  rintro (⟨_, late⟩ | settled)
  · have later : 0 < seconds wait := by
      unfold seconds
      omega
    exact Int.not_le.2 (Int.lt_add_of_pos_right now later) (late.trans due)
  · rw [pending] at settled
    simp at settled

/-- A retry that is committed if it can be dated. -/
theorem honours_retrySend_iff {row : OutboundCommand} {errorCode : String} {delay : Nat}
    (held : db.outboundCommands.get? command.id = some row) (pending : row.status = .pending)
    (due : row.nextAttemptAt ≤ now) (positive : 1 ≤ wait) :
    Honours ((retrySend command errorCode delay now db).getD db) command.id wait now ↔
      wait ≤ delay ∧ Calendar.representable (now + seconds delay) = true := by
  unfold retrySend
  split
  · rename_i dated
    rw [Option.getD_some, honours_rescheduled_iff (Option.isSome_of_eq_some held)]
    exact (and_iff_left dated).symm
  · rename_i late
    rw [Option.getD_none]
    exact iff_of_false (not_honours_of_due held pending due positive) (fun dated => late dated.2)

/-- After a flooded verification the schedule of the attempts decides. -/
theorem honours_transient_iff {row : OutboundCommand}
    (held : db.outboundCommands.get? command.id = some row) (pending : row.status = .pending)
    (due : row.nextAttemptAt ≤ now) (positive : 1 ≤ wait) :
    Honours ((recordError command transientError now db).getD db) command.id wait now ↔
      ∀ delay, retryDelays[command.attemptCount - 1]? = some delay →
        wait ≤ delay ∧ Calendar.representable (now + seconds delay) = true := by
  have scheduled : retryDelay? command transientError = retryDelays[command.attemptCount - 1]? := by
    unfold retryDelay?
    rw [if_neg (by decide)]
    split
    · rfl
    · rename_i spent
      exact (List.getElem?_eq_none (by omega)).symm
  have temporary : transientError.kind = .temporary := rfl
  unfold recordError
  rw [if_neg (by decide), temporary, scheduled]
  dsimp only
  cases retryDelays[command.attemptCount - 1]? with
  | some delay =>
      dsimp only
      rw [honours_retrySend_iff held pending due positive]
      exact ⟨fun short other same => Option.some.inj same ▸ short, fun all => all delay rfl⟩
  | none =>
      exact iff_of_true (honours_failSend (Option.isSome_of_eq_some held))
        (fun _ none => by cases none)

/-- The send carries the seconds to the schedule. -/
theorem honours_flooded_send_iff {row : OutboundCommand}
    (held : db.outboundCommands.get? command.id = some row) (pending : row.status = .pending)
    (due : row.nextAttemptAt ≤ now) (positive : 1 ≤ wait) :
    Honours ((recordError command ⟨.floodWait, .temporary, some wait.toNat⟩ now db).getD db)
      command.id wait now ↔ Calendar.representable (now + seconds wait) = true := by
  have recorded : recordError command ⟨.floodWait, .temporary, some wait.toNat⟩ now db =
      retrySend command "FLOOD_WAIT" wait.toNat now db := rfl
  have whole : (wait.toNat : Int) = wait := Int.toNat_of_nonneg (by omega)
  rw [recorded, honours_retrySend_iff held pending due positive, whole]
  exact and_iff_right (Int.le_refl wait)

end Honours

/-- What an iteration that raised or recorded an error leaves. -/
theorem getD_recorded (recorded : Option Database) :
    ((recorded.map (fun db => (true, db))).map Prod.snd).getD db = recorded.getD db := by
  cases recorded with
  | none => rfl
  | some after => rfl

/-- What becomes of a claimed command one of whose requests is flooded. -/
theorem claimed_honoured_iff {command : OutboundCommand} {question : DetectedQuestion} {now : Time}
    {db : Database} {wait : Int} {telethon : TelethonAnswers} {row : OutboundCommand}
    {request : TelethonRequest} (held : db.outboundCommands.get? command.id = some row)
    (pending : row.status = .pending) (due : row.nextAttemptAt ≤ now)
    (made : telethon.Made command question request) (flooded : telethon.Floods wait request)
    (positive : 1 ≤ wait) :
    Honours (((runClaimed telethon command question now db).map Prod.snd).getD db) command.id wait
        now ↔
      (request = .send ∧ Calendar.representable (now + seconds wait) = true) ∨
        (request.verifies = true ∧ ∀ delay, retryDelays[command.attemptCount - 1]? = some delay →
          wait ≤ delay ∧ Calendar.representable (now + seconds delay) = true) := by
  unfold runClaimed
  cases request with
  | send =>
      have flooded : telethon.sent = .error (.floodWait wait) := flooded
      have made : validateOver command question telethon = some (.ok ()) := made
      have sent : telethon.sendReply = .ok (.refused .floodWait true (some wait.toNat)) := by
        unfold TelethonAnswers.sendReply
        rw [flooded]
      rw [made, sent]
      unfold settle
      dsimp only
      rw [getD_recorded, if_pos rfl, honours_flooded_send_iff held pending due positive]
      constructor
      · exact fun dated => Or.inl ⟨rfl, dated⟩
      · rintro (⟨_, dated⟩ | ⟨verifies, _⟩)
        · exact dated
        · cases verifies
  | message =>
      have flooded : telethon.getReplyMessage = .error (.floodWait wait) := flooded
      rcases made with ⟨target, access, verified, active⟩
      have escapes : validateOver command question telethon = none := by
        unfold validateOver
        rw [if_pos target, verified]
        dsimp only
        rw [if_pos active, flooded]
      rw [escapes]
      apply iff_of_false (not_honours_of_due held pending due positive)
      rintro (⟨same, _⟩ | ⟨verifies, _⟩)
      · cases same
      · cases verifies
  | entity | history | permissions =>
      have target := made.stored (by simp)
      have transient : validateOver command question telethon = some (.error .transient) := by
        unfold validateOver
        rw [if_pos target, TelethonAnswers.verifyChat_of_flood made flooded rfl]
      rw [transient]
      dsimp only
      rw [getD_recorded, honours_transient_iff held pending due positive]
      constructor
      · exact fun short => Or.inr ⟨rfl, short⟩
      · rintro (⟨same, _⟩ | ⟨_, short⟩)
        · cases same
        · exact short

/-- For every due command that is selected, whichever request of its iteration Telegram answers with
a flood wait of at least one second: the command waits it out, or is settled, exactly when the claim
can be stored, and the request is the send and the wait ends at a date that can be stored, or the
request is one of the verification and the same holds of the scheduled delay of the attempt, if there
is one, and that delay is not shorter. -/
theorem flood_wait_honoured_iff {workerId : String} {locked : UUID → Bool}
    {telethon : TelethonAnswers} {now : Time} {db : Database} {command : OutboundCommand}
    {question : DetectedQuestion} {request : TelethonRequest} {wait : Int}
    (selects : due? .sendReply locked now db = some command)
    (owner : db.detectedQuestions.get? command.questionId = some question)
    (made : telethon.Made command question request) (flooded : telethon.Floods wait request)
    (positive : 1 ≤ wait) :
    Honours (committedOver workerId locked telethon now db) command.id wait now ↔
      claimFits workerId command = true ∧
        ((request = .send ∧ Calendar.representable (now + seconds wait) = true) ∨
          (request.verifies = true ∧ ∀ delay, retryDelays[command.attemptCount]? = some delay →
            wait ≤ delay ∧ Calendar.representable (now + seconds delay) = true)) := by
  rcases Table.mem_of_firstBy selects with ⟨held, due⟩
  simp only [claimable, Bool.and_eq_true, decide_eq_true_eq] at due
  have found := Table.get?_of_mem held
  by_cases fits : claimFits workerId command = true
  · have claims : claimSend workerId locked now db =
        .ok (some (claimed workerId now command)) := by
      rw [claimSend, claim, selects]
      exact if_pos fits
    have made : telethon.Made (claimed workerId now command) question request := by
      cases request <;> exact made
    rw [committedOver_of_claims claims owner]
    have honoured := @claimed_honoured_iff (claimed workerId now command) question now db wait
      telethon command request found due.1.1.2 due.1.2 made flooded positive
    exact honoured.trans (and_iff_right fits).symm
  · have raises : claimSend workerId locked now db = .error .dataError := by
      rw [claimSend, claim, selects]
      exact if_neg fits
    have kept : committedOver workerId locked telethon now db = db := by
      unfold committedOver runOnceOver
      rw [raises]
      rfl
    rw [kept]
    exact iff_of_false (not_honours_of_due found due.1.1.2 due.1.2 positive)
      (fun condition => fits condition.1)

/-- A supergroup in which everybody may write, and a send that is flooded. -/
def sampleTelethon : TelethonAnswers where
  entity := .ok (.channel false true false false)
  history := .ok ()
  permissions := .ok ⟨false, false, false, false⟩
  message := .ok (some ReplyWorkflow.sampleTarget)
  sent := .error (.floodWait 30)

theorem sampleRequested_selects : due? .sendReply (fun _ => false) 1 sampleRequested =
    some (newSendCommand 20 0 sampleQuestion 2 "With the script.") := by
  decide +kernel

theorem flood_wait_honoured_iff_sample :
    Honours (committedOver "listener" (fun _ => false) sampleTelethon 1 sampleRequested) 20 30 1 :=
  (@flood_wait_honoured_iff "listener" _ sampleTelethon 1 _ _ _ .send 30 sampleRequested_selects rfl
    rfl rfl (by decide)).2 ⟨by decide, Or.inl ⟨rfl, by decide⟩⟩

/-- The command of the sample question as an iteration has claimed it. -/
def sampleSend : OutboundCommand :=
  claimed "listener" 1 (newSendCommand 20 0 sampleQuestion 2 "With the script.")

theorem sampleRequested_claims :
    claimSend "listener" (fun _ => false) 1 sampleRequested = .ok (some sampleSend) := by
  rw [claimSend, claim, sampleRequested_selects]
  rfl

/-- Telegram asks for a minute. When it does so while the history is read, the first attempt is
repeated after 15 seconds; while the target is fetched, the command is due as before. -/
theorem flooded_validation_not_waited_out :
    ¬ Honours (committedOver "listener" (fun _ => false)
      { sampleTelethon with history := .error (.floodWait 60) } 1 sampleRequested) 20 60 1 ∧
    (committedOver "listener" (fun _ => false)
      { sampleTelethon with history := .error (.floodWait 60) } 1 sampleRequested).isDue 20
        (1 + seconds 15) = true ∧
    ¬ Honours (committedOver "listener" (fun _ => false)
      { sampleTelethon with message := .error (.floodWait 60) } 1 sampleRequested) 20 60 1 ∧
    (committedOver "listener" (fun _ => false)
      { sampleTelethon with message := .error (.floodWait 60) } 1 sampleRequested).isDue 20 1 =
        true := by
  refine ⟨?_, by decide +kernel, ?_, by decide +kernel⟩
  · rw [committedOver_of_claims sampleRequested_claims rfl]
    intro honours
    rcases (@claimed_honoured_iff sampleSend sampleQuestion 1 sampleRequested 60
      { sampleTelethon with history := .error (.floodWait 60) } _ .history rfl rfl (by decide)
      ⟨⟨rfl, rfl, rfl, rfl⟩, _, rfl, rfl⟩ rfl (by decide)).1 honours with ⟨same, _⟩ | ⟨_, short⟩
    · cases same
    · exact absurd (short 15 rfl).1 (by decide)
  · rw [committedOver_of_claims sampleRequested_claims rfl]
    exact @not_honours_of_due 1 sampleRequested 60 20 _ rfl rfl (by decide) (by decide)

end SendReplyWorker

end LeadAssistant
