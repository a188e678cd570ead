/-
Module: LeadAssistant.Bot.Status
Layer: Bot
Purpose: `StatusRepository.collect` (`bot/status.py`), and how its counter of commands that need a
  review agrees with the list of failures. Ages are in microseconds and costs in `USD_QUANTUM`; the
  heartbeats of the services are a table of their own.
Trusted boundary: human-reviewed spec
Main exports: StatusSnapshot, StatusRepository.collect, FailuresVisible, failures_visible_iff
-/
import LeadAssistant.Classifier.Usage
import LeadAssistant.Library.Calendar
import LeadAssistant.Repositories.OutboundFailures
import LeadAssistant.Workflow.Steps

namespace LeadAssistant

open Relational Transition OutboundCommandRepository

/-- Last database-visible liveness signal from an application service. -/
structure ServiceHeartbeat where
  service : String
  checkedAt : Time
deriving Repr, DecidableEq

/-- Content-free operational counters and component states. -/
structure StatusSnapshot where
  mtprotoHealthy : Bool
  classifierHealthy : Bool
  translatorHealthy : Bool
  activeChats : Nat
  pendingClassificationJobs : Nat
  pendingOutboundCommands : Nat
  outboundNeedsReview : Nat
  oldestJobAge : Int
  apiCostMonthUsd : Int
  mtprotoHeartbeatAge : Option Int
deriving Repr, DecidableEq

namespace StatusRepository

def HEARTBEAT_MAX_AGE : Int := seconds 90

/-- `heartbeat_is_fresh`. -/
def heartbeatIsFresh (heartbeats : Table ServiceHeartbeat.service) (now : Time)
    (service : String) : Bool :=
  (heartbeats.get? service).any (fun heartbeat => now - heartbeat.checkedAt ≤ HEARTBEAT_MAX_AGE)

/-- `classification_states`. -/
def isClassifying (job : ProcessingJob) : Bool :=
  [.pending, .processing, .retry, .awaitingRelevantProcessing, .awaitingReplyContext].contains
    job.status

/-- `now.date().replace(day=1)`, as the number of the day. -/
def monthStart (now : Time) : Int :=
  UsageRepository.currentDate now + 1 - (Calendar.ofOrdinal (Calendar.ordinalOf now).toNat).day

/-- `collect`: aggregate status without selecting any sensitive text columns. -/
def collect (heartbeats : Table ServiceHeartbeat.service) (translatorHealthy : Bool) (now : Time)
    (db : Database) : StatusSnapshot where
  mtprotoHealthy := heartbeatIsFresh heartbeats now "telegram-listener"
  classifierHealthy := heartbeatIsFresh heartbeats now "classification-worker"
  translatorHealthy := translatorHealthy
  activeChats := db.monitoredChats.rows.countP (fun chat => chat.status = .active)
  pendingClassificationJobs := db.processingJobs.rows.countP isClassifying
  pendingOutboundCommands := db.outboundCommands.rows.countP
    (fun command => command.status = .pending || command.status = .processing)
  outboundNeedsReview := db.outboundCommands.rows.countP
    (fun command => command.status = .needsReview)
  oldestJobAge :=
    match ((db.processingJobs.rows.filter isClassifying).map (fun job => job.createdAt)).min? with
    | none => 0
    | some oldestCreated => max (now - oldestCreated) 0
  apiCostMonthUsd := ((db.apiUsageDaily.rows.filter (fun row =>
    monthStart now ≤ row.usageDate && row.usageDate ≤ UsageRepository.currentDate now)).map
      (fun row => row.estimatedCostUsd)).sum
  mtprotoHeartbeatAge := (heartbeats.get? "telegram-listener").map
    (fun heartbeat => max (now - heartbeat.checkedAt) 0)

end StatusRepository

/-- The list shows exactly the failing commands, each once, and as many of them need a review as the
status counts. -/
structure FailuresVisible (limit : Nat) (heartbeats : Table ServiceHeartbeat.service)
    (translatorHealthy : Bool) (now : Time) (db : Database) : Prop where
  listed : ((listFailures limit db).map (fun failure => failure.commandId)).Perm
    ((failures db).map (fun command => command.id))
  counted : (listFailures limit db).countP (fun failure => failure.status = .needsReview) =
    (StatusRepository.collect heartbeats translatorHealthy now db).outboundNeedsReview

section Visible

variable {limit : Nat} {heartbeats : Table ServiceHeartbeat.service} {translatorHealthy : Bool}
  {now : Time} {db : Database}

theorem joinedFailures_eq_iff : joinedFailures db = failures db ↔
    ∀ command ∈ db.outboundCommands, isFailure command = true →
      (chatOf? db command).isSome = true := by
  unfold joinedFailures failures
  rw [List.filter_eq_self]
  simp only [List.mem_filter, Table.mem_rows, and_imp]

/-- All commands that need a review are failing. -/
theorem countP_failures :
    ((failures db).map (fun command => command.status)).countP (fun status => status = .needsReview) =
      db.outboundCommands.rows.countP (fun command => command.status = .needsReview) := by
  unfold failures
  rw [List.countP_map, List.countP_filter]
  apply List.countP_congr
  intro command _
  simp only [Function.comp, isFailure, Bool.and_eq_true, Bool.or_eq_true, decide_eq_true_eq]
  exact ⟨fun both => both.1, fun review => ⟨review, Or.inl (Or.inr review)⟩⟩

/-- In every state and under every limit that cuts nothing: the operator sees every failed command
exactly when the question of each of them still has its monitored chat. -/
theorem failures_visible_iff (large : db.outboundCommands.rows.length ≤ limit) :
    FailuresVisible limit heartbeats translatorHealthy now db ↔
      ∀ command ∈ db.outboundCommands, isFailure command = true →
        (chatOf? db command).isSome = true := by
  have ids := listFailures_perm (fun failure => failure.commandId) (fun command => command.id)
    large (fun _ _ => rfl)
  rw [← joinedFailures_eq_iff]
  constructor
  · rintro ⟨listed, -⟩
    have lengths := (ids.symm.trans listed).length_eq
    rw [List.length_map, List.length_map] at lengths
    exact (List.filter_sublist).eq_of_length lengths
  · intro same
    rw [same] at ids
    refine ⟨ids, ?_⟩
    have statuses := listFailures_perm (fun failure => failure.status)
      (fun command => command.status) large (fun _ _ => rfl)
    rw [same] at statuses
    have counts := statuses.countP_eq (fun status => status = .needsReview)
    rw [countP_failures, List.countP_map] at counts
    exact counts

end Visible

open ReplyWorkflow in
/-- A reply of which nobody knows whether it was sent. -/
def sampleReview : List Event :=
  sampleDraft ++ [.claimSend "listener" 0, .validateSend 20 (.result .active) (some sampleTarget) 0,
    .callSend 20 (.ambiguous .unknownError none), .finishSend 20 0]

open ReplyWorkflow in
theorem failures_visible_iff_sample : ∃ w, Run step anyEvent sampleWorld sampleReview w ∧
    FailuresVisible 50 ∅ true 0 w.db ∧ (listFailures 50 w.db).length = 1 := by
  have computed : (exec step anyEvent sampleWorld sampleReview).map (fun w =>
      (decide (w.db.outboundCommands.rows.length ≤ 50),
        w.db.outboundCommands.rows.all (fun command => (chatOf? w.db command).isSome),
        (listFailures 50 w.db).length)) = some (true, true, 1) := by decide +kernel
  rcases Run.exists_of_exec computed with ⟨w, run, value⟩
  simp only [Prod.mk.injEq, decide_eq_true_eq, List.all_eq_true] at value
  exact ⟨w, run, (failures_visible_iff value.1).2 (fun command held _ => value.2.1 command held),
    value.2.2⟩

open ReplyWorkflow in
/-- When its chat is removed from monitoring, the question is kept, the command still needs a
review, and the list is empty. -/
theorem removed_chat_hides_failure : ∃ w,
    Run step anyEvent sampleWorld (sampleReview ++ [.removeChat 1]) w ∧
    listFailures 50 w.db = [] ∧ w.db.outboundCommands.rows.length ≤ 50 ∧
    (StatusRepository.collect ∅ true 0 w.db).outboundNeedsReview = 1 ∧
    ¬ FailuresVisible 50 ∅ true 0 w.db := by
  have computed : (exec step anyEvent sampleWorld (sampleReview ++ [.removeChat 1])).map (fun w =>
      (listFailures 50 w.db, decide (w.db.outboundCommands.rows.length ≤ 50),
        (StatusRepository.collect ∅ true 0 w.db).outboundNeedsReview)) = some ([], true, 1) := by
    decide +kernel
  rcases Run.exists_of_exec computed with ⟨w, run, value⟩
  simp only [Prod.mk.injEq, decide_eq_true_eq] at value
  refine ⟨w, run, value.1, value.2.1, value.2.2, fun visible => ?_⟩
  have counted := visible.counted
  rw [value.1, value.2.2] at counted
  exact absurd counted (by decide)

end LeadAssistant
