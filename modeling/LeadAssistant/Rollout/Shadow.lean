/-
Module: LeadAssistant.Rollout.Shadow
Layer: Rollout
Purpose: `ShadowReportRepository.collect` and the verdict of its report (`rollout/shadow.py`), with the
  feature flags it checks (`config.py`). Latencies and their average are exact numbers of seconds, and
  the cost is counted in `USD_QUANTUM`.
Trusted boundary: human-reviewed spec
Main exports: FeatureFlags, ShadowReport, ShadowReport.safe, ShadowReportRepository.collect,
  ShadowReportRepository.safe_iff, ShadowReportRepository.collect_adds_up
-/
import LeadAssistant.Database.Models
import Mathlib.Algebra.Order.BigOperators.Group.List
import Mathlib.Algebra.Order.Field.Rat
import Mathlib.Data.Finset.Prod
import Mathlib.Tactic.Linarith

namespace LeadAssistant

open Relational

/-- Runtime switches exposed in operational status. -/
structure FeatureFlags where
  monitoringEnabled : Bool
  notificationsEnabled : Bool
  outboundRepliesEnabled : Bool
  translationEnabled : Bool
deriving Repr, DecidableEq

structure ShadowReport where
  chatId : Int
  startedAt : Time
  endedAt : Time
  classificationCalls : Nat
  classifiedMessages : Nat
  relevant : Nat
  irrelevant : Nat
  contextRequired : Nat
  failedJobs : Nat
  pendingJobs : Nat
  averageQueueLatencySeconds : ℚ
  maximumQueueLatencySeconds : ℚ
  estimatedCostUsd : Int
  sentOperatorNotifications : Nat
  outboundCommands : Nat
  expiredTemporaryRows : Nat

def ShadowReport.safe (report : ShadowReport) : Bool :=
  report.sentOperatorNotifications = 0 && report.outboundCommands = 0

/-- Reject a report that cannot prove the shadow-mode boundary. -/
structure ShadowModeError where
  message : String
deriving Repr, DecidableEq

namespace ShadowReportRepository

/-- `BETWEEN`, which includes both ends. -/
def between (startedAt endedAt at_ : Time) : Bool := startedAt ≤ at_ && at_ ≤ endedAt

/-- `active_ids`. -/
def activeIds (db : Database) : List Int :=
  (db.monitoredChats.rows.filter (fun chat => chat.status = .active)).map
    (fun chat => chat.telegramChatId)

/-- The classification runs of the chat in the window. -/
def runsIn (chatId : Int) (startedAt endedAt : Time) (db : Database) : List ClassificationRun :=
  db.classificationRuns.rows.filter (fun run =>
    run.telegramChatId = chatId && between startedAt endedAt run.createdAt)

/-- `latency`: from the queue to the recorded run. -/
def latency (run : ClassificationRun) : ℚ := ((run.createdAt - run.queuedAt : Int) : ℚ) / 1000000

/-- A notification of the chat that was marked sent in the window. -/
def isSentIn (chatId : Int) (startedAt endedAt : Time)
    (row : BotNotification × DetectedQuestion) : Bool :=
  row.2.telegramChatId = chatId && row.1.sentAt.any (between startedAt endedAt)

/-- A command of the chat that was created or completed in the window. -/
def isOrderedIn (chatId : Int) (startedAt endedAt : Time) (command : OutboundCommand) : Bool :=
  command.telegramChatId = chatId && (between startedAt endedAt command.createdAt ||
    command.completedAt.any (between startedAt endedAt))

/-- `collect`: aggregate-only evidence for one active chat and time window. -/
def collect (chatId : Int) (startedAt endedAt : Time) (flags : FeatureFlags) (now : Time)
    (db : Database) : Except ShadowModeError ShadowReport :=
  if endedAt ≤ startedAt then .error ⟨"Shadow report start must precede its end"⟩
  else if flags.notificationsEnabled || flags.outboundRepliesEnabled then
    .error ⟨"Shadow mode requires notifications and outbound replies disabled"⟩
  else if activeIds db ≠ [chatId] then
    .error ⟨"Shadow mode requires exactly the selected active chat"⟩
  else
    let runs := runsIn chatId startedAt endedAt db
    let jobs := db.processingJobs.rows.filter (fun job => job.telegramChatId = chatId)
    .ok
      { chatId := chatId
        startedAt := startedAt
        endedAt := endedAt
        classificationCalls := runs.length
        classifiedMessages := (runs.map (fun run => run.telegramMessageId)).dedup.length
        relevant := runs.countP (fun run => run.result = .relevant)
        irrelevant := runs.countP (fun run => run.result = .irrelevant)
        contextRequired := runs.countP (fun run => run.result = .contextRequired)
        failedJobs := jobs.countP (fun job => job.status = .failed)
        pendingJobs := jobs.countP (fun job => job.status ≠ .failed)
        averageQueueLatencySeconds := (runs.map latency).sum / runs.length
        maximumQueueLatencySeconds := (runs.map latency).max?.getD 0
        estimatedCostUsd := (runs.map (fun run => run.estimatedCostUsd)).sum
        sentOperatorNotifications :=
          (innerJoin db.botNotifications.rows (fun notification =>
            db.detectedQuestions.get? notification.questionId)).countP
              (isSentIn chatId startedAt endedAt)
        outboundCommands := db.outboundCommands.rows.countP (isOrderedIn chatId startedAt endedAt)
        expiredTemporaryRows := jobs.countP (fun job => job.expiresAt < now) }

section Collect

variable {chatId : Int} {startedAt endedAt now : Time} {flags : FeatureFlags} {db : Database}
  {report : ShadowReport}

/-- The verdict passes if and only if the window has seen neither a delivery nor a command. -/
theorem safe_iff (collected : collect chatId startedAt endedAt flags now db = .ok report) :
    report.safe = true ↔
      (∀ notification ∈ db.botNotifications, ∀ question,
        db.detectedQuestions.get? notification.questionId = some question →
          isSentIn chatId startedAt endedAt (notification, question) = false) ∧
      ∀ command ∈ db.outboundCommands, isOrderedIn chatId startedAt endedAt command = false := by
  unfold collect at collected
  split at collected
  · cases collected
  · split at collected
    · cases collected
    · split at collected
      · cases collected
      · cases collected
        unfold ShadowReport.safe
        simp only [Bool.and_eq_true, decide_eq_true_eq, List.countP_eq_zero, Bool.not_eq_true]
        refine and_congr ?_ Iff.rfl
        constructor
        · intro none_sent notification held question found
          exact none_sent _ (mem_innerJoin.2 ⟨held, found⟩)
        · rintro none_sent ⟨notification, question⟩ joined
          obtain ⟨held, found⟩ := mem_innerJoin.1 joined
          exact none_sent notification held question found

/-- No latency is above the largest one. -/
theorem average_le_maximum {latencies : List ℚ} :
    latencies.sum / latencies.length ≤ latencies.max?.getD 0 := by
  cases largest : latencies.max? with
  | none =>
      rw [List.max?_eq_none_iff.1 largest]
      simp
  | some maximum =>
      obtain ⟨held, above⟩ := List.max?_eq_some_iff.1 largest
      have some_latency : (0 : ℚ) < latencies.length :=
        Nat.cast_pos.2 (List.length_pos_of_mem held)
      have sum := List.sum_le_card_nsmul latencies maximum above
      rw [nsmul_eq_mul] at sum
      rw [Option.getD_some, div_le_iff₀ some_latency]
      linarith

/-- Each run has one of the three results. -/
theorem results_add_up {runs : List ClassificationRun} :
    runs.countP (fun run => run.result = .relevant) +
      runs.countP (fun run => run.result = .irrelevant) +
      runs.countP (fun run => run.result = .contextRequired) = runs.length := by
  induction runs with
  | nil => rfl
  | cons run runs ih =>
      simp only [List.countP_cons, List.length_cons]
      cases run.result <;> simp <;> omega

/-- A message has at most one run of each of two stages. -/
theorem length_le_messages {runs : List ClassificationRun}
    (keys : (runs.map ClassificationRun.key).Nodup)
    (chat : ∀ run ∈ runs, run.telegramChatId = chatId)
    (stages : ∀ run ∈ runs, run.stage = 1 ∨ run.stage = 2) :
    runs.length ≤ 2 * (runs.map (fun run => run.telegramMessageId)).dedup.length := by
  let messages := (runs.map (fun run => run.telegramMessageId)).toFinset
  have within : (runs.map ClassificationRun.key).toFinset ⊆
      ({chatId} : Finset Int) ×ˢ messages ×ˢ ({1, 2} : Finset Nat) := by
    intro key held
    obtain ⟨run, there, rfl⟩ := List.mem_map.1 (List.mem_toFinset.1 held)
    unfold ClassificationRun.key
    simp only [Finset.mem_product, Finset.mem_singleton, Finset.mem_insert]
    exact ⟨chat run there, List.mem_toFinset.2 (List.mem_map_of_mem there), stages run there⟩
  have cards := Finset.card_le_card within
  rw [List.toFinset_card_of_nodup keys, Finset.card_product, Finset.card_product,
    List.length_map] at cards
  have two : ({1, 2} : Finset Nat).card = 2 := rfl
  rw [Finset.card_singleton, two, List.card_toFinset] at cards
  omega

/-- The figures of a report agree with each other: the results make up the calls, a message has one
call or two, the average is not above the maximum, and every expired row is failed or pending. -/
structure AddsUp (report : ShadowReport) : Prop where
  results : report.relevant + report.irrelevant + report.contextRequired =
    report.classificationCalls
  messages : report.classifiedMessages ≤ report.classificationCalls
  calls : report.classificationCalls ≤ 2 * report.classifiedMessages
  latency : report.averageQueueLatencySeconds ≤ report.maximumQueueLatencySeconds
  expired : report.expiredTemporaryRows ≤ report.failedJobs + report.pendingJobs

theorem collect_adds_up (collected : collect chatId startedAt endedAt flags now db = .ok report)
    (stages : ∀ run ∈ db.classificationRuns, run.stage = 1 ∨ run.stage = 2) : AddsUp report := by
  unfold collect at collected
  split at collected
  · cases collected
  · split at collected
    · cases collected
    · split at collected
      · cases collected
      · cases collected
        have held : ∀ run ∈ runsIn chatId startedAt endedAt db,
            run ∈ db.classificationRuns ∧ run.telegramChatId = chatId := by
          intro run there
          obtain ⟨stored, chosen⟩ := List.mem_filter.1 there
          simp only [Bool.and_eq_true, decide_eq_true_eq] at chosen
          exact ⟨stored, chosen.1⟩
        constructor
        · exact results_add_up
        · exact (List.dedup_sublist _).length_le.trans_eq (List.length_map _)
        · apply length_le_messages
          · exact db.classificationRuns.keysNodup.sublist (List.filter_sublist.map _)
          · exact fun run there => (held run there).2
          · exact fun run there => stages run (held run there).1
        · have mean := @average_le_maximum ((runsIn chatId startedAt endedAt db).map latency)
          rw [List.length_map] at mean
          exact mean
        · have split := List.length_eq_countP_add_countP
            (fun job : ProcessingJob => decide (job.status = .failed))
            (l := db.processingJobs.rows.filter (fun job => job.telegramChatId = chatId))
          simp only [decide_eq_true_eq] at split
          exact List.countP_le_length.trans split.le

end Collect

end ShadowReportRepository

end LeadAssistant
