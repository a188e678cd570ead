/-
Module: LeadAssistant.Classifier.Usage
Layer: Classifier
Purpose: `UsageRepository.record_stage` (`usage.py`): one row per message and stage, and the daily
  aggregate that is updated when the row is inserted. Costs are counted in units of `USD_QUANTUM`.
Trusted boundary: human-reviewed spec
Main exports: ClassificationResponse, ClassificationPricing.estimate, UsageRepository.recordStage
-/
import LeadAssistant.Library.Fallible
import LeadAssistant.Repositories.Jobs
import Mathlib.Data.Rat.Floor

namespace LeadAssistant

open Relational

/-- Strict structured output contract shared with the OpenAI adapter. -/
structure ClassificationResult where
  isRelevant : Bool
  category : ClassificationCategory
  confidence : ℚ
  contextRequired : Bool
  reasonCode : ClassificationReasonCode

/-- Token usage reported by one API call. -/
structure ClassificationUsage where
  inputTokens : Nat
  outputTokens : Nat

/-- Validated classification and its usage metadata. -/
structure ClassificationResponse where
  result : ClassificationResult
  usage : ClassificationUsage

/-- Configurable token prices in USD per one million tokens. -/
structure ClassificationPricing where
  inputPerMillionUsd : ℚ
  outputPerMillionUsd : ℚ

/-- The number of quanta in a value of the given resolution, with halves rounded up. -/
def roundHalfUp (resolution : ℚ) (value : ℚ) : Int :=
  (value * resolution + 1 / 2).floor

/-- The estimated cost of one API call, in millionths of a dollar. -/
def ClassificationPricing.estimate (pricing : ClassificationPricing)
    (inputTokens outputTokens : Nat) : Int :=
  roundHalfUp 1000000
    ((inputTokens * pricing.inputPerMillionUsd + outputTokens * pricing.outputPerMillionUsd) /
      1000000)

/-- The name under which a result is recorded. -/
def ClassificationResult.name (result : ClassificationResult) : StageResult :=
  if result.contextRequired then .contextRequired
  else if result.isRelevant then .relevant
  else .irrelevant

/-- The column limits of `classification_runs`. -/
def ClassificationRun.storable (run : ClassificationRun) : Bool :=
  fitsVarchar 100 run.model && run.inputTokens < 2 ^ 31 && run.outputTokens < 2 ^ 31 &&
    run.estimatedCostUsd < 10 ^ 12

/-- The column limits of `api_usage_daily`. -/
def ApiUsageDaily.storable (row : ApiUsageDaily) : Bool :=
  fitsVarchar 100 row.model && row.requestCount < 2 ^ 31 && row.inputTokens < 2 ^ 63 &&
    row.outputTokens < 2 ^ 63 && row.estimatedCostUsd.natAbs < 10 ^ 12

/-- One more run in a daily aggregate. -/
def ApiUsageDaily.plus (row : ApiUsageDaily) (run : ClassificationRun) : ApiUsageDaily :=
  { row with
    requestCount := row.requestCount + 1
    inputTokens := row.inputTokens + run.inputTokens
    outputTokens := row.outputTokens + run.outputTokens
    estimatedCostUsd := row.estimatedCostUsd + run.estimatedCostUsd }

theorem ApiUsageDaily.plus_key (row : ApiUsageDaily) (run : ClassificationRun) :
    (row.plus run).key = row.key := rfl

namespace UsageRepository

/-- `CURRENT_DATE`, as the number of the day. -/
def currentDate (now : Time) : Int := now / days 1

/-- The row of one stage. The confidence is kept to four places. -/
def newRun (telegramChatId telegramMessageId : Int) (stage : Nat) (queuedAt : Time)
    (model : String) (response : ClassificationResponse) (pricing : ClassificationPricing)
    (now : Time) : ClassificationRun where
  telegramChatId := telegramChatId
  telegramMessageId := telegramMessageId
  stage := stage
  result := response.result.name
  category := response.result.category
  confidence := roundHalfUp 10000 response.result.confidence / 10000
  reasonCode := response.result.reasonCode
  contextUsed := stage = 2
  model := model
  inputTokens := response.usage.inputTokens
  outputTokens := response.usage.outputTokens
  estimatedCostUsd := pricing.estimate response.usage.inputTokens response.usage.outputTokens
  queuedAt := queuedAt
  createdAt := now

/-- The aggregate of a day with one run. -/
def firstUsage (run : ClassificationRun) (now : Time) : ApiUsageDaily :=
  ⟨currentDate now, run.model, 1, run.inputTokens, run.outputTokens, run.estimatedCostUsd⟩

/-- The row that the upsert writes. -/
def usageRow (run : ClassificationRun) (now : Time) (rows : Table ApiUsageDaily.key) :
    ApiUsageDaily :=
  match rows.get? (currentDate now, run.model) with
  | none => firstUsage run now
  | some row => row.plus run

/-- The upsert of the daily aggregate. -/
def addUsage (run : ClassificationRun) (now : Time) (db : Database) :
    Except HandlerError Database :=
  if !(usageRow run now db.apiUsageDaily).storable then .error .dataError
  else match db.apiUsageDaily.insert? (firstUsage run now) with
    | some rows => .ok { db with apiUsageDaily := rows }
    | none =>
        .ok { db with
          apiUsageDaily := db.apiUsageDaily.update (currentDate now, run.model)
            (fun row => row.plus run) (fun row _ => row.plus_key run) }

/-- What the upsert leaves: its row is the next aggregate, and everything else is as before. -/
theorem addUsage_spec {run : ClassificationRun} {now : Time} {db u : Database}
    (added : addUsage run now db = .ok u) :
    (usageRow run now db.apiUsageDaily).storable = true ∧
      u = { db with apiUsageDaily := u.apiUsageDaily } ∧ ∀ k, u.apiUsageDaily.get? k =
        if k = (currentDate now, run.model) then some (usageRow run now db.apiUsageDaily)
        else db.apiUsageDaily.get? k := by
  unfold addUsage at added
  split at added
  · cases added
  · rename_i storable
    refine ⟨by simpa using storable, ?_⟩
    unfold usageRow
    split at added
    · rename_i rows inserted
      cases added
      have absent : db.apiUsageDaily.get? (currentDate now, run.model) = none :=
        Table.get?_eq_none_iff.2 (Table.fresh_of_insert? inserted)
      rw [absent]
      exact ⟨rfl, fun k => Table.get?_insert? inserted⟩
    · rename_i refused
      cases added
      rcases Table.insert?_eq_none_iff.1 refused with ⟨row, held, same⟩
      have found : db.apiUsageDaily.get? (currentDate now, run.model) = some row :=
        Table.get?_eq_some_iff.2 ⟨held, same⟩
      refine ⟨rfl, fun k => ?_⟩
      dsimp only
      rw [Table.get?_update, found]
      by_cases own : k = (currentDate now, run.model)
      · rw [if_pos own, if_pos own, own, found]
        rfl
      · rw [if_neg own, if_neg own]

/-- Record one stage once and update its daily aggregate when inserted. -/
def recordStage (telegramChatId telegramMessageId : Int) (stage : Nat) (queuedAt : Time)
    (model : String) (response : ClassificationResponse) (pricing : ClassificationPricing)
    (now : Time) (db : Database) : Except HandlerError (Bool × Database) :=
  let run := newRun telegramChatId telegramMessageId stage queuedAt model response pricing now
  if !run.storable then .error .dataError
  else match db.classificationRuns.insert? run with
    | none => .ok (false, db)
    | some runs =>
        (addUsage run now { db with classificationRuns := runs }).map (fun db => (true, db))

/-- A run of a new message and stage is recorded when its two rows fit their columns. -/
theorem recordStage_inserts {telegramChatId telegramMessageId : Int} {stage : Nat}
    {queuedAt : Time} {model : String} {response : ClassificationResponse}
    {pricing : ClassificationPricing} {now : Time} {db : Database} {run : ClassificationRun}
    (same : run = newRun telegramChatId telegramMessageId stage queuedAt model response pricing now)
    (storable : run.storable = true) (absent : db.classificationRuns.get? run.key = none)
    (fits : (usageRow run now db.apiUsageDaily).storable = true) :
    ∃ u, recordStage telegramChatId telegramMessageId stage queuedAt model response pricing now db =
        .ok (true, u) ∧ u.processingJobs = db.processingJobs := by
  subst same
  rcases Table.exists_insert? (Table.get?_eq_none_iff.1 absent) with ⟨runs, inserted⟩
  unfold recordStage addUsage
  simp only [storable, inserted, fits, Bool.not_true, Bool.false_eq_true, if_false]
  split
  · exact ⟨_, rfl, rfl⟩
  · exact ⟨_, rfl, rfl⟩

/-- The two ways in which a stage is recorded: its run is there already, and nothing is written, or
it is inserted and its daily row is the next aggregate. -/
theorem recordStage_cases {telegramChatId telegramMessageId : Int} {stage : Nat} {queuedAt : Time}
    {model : String} {response : ClassificationResponse} {pricing : ClassificationPricing}
    {now : Time} {inserted : Bool} {db u : Database} {run : ClassificationRun}
    (same : run = newRun telegramChatId telegramMessageId stage queuedAt model response pricing now)
    (recorded : recordStage telegramChatId telegramMessageId stage queuedAt model response pricing
      now db = .ok (inserted, u)) :
    run.storable = true ∧
      ((db.classificationRuns.get? run.key).isSome = true ∧ inserted = false ∧ u = db ∨
        inserted = true ∧ db.classificationRuns.insert? run = some u.classificationRuns ∧
          u = { db with classificationRuns := u.classificationRuns,
                        apiUsageDaily := u.apiUsageDaily } ∧
          (usageRow run now db.apiUsageDaily).storable = true ∧
          ∀ k, u.apiUsageDaily.get? k =
            if k = (currentDate now, run.model) then some (usageRow run now db.apiUsageDaily)
            else db.apiUsageDaily.get? k) := by
  subst same
  unfold recordStage at recorded
  dsimp only at recorded
  split at recorded
  · cases recorded
  · rename_i storable
    refine ⟨by simpa using storable, ?_⟩
    split at recorded
    · rename_i refused
      cases recorded
      rcases Table.insert?_eq_none_iff.1 refused with ⟨other, held, taken⟩
      exact Or.inl ⟨Option.isSome_of_eq_some (Table.get?_eq_some_iff.2 ⟨held, taken⟩), rfl, rfl⟩
    · rename_i runs accepted
      rcases Except.map_eq_ok_iff.1 recorded with ⟨after, added, same⟩
      cases same
      rcases addUsage_spec added with ⟨fits, frame, daily⟩
      rw [frame]
      exact Or.inr ⟨rfl, accepted, rfl, fits, daily⟩

end UsageRepository

end LeadAssistant
