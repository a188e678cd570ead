/-
Module: LeadAssistant.Pipeline.StoredDecision
Layer: Pipeline
Purpose: The route of a first stage and the decision that is stored. The handler routes a job by the
  fresh response, while `record_stage` keeps the run of an earlier delivery of the same message. The
  two agree, and the later phases accept the job, exactly when an earlier run decides the same.
Trusted boundary: human-reviewed spec
Main exports: leftRoute, DecisionAgrees, PhasesAccept, stage1_route_agrees_iff
-/
import LeadAssistant.Pipeline.Bounded
import LeadAssistant.Pipeline.Leads

namespace LeadAssistant.Pipeline

open Relational RelevantQuestionPersistenceService

/-- Where a first stage has left a job: in a downstream state, or, with `none`, to be deleted. -/
def leftRoute (job : ProcessingJob) (disposition : JobDisposition) (u : Database) :
    Option ProcessingJobStatus :=
  match disposition with
  | .complete => none
  | .retain => (u.processingJobs.get? job.id).map (fun row => row.status)

/-- The run of the first stage of a job's message. -/
def firstRun? (job : ProcessingJob) (db : Database) : Option ClassificationRun :=
  db.classificationRuns.get? (job.telegramChatId, job.telegramMessageId, 1)

/-- The job is on the route of the stored decision. -/
def DecisionAgrees (job : ProcessingJob) (disposition : JobDisposition) (u : Database) : Prop :=
  ∃ run, firstRun? job u = some run ∧ leftRoute job disposition u = routeOf run.result

/-- The later phases find the decision they ask for: Stage 2 a first run that needs context, and
the persistence a relevant run. -/
def PhasesAccept (job : ProcessingJob) (disposition : JobDisposition) (u : Database) : Prop :=
  (leftRoute job disposition u = some .awaitingReplyContext →
    (firstRun? job u).any (fun run => run.result = .contextRequired) = true) ∧
  (leftRoute job disposition u = some .awaitingRelevantProcessing →
    (finalClassification? job u).isSome)

section Routes

variable {db u : Database} {job : ProcessingJob} {now : Time} {adapter : ClassificationAdapter}
  {disposition : JobDisposition} {response : ClassificationResponse}

theorem routeOf_injective {result other : StageResult} (same : routeOf result = routeOf other) :
    result = other := by
  cases result <;> cases other <;> first | rfl | cases same

/-- A job on the route of its stored decision is accepted. -/
theorem DecisionAgrees.phasesAccept (agrees : DecisionAgrees job disposition u) :
    PhasesAccept job disposition u := by
  rcases agrees with ⟨run, stored, same⟩
  unfold PhasesAccept
  rw [same, stored]
  constructor
  · intro route
    cases result : run.result with
    | contextRequired => simp [result]
    | relevant | irrelevant => rw [result] at route; cases route
  · intro route
    cases result : run.result with
    | contextRequired | irrelevant => rw [result] at route; cases route
    | relevant =>
        have held := Table.mem_of_get? stored
        have message : run.key = (job.telegramChatId, job.telegramMessageId, 1) :=
          Table.key_of_get? stored
        simp only [ClassificationRun.key, Prod.mk.injEq] at message
        rw [Option.isSome_iff_ne_none]
        intro absent
        have other := Table.lastBy_eq_none_iff.1 absent run held
        simp [message, result] at other

/-- A first stage routes a job by the response. -/
theorem leftRoute_of_stage1 (processing : job.status = .processing)
    (held : db.processingJobs.get? job.id = some job)
    (answered : adapter.classify job.messageText = .ok response)
    (handled : Stage1ClassificationHandler.call adapter job now db = .ok (disposition, u)) :
    leftRoute job disposition u = routeOf response.result.name := by
  rcases stage1_spec processing held handled with ⟨other, run, asked, result, _, _, sent⟩
  cases answered.symm.trans asked
  rw [result] at sent
  cases route : routeOf response.result.name with
  | none =>
      rw [route] at sent
      rw [sent.1]
      rfl
  | some status =>
      rw [route] at sent
      rcases sent with ⟨rfl, leaves⟩
      show (u.processingJobs.get? job.id).map (fun row => row.status) = some status
      rw [leaves job.id, if_pos rfl]
      rfl

/-- It stores the response, unless there is a run of the message. -/
theorem firstRun?_of_stage1 (processing : job.status = .processing)
    (held : db.processingJobs.get? job.id = some job)
    (answered : adapter.classify job.messageText = .ok response)
    (handled : Stage1ClassificationHandler.call adapter job now db = .ok (disposition, u)) :
    match firstRun? job db with
    | some run => firstRun? job u = some run
    | none => ∃ run, firstRun? job u = some run ∧ run.result = response.result.name := by
  rcases stage1_spec processing held handled with ⟨other, run, asked, result, message, records, _⟩
  cases answered.symm.trans asked
  unfold firstRun?
  rcases records.runs with inserted | ⟨taken, same⟩
  · have absent : db.classificationRuns.get? (job.telegramChatId, job.telegramMessageId, 1) = none :=
      Table.get?_eq_none_iff.2 (message ▸ Table.fresh_of_insert? inserted)
    rw [absent, ← message]
    exact ⟨run, (Table.get?_insert? inserted).trans (if_pos rfl), result⟩
  · rw [message] at taken
    rcases Option.isSome_iff_exists.1 taken with ⟨earlier, found⟩
    rw [same, found]

end Routes

/-- For every prior content of the runs, every claimed job and every answer of the adapter: when the
first stage returns, the job is on the route of the stored decision, and the later phases accept
it, exactly when an earlier run of the message, if there is one, decided as the response does. -/
theorem stage1_route_agrees_iff {db u : Database} {job : ProcessingJob} {now : Time}
    {adapter : ClassificationAdapter} {disposition : JobDisposition}
    {response : ClassificationResponse} (processing : job.status = .processing)
    (held : db.processingJobs.get? job.id = some job)
    (answered : adapter.classify job.messageText = .ok response)
    (handled : Stage1ClassificationHandler.call adapter job now db = .ok (disposition, u)) :
    (DecisionAgrees job disposition u ∧ PhasesAccept job disposition u) ↔
      ∀ run, firstRun? job db = some run → run.result = response.result.name := by
  have route := leftRoute_of_stage1 processing held answered handled
  have stored := firstRun?_of_stage1 processing held answered handled
  constructor
  · rintro ⟨⟨run, found, same⟩, -⟩ earlier before
    rw [before] at stored
    have kept : run = earlier := Option.some.inj (found.symm.trans stored)
    exact routeOf_injective (kept ▸ same.symm.trans route)
  · intro same
    have agrees : DecisionAgrees job disposition u := by
      cases before : firstRun? job db with
      | none =>
          rw [before] at stored
          rcases stored with ⟨run, found, result⟩
          exact ⟨run, found, result ▸ route⟩
      | some earlier =>
          rw [before] at stored
          exact ⟨earlier, stored, (same earlier before) ▸ route⟩
    exact ⟨agrees, agrees.phasesAccept⟩

/-- A job that a worker has claimed. -/
def sampleClaimed : ProcessingJob :=
  { sampleLeadJob samplePostChain with status := .processing, replyChainSnapshot := none }

/-- The job as a relevant response routes it. -/
def sampleRouted : ProcessingJob :=
  JobRepository.routed .awaitingRelevantProcessing sampleClaimed

/-- A job, and the run of an earlier delivery of its message. -/
def sampleDelivered (job : ProcessingJob) (earlier : StageResult) : Database where
  processingJobs := ⟨[job], List.nodup_singleton _⟩
  classificationRuns := ⟨[{
    telegramChatId := -100, telegramMessageId := 40, stage := 1, result := earlier,
    category := .technical, confidence := 9 / 10, reasonCode := .technicalProblem,
    contextUsed := false, model := "gpt-5-mini", inputTokens := 20, outputTokens := 10,
    estimatedCostUsd := 40, queuedAt := 0, createdAt := 0 }], List.nodup_singleton _⟩

theorem sampleDelivered_routed {earlier : StageResult} :
    Stage1ClassificationHandler.call (sampleAdapter true false) sampleClaimed 0
      (sampleDelivered sampleClaimed earlier) =
        .ok (.retain, sampleDelivered sampleRouted earlier) := by
  have recorded : UsageRepository.recordStage (-100) 40 1 0 "gpt-5-mini"
      ⟨⟨true, .technical, 9 / 10, false, .technicalProblem⟩, ⟨20, 10⟩⟩ ⟨1, 2⟩ 0
      (sampleDelivered sampleClaimed earlier) =
        .ok (false, sampleDelivered sampleClaimed earlier) := by
    have storable : (UsageRepository.newRun (-100) 40 1 0 "gpt-5-mini"
        ⟨⟨true, .technical, 9 / 10, false, .technicalProblem⟩, ⟨20, 10⟩⟩ ⟨1, 2⟩ 0).storable =
          true := by decide +kernel
    unfold UsageRepository.recordStage
    dsimp only
    rw [storable]
    rfl
  unfold Stage1ClassificationHandler.call
  rw [if_neg (by decide)]
  show (UsageRepository.recordStage (-100) 40 1 0 "gpt-5-mini" _ ⟨1, 2⟩ 0 _).bind _ = _
  rw [recorded]
  rfl

theorem stage1_route_agrees_iff_sample :
    DecisionAgrees sampleClaimed .retain (sampleDelivered sampleRouted .relevant) ∧
    PhasesAccept sampleClaimed .retain (sampleDelivered sampleRouted .relevant) := by
  apply (stage1_route_agrees_iff rfl rfl rfl sampleDelivered_routed).2
  intro run found
  cases found
  rfl

/-- A message that was found irrelevant is delivered again and found relevant: its job waits to be
persisted, and the persistence finds no relevant run. -/
theorem redelivered_job_rejected :
    Stage1ClassificationHandler.call (sampleAdapter true false) sampleClaimed 0
      (sampleDelivered sampleClaimed .irrelevant) =
        .ok (.retain, sampleDelivered sampleRouted .irrelevant) ∧
    (firstRun? sampleClaimed (sampleDelivered sampleRouted .irrelevant)).map
      (fun run => run.result) = some .irrelevant ∧
    ¬ DecisionAgrees sampleClaimed .retain (sampleDelivered sampleRouted .irrelevant) ∧
    persist 1 none sampleRouted samplePostChain 7 0 (sampleDelivered sampleRouted .irrelevant) =
      .error persistenceError := by
  refine ⟨sampleDelivered_routed, rfl, ?_, rfl⟩
  rintro ⟨run, found, same⟩
  cases found
  cases same

end LeadAssistant.Pipeline
