/-
Module: LeadAssistant.Pipeline.Accounting
Layer: Pipeline
Purpose: Which answers of the model reach `api_usage_daily`. An answer is paid for when its adapter
  returns it; whether it is accounted is decided later, in the savepoint of the handler. Over every
  run of the pipeline the usage grows by the answers of the committed iterations exactly when each
  of them meets the condition `Entry.Kept` on its inputs.
Trusted boundary: human-reviewed spec
Main exports: Answer, answer?, Entry.Kept, Book, step, Accounted, run_settles, run_accounted,
  answers_accounted_iff
-/
import LeadAssistant.Classifier.UsageLedger
import LeadAssistant.Pipeline.Bounded

namespace LeadAssistant.Accounting

open Relational Transition Pipeline UsageRepository UsageLedger

/-- An answer that an adapter has returned to the handler of a stage. -/
structure Answer where
  stage : Nat
  job : ProcessingJob
  startedAt : Time
  adapter : ClassificationAdapter
  response : ClassificationResponse

/-- The run that is to be recorded for it. -/
def Answer.run (answer : Answer) : ClassificationRun :=
  newRun answer.job.telegramChatId answer.job.telegramMessageId answer.stage answer.job.createdAt
    answer.adapter.model answer.response answer.adapter.pricing answer.startedAt

/-- The text about which Stage 2 asks, if no check before the call fails. -/
def stage2Text? (timestamps : TimestampCodec) (job : ProcessingJob) (db : Database) :
    Option String :=
  match job.replyChainSnapshot.bind (deserializeReplyChain timestamps) with
  | none => none
  | some chain =>
      if chain.chatId ≠ job.telegramChatId then none
      else if job.status ≠ .awaitingReplyContext then none
      else if (db.classificationRuns.get? (job.telegramChatId, job.telegramMessageId, 1)).any
          (fun run => run.result = .contextRequired) = false then none
      else if (db.classificationRuns.get? (job.telegramChatId, job.telegramMessageId, 2)).isSome then
        none
      else (formatStage2Input chain).toOption

/-- The stage of an iteration and the text about which it asks its adapter. -/
def asked? (iteration : Iteration) (w : Surroundings) (db : Database) : Option (Nat × String) :=
  match iteration.worker with
  | .stage1 =>
      if iteration.job.status = .processing then some (1, iteration.job.messageText) else none
  | .replyChain => none
  | .classification => (stage2Text? w.timestamps iteration.job db).map (fun text => (2, text))

/-- What the adapter returns to an iteration that comes to ask it. -/
def answer? (iteration : Iteration) (w : Surroundings) (db : Database) : Option Answer :=
  match asked? iteration w db with
  | none => none
  | some (stage, text) =>
      match w.adapter.classify text with
      | .error _ => none
      | .ok response => some ⟨stage, iteration.job, iteration.startedAt, w.adapter, response⟩

/-- An answer, with the error that has struck its handler and the contents before the commit. -/
structure Entry where
  answer : Answer
  fault : Option HandlerError
  db : Database

/-- When an answer is accounted: no error of the environment follows it, a second stage decides, no
run of the message and the stage is there, and the run and the row of its day fit their columns. -/
structure Entry.Kept (entry : Entry) : Prop where
  undisturbed : entry.fault = none
  final : entry.answer.stage = 2 → entry.answer.response.result.contextRequired = false
  first : entry.db.classificationRuns.get? entry.answer.run.key = none
  runFits : entry.answer.run.storable = true
  dayFits :
    (usageRow entry.answer.run entry.answer.startedAt entry.db.apiUsageDaily).storable = true

instance : DecidablePred Entry.Kept := fun entry =>
  decidable_of_iff
    (entry.fault = none ∧
      (entry.answer.stage = 2 → entry.answer.response.result.contextRequired = false) ∧
      entry.db.classificationRuns.get? entry.answer.run.key = none ∧
      entry.answer.run.storable = true ∧
      (usageRow entry.answer.run entry.answer.startedAt entry.db.apiUsageDaily).storable = true)
    ⟨fun ⟨a, b, c, d, e⟩ => ⟨a, b, c, d, e⟩, fun ⟨a, b, c, d, e⟩ => ⟨a, b, c, d, e⟩⟩

/-- The pipeline, with the answers that committed iterations have received. -/
structure Book where
  state : State
  entries : List Entry := []

/-- An event of the pipeline. An error of the environment strikes a handler before or after its
adapter has answered. -/
structure Occurrence where
  event : Event
  answered : Bool := true

/-- The answer received by the iteration that an event commits. -/
def received (s : State) (o : Occurrence) : List Entry :=
  match o.event with
  | .finish jobId w =>
      match s.opened.get? jobId with
      | none => []
      | some iteration =>
          if (iteration.run w s.db).2.isOk && (w.fault.isNone || o.answered) then
            ((answer? iteration w s.db).map (fun answer => ⟨answer, w.fault, s.db⟩)).toList
          else []
  | _ => []

/-- A step of the pipeline, with what it receives. -/
def step (b : Book) (o : Occurrence) : Option Book :=
  (Pipeline.step b.state o.event).map (fun s => ⟨s, b.entries ++ received b.state o⟩)

/-- The usage of a day and a model, which is zero while there is no row. -/
def usageAt (db : Database) (date : Int) (model : String) : ApiUsageDaily :=
  (db.apiUsageDaily.get? (date, model)).getD ⟨date, model, 0, 0, 0, 0⟩

/-- The usage has grown by the tokens, the cost and one request of each of some runs. -/
def Accounted (db u : Database) (runs : List ClassificationRun) : Prop :=
  ∀ date model, usageAt u date model =
    (runsOn date model runs).foldl ApiUsageDaily.plus (usageAt db date model)

section Frames

variable {db u : Database} {job : ProcessingJob} {jobId : UUID} {now : Time} {error : HandlerError}
  {change : ProcessingJob → ProcessingJob}

theorem modify_usage (changed : JobRepository.modify jobId change db = .ok u) :
    (db.processingJobs.get? jobId).isSome = true ∧ u.apiUsageDaily = db.apiUsageDaily := by
  unfold JobRepository.modify at changed
  split at changed
  · cases changed
  · rename_i found
    cases changed
    exact ⟨Option.isSome_of_eq_some found, rfl⟩

theorem route_usage {status : ProcessingJobStatus}
    (routed : JobRepository.route jobId status db = .ok u) :
    u.apiUsageDaily = db.apiUsageDaily := by
  unfold JobRepository.route at routed
  split at routed
  · cases routed
  · exact (modify_usage routed).2

/-- A locked row can be routed downstream. -/
theorem route_succeeds {status : ProcessingJobStatus} (there : (db.processingJobs.get? jobId).isSome)
    (downstream : DownstreamJobRepository.isDownstream status = true) :
    ∃ u, JobRepository.route jobId status db = .ok u := by
  rcases Option.isSome_iff_exists.1 there with ⟨job, found⟩
  have accepted : ¬ (status ≠ .awaitingRelevantProcessing ∧ status ≠ .awaitingReplyContext) := by
    simpa [DownstreamJobRepository.isDownstream, imp_iff_not_or] using downstream
  exact ⟨_, (if_neg accepted).trans (modify_eq found)⟩

/-- The failure of a handler is written to a row that is there, and to nothing else. -/
theorem settle_usage (settled : QueueWorker.settle {} job now db (.error error) = .ok u) :
    (db.processingJobs.get? job.id).isSome = true ∧ u.apiUsageDaily = db.apiUsageDaily := by
  unfold QueueWorker.settle at settled
  rcases Except.bind_eq_ok_iff.1 settled with ⟨delay, _, settled⟩
  cases delay with
  | none => exact modify_usage settled
  | some delay => exact modify_usage settled

theorem downstream_settle_usage
    (settled : DownstreamQueueWorker.settle {} job now db (.error error) = .ok u) :
    (db.processingJobs.get? job.id).isSome = true ∧ u.apiUsageDaily = db.apiUsageDaily := by
  unfold DownstreamQueueWorker.settle at settled
  rcases Except.bind_eq_ok_iff.1 settled with ⟨delay, _, settled⟩
  cases delay with
  | none => exact modify_usage settled
  | some delay => exact modify_usage settled

end Frames

section Handlers

variable {db u v : Database} {job : ProcessingJob} {now : Time} {adapter : ClassificationAdapter}
  {response : ClassificationResponse} {inserted : Bool} {timestamps : TimestampCodec}
  {operatorTelegramUserId : Int} {service : Option TranslationService} {newId : UUID}

/-- Stage 1 records the answer it receives. -/
theorem stage1_records {disposition : JobDisposition} (processing : job.status = .processing)
    (called : Stage1ClassificationHandler.call adapter job now db = .ok (disposition, u)) :
    ∃ response inserted v, adapter.classify job.messageText = .ok response ∧
      recordStage job.telegramChatId job.telegramMessageId 1 job.createdAt adapter.model response
        adapter.pricing now db = .ok (inserted, v) ∧ u.apiUsageDaily = v.apiUsageDaily := by
  unfold Stage1ClassificationHandler.call at called
  rw [if_neg (not_not.2 processing)] at called
  rcases Except.bind_eq_ok_iff.1 called with ⟨response, answered, called⟩
  rcases Except.bind_eq_ok_iff.1 called with ⟨⟨inserted, v⟩, recorded, called⟩
  refine ⟨response, inserted, v, answered, recorded, ?_⟩
  dsimp only at called
  split at called
  · rcases Except.bind_eq_ok_iff.1 called with ⟨routed, route, finished⟩
    cases finished
    exact route_usage route
  · split at called
    · rcases Except.bind_eq_ok_iff.1 called with ⟨routed, route, finished⟩
      cases finished
      exact route_usage route
    · cases called
      rfl

/-- Nothing after its record can fail while its row is there. -/
theorem stage1_succeeds (processing : job.status = .processing)
    (answered : adapter.classify job.messageText = .ok response)
    (recorded : recordStage job.telegramChatId job.telegramMessageId 1 job.createdAt adapter.model
      response adapter.pricing now db = .ok (inserted, v))
    (there : (v.processingJobs.get? job.id).isSome = true) :
    ∃ disposition u, Stage1ClassificationHandler.call adapter job now db = .ok (disposition, u) := by
  rcases @route_succeeds _ _ .awaitingReplyContext there rfl with ⟨contextual, context⟩
  rcases @route_succeeds _ _ .awaitingRelevantProcessing there rfl with ⟨chosen, relevant⟩
  unfold Stage1ClassificationHandler.call
  rw [if_neg (not_not.2 processing)]
  simp only [answered, recorded, context, relevant, bind, Except.bind, pure, Except.pure]
  split
  · exact ⟨_, _, rfl⟩
  · split
    · exact ⟨_, _, rfl⟩
    · exact ⟨_, _, rfl⟩

/-- What Stage 2 asks is what its handler gets to, and the rest is a record and a route. -/
theorem stage2_call {text : String} (asked : stage2Text? timestamps job db = some text) :
    DownstreamClassificationHandler.call timestamps adapter operatorTelegramUserId service job newId
        now db = (do
      let response ← adapter.classify text
      if response.result.contextRequired then
        .error Stage2ClassificationService.nonFinalResultError
      else do
        let stored ← recordStage job.telegramChatId job.telegramMessageId 2 job.createdAt
          adapter.model response adapter.pricing now db
        if !stored.1 then .error Stage2ClassificationService.classificationError
        else if response.result.isRelevant then
          JobRepository.route job.id .awaitingRelevantProcessing stored.2
        else .ok (JobRepository.complete job.id stored.2)) := by
  unfold stage2Text? at asked
  split at asked
  · cases asked
  · rename_i chain read
    rcases Option.bind_eq_some_iff.1 read with ⟨snapshot, stored, decoded⟩
    split at asked
    · cases asked
    · rename_i chat
      split at asked
      · cases asked
      · rename_i awaiting
        split at asked
        · cases asked
        · rename_i requested
          split at asked
          · cases asked
          · rename_i first
            have formatted : formatStage2Input chain = .ok text := by
              cases formatted : formatStage2Input chain with
              | error error =>
                  rw [formatted] at asked
                  cases asked
              | ok formatted =>
                  rw [formatted] at asked
                  cases asked
                  rfl
            unfold DownstreamClassificationHandler.call
            simp only [stored, decoded]
            rw [if_neg chat, not_not.1 awaiting]
            dsimp only
            unfold Stage2ClassificationService.classify
            rw [if_neg awaiting]
            dsimp only
            rw [if_neg requested, if_neg first, formatted]
            rfl

/-- Stage 2 records a decision, as the first one of its message. -/
theorem stage2_records {text : String} (asked : stage2Text? timestamps job db = some text)
    (called : DownstreamClassificationHandler.call timestamps adapter operatorTelegramUserId service
      job newId now db = .ok u) :
    ∃ response v, adapter.classify text = .ok response ∧ response.result.contextRequired = false ∧
      recordStage job.telegramChatId job.telegramMessageId 2 job.createdAt adapter.model response
        adapter.pricing now db = .ok (true, v) ∧ u.apiUsageDaily = v.apiUsageDaily := by
  rw [stage2_call asked] at called
  rcases Except.bind_eq_ok_iff.1 called with ⟨response, answered, called⟩
  split at called
  · cases called
  · rename_i final
    rcases Except.bind_eq_ok_iff.1 called with ⟨⟨inserted, v⟩, recorded, called⟩
    dsimp only at called
    split at called
    · cases called
    · rename_i fresh
      have fresh : inserted = true := by simpa using fresh
      subst fresh
      refine ⟨response, v, answered, Bool.not_eq_true _ ▸ final, recorded, ?_⟩
      split at called
      · exact route_usage called
      · cases called
        rfl

theorem stage2_succeeds {text : String} (asked : stage2Text? timestamps job db = some text)
    (answered : adapter.classify text = .ok response)
    (final : response.result.contextRequired = false)
    (recorded : recordStage job.telegramChatId job.telegramMessageId 2 job.createdAt adapter.model
      response adapter.pricing now db = .ok (true, v))
    (there : (v.processingJobs.get? job.id).isSome = true) :
    ∃ u, DownstreamClassificationHandler.call timestamps adapter operatorTelegramUserId service job
      newId now db = .ok u := by
  rcases @route_succeeds _ _ .awaitingRelevantProcessing there rfl with ⟨chosen, relevant⟩
  rw [stage2_call asked]
  simp only [answered, final, recorded, relevant, bind, Except.bind, Bool.not_true,
    Bool.false_eq_true, if_false]
  split
  · exact ⟨_, rfl⟩
  · exact ⟨_, rfl⟩

/-- A handler that does not get to ask leaves the usage. -/
theorem unasked_usage (asked : stage2Text? timestamps job db = none)
    (called : DownstreamClassificationHandler.call timestamps adapter operatorTelegramUserId service
      job newId now db = .ok u) :
    u.apiUsageDaily = db.apiUsageDaily := by
  unfold DownstreamClassificationHandler.call at called
  split at called
  · cases called
  · rename_i snapshot stored
    split at called
    · cases called
    · rename_i chain decoded
      split at called
      · cases called
      · rename_i chat
        split at called
        · rename_i awaiting
          unfold stage2Text? at asked
          unfold Stage2ClassificationService.classify at called
          simp only [stored, decoded, Option.bind_some] at asked
          rw [if_neg chat, if_neg (not_not.2 awaiting)] at asked
          rw [if_neg (not_not.2 awaiting)] at called
          dsimp only at called
          split at called
          · cases called
          · rename_i requested
            rw [if_neg requested] at asked
            split at called
            · cases called
            · rename_i first
              rw [if_neg first] at asked
              rcases Except.bind_eq_ok_iff.1 called with ⟨text, formatted, _⟩
              rw [formatted] at asked
              cases asked
        · rcases Except.map_eq_ok_iff.1 called with ⟨⟨questionId, w⟩, persisted, rfl⟩
          exact (persist_spec persisted).2.1
        · cases called

end Handlers

/-- One run is added to the row of its day, and the other rows are as before. -/
def Takes (db u : Database) (run : ClassificationRun) : Prop :=
  ∀ k, u.apiUsageDaily.get? k =
    if k = (currentDate run.createdAt, run.model) then
      some (usageRow run run.createdAt db.apiUsageDaily)
    else db.apiUsageDaily.get? k

section Iterations

variable {iteration : Iteration} {w : Surroundings} {db u : Database} {answer : Answer}
  {fault error : Option HandlerError}

/-- An answer that is recorded when its run can be inserted is accounted, or it is not kept. -/
theorem recorded_usage {inserted : Bool} {v : Database}
    (recorded : recordStage answer.job.telegramChatId answer.job.telegramMessageId answer.stage
      answer.job.createdAt answer.adapter.model answer.response answer.adapter.pricing
      answer.startedAt db = .ok (inserted, v))
    (final : answer.stage = 2 → answer.response.result.contextRequired = false) :
    v.apiUsageDaily = db.apiUsageDaily ∧ ¬ (Entry.mk answer fault db).Kept ∨
      (fault = none → (Entry.mk answer fault db).Kept) ∧ Takes db v answer.run := by
  have own : answer.run = newRun answer.job.telegramChatId answer.job.telegramMessageId answer.stage
      answer.job.createdAt answer.adapter.model answer.response answer.adapter.pricing
      answer.startedAt := rfl
  rcases recordStage_cases own recorded with
    ⟨storable, ⟨taken, _, same⟩ | ⟨_, accepted, _, fits, daily⟩⟩
  · refine Or.inl ⟨congrArg Database.apiUsageDaily same, fun kept => ?_⟩
    rw [kept.first] at taken
    cases taken
  · have first : db.classificationRuns.get? answer.run.key = none :=
      Table.get?_eq_none_iff.2 (Table.fresh_of_insert? accepted)
    exact Or.inr ⟨fun undisturbed => ⟨undisturbed, final, first, storable, fits⟩, daily⟩

/-- The record of an answer that is kept succeeds. -/
theorem Entry.Kept.record (kept : (Entry.mk answer fault db).Kept) :
    ∃ v, recordStage answer.job.telegramChatId answer.job.telegramMessageId answer.stage
      answer.job.createdAt answer.adapter.model answer.response answer.adapter.pricing
      answer.startedAt db = .ok (true, v) ∧ v.processingJobs = db.processingJobs := by
  have own : answer.run = newRun answer.job.telegramChatId answer.job.telegramMessageId answer.stage
      answer.job.createdAt answer.adapter.model answer.response answer.adapter.pricing
      answer.startedAt := rfl
  exact recordStage_inserts own kept.runFits kept.first kept.dayFits

/-- The flush of a claim touches no run and no usage. -/
theorem Entry.Kept.of_flushed (kept : (Entry.mk answer fault db).Kept) :
    (Entry.mk answer fault (iteration.flushed db)).Kept :=
  ⟨kept.undisturbed, kept.final, kept.first, kept.runFits, kept.dayFits⟩

/-- The answer that an iteration receives. -/
theorem answer_cases (received : answer? iteration w db = some answer) :
    ∃ text, asked? iteration w db = some (answer.stage, text) ∧
      w.adapter.classify text = .ok answer.response ∧
      answer = ⟨answer.stage, iteration.job, iteration.startedAt, w.adapter, answer.response⟩ := by
  unfold answer? at received
  split at received
  · cases received
  · rename_i stage text asked
    split at received
    · cases received
    · rename_i response answered
      cases received
      exact ⟨text, asked, answered, rfl⟩

theorem answer?_of_asked {stage : Nat} {text : String} {response : ClassificationResponse}
    (asked : asked? iteration w db = some (stage, text))
    (answered : w.adapter.classify text = .ok response) : answer? iteration w db =
      some ⟨stage, iteration.job, iteration.startedAt, w.adapter, response⟩ := by
  unfold answer?
  rw [asked]
  dsimp only
  rw [answered]

/-- Of the downstream workers only the classification worker asks its adapter, for stage 2. -/
theorem asked?_downstream {stage : Nat} {text : String} (downstream : iteration.worker ≠ .stage1)
    (asked : asked? iteration w db = some (stage, text)) :
    iteration.worker = .classification ∧ stage = 2 ∧
      stage2Text? w.timestamps iteration.job (iteration.flushed db) = some text := by
  unfold asked? at asked
  cases worker : iteration.worker with
  | stage1 => exact absurd worker downstream
  | replyChain =>
      rw [worker] at asked
      cases asked
  | classification =>
      rw [worker] at asked
      rcases Option.map_eq_some_iff.1 asked with ⟨_, asking, same⟩
      rw [Prod.mk.injEq] at same
      exact ⟨rfl, same.1.symm, same.2 ▸ asking⟩

/-- What an iteration that commits does to the usage: nothing, and then no answer is kept, or it
takes the one that it has received. -/
def Settles (iteration : Iteration) (w : Surroundings) (db u : Database) : Prop :=
  u.apiUsageDaily = db.apiUsageDaily ∧
      (∀ answer, answer? iteration w db = some answer → ¬ (Entry.mk answer w.fault db).Kept) ∨
    ∃ answer, answer? iteration w db = some answer ∧ (Entry.mk answer w.fault db).Kept ∧
      Takes db u answer.run

/-- An iteration whose handler has recorded its answer. -/
theorem settles_of_record {inserted : Bool} {v : Database}
    (received : answer? iteration w db = some answer) (undisturbed : w.fault = none)
    (final : answer.stage = 2 → answer.response.result.contextRequired = false)
    (recorded : recordStage answer.job.telegramChatId answer.job.telegramMessageId answer.stage
      answer.job.createdAt answer.adapter.model answer.response answer.adapter.pricing
      answer.startedAt (iteration.flushed db) = .ok (inserted, v))
    (usage : u.apiUsageDaily = v.apiUsageDaily) : Settles iteration w db u := by
  rcases @recorded_usage _ _ w.fault _ _ recorded final with ⟨same, dropped⟩ | ⟨kept, takes⟩
  · refine Or.inl ⟨usage.trans same, fun other own held => dropped ?_⟩
    cases received.symm.trans own
    exact held.of_flushed
  · have kept := kept undisturbed
    refine Or.inr ⟨answer, received,
      ⟨kept.undisturbed, kept.final, kept.first, kept.runFits, kept.dayFits⟩, fun k => ?_⟩
    rw [usage]
    exact takes k

theorem settles_unasked (asked : asked? iteration w db = none)
    (usage : u.apiUsageDaily = db.apiUsageDaily) : Settles iteration w db u := by
  refine Or.inl ⟨usage, fun answer received => ?_⟩
  rcases answer_cases received with ⟨text, asking, _⟩
  rw [asked] at asking
  cases asking

theorem undisturbed_of_ok {α : Type} {handled : Except HandlerError α} {a : α}
    (ok : guarded fault handled = .ok a) : fault = none := by
  cases fault with
  | none => rfl
  | some error => cases ok

theorem stage1_settles (worker : iteration.worker = .stage1)
    (settled : QueueWorker.settle {} iteration.job iteration.startedAt (iteration.flushed db)
      (iteration.classified w (iteration.flushed db)) = .ok u) : Settles iteration w db u := by
  have asked : asked? iteration w db =
      if iteration.job.status = .processing then some (1, iteration.job.messageText) else none := by
    unfold asked?
    rw [worker]
  cases handled : iteration.classified w (iteration.flushed db) with
  | error raised =>
      rw [handled] at settled
      rcases settle_usage settled with ⟨there, same⟩
      refine Or.inl ⟨same, fun answer received kept => ?_⟩
      rcases answer_cases received with ⟨text, asking, answered, own⟩
      have undisturbed : w.fault = none := kept.undisturbed
      rw [asked] at asking
      split at asking
      · rename_i processing
        rw [Option.some.injEq, Prod.mk.injEq] at asking
        rcases (@Entry.Kept.of_flushed iteration _ _ _ kept).record with ⟨v, recorded, jobs⟩
        rw [own, ← asking.1] at recorded
        rw [← asking.2] at answered
        have there : (v.processingJobs.get? iteration.job.id).isSome = true := by
          rw [jobs]
          exact there
        rcases stage1_succeeds processing answered recorded there with ⟨disposition, x, called⟩
        unfold Iteration.classified at handled
        rw [undisturbed] at handled
        cases called.symm.trans handled
      · cases asking
  | ok result =>
      rcases result with ⟨disposition, v⟩
      rw [handled] at settled
      have ran := guarded_eq_ok handled
      have usage : u.apiUsageDaily = v.apiUsageDaily := by
        cases disposition <;> cases settled <;> rfl
      by_cases processing : iteration.job.status = .processing
      · rw [if_pos processing] at asked
        rcases stage1_records processing ran with ⟨response, inserted, x, answered, recorded, same⟩
        exact settles_of_record (answer?_of_asked asked answered) (undisturbed_of_ok handled)
          (fun second => absurd second (show 1 ≠ 2 by decide)) recorded (usage.trans same)
      · rw [if_neg processing] at asked
        unfold Stage1ClassificationHandler.call at ran
        rw [if_pos processing] at ran
        cases ran
        exact settles_unasked asked usage

theorem downstream_settles (downstream : iteration.worker ≠ .stage1)
    (settled : DownstreamQueueWorker.settle {} iteration.job iteration.startedAt
      (iteration.flushed db) (iteration.handedOn w (iteration.flushed db)) = .ok u) :
    Settles iteration w db u := by
  cases handled : iteration.handedOn w (iteration.flushed db) with
  | error raised =>
      rw [handled] at settled
      rcases downstream_settle_usage settled with ⟨there, same⟩
      refine Or.inl ⟨same, fun answer received kept => ?_⟩
      rcases answer_cases received with ⟨text, asking, answered, own⟩
      rcases asked?_downstream downstream asking with ⟨worker, second, asked⟩
      have undisturbed : w.fault = none := kept.undisturbed
      rcases (@Entry.Kept.of_flushed iteration _ _ _ kept).record with ⟨v, recorded, jobs⟩
      rw [own, second] at recorded
      have there : (v.processingJobs.get? iteration.job.id).isSome = true := by
        rw [jobs]
        exact there
      rcases @stage2_succeeds _ _ _ iteration.startedAt _ _ _ w.operatorTelegramUserId w.service
        w.newId _ asked answered (kept.final second) recorded there with ⟨x, called⟩
      unfold Iteration.handedOn at handled
      rw [undisturbed, worker] at handled
      cases called.symm.trans handled
  | ok v =>
      rw [handled] at settled
      cases settled
      have ran := guarded_eq_ok handled
      cases asked : asked? iteration w db with
      | some question =>
          rcases question with ⟨stage, text⟩
          rcases asked?_downstream downstream asked with ⟨worker, rfl, asking⟩
          rw [worker] at ran
          rcases stage2_records asking ran with ⟨response, x, answered, final, recorded, same⟩
          exact settles_of_record (answer?_of_asked asked answered) (undisturbed_of_ok handled)
            (fun _ => final) recorded same
      | none =>
          refine settles_unasked asked ?_
          cases worker : iteration.worker with
          | stage1 => exact absurd worker downstream
          | replyChain =>
              rw [worker] at ran
              dsimp only at ran
              unfold ReplyChainSnapshotHandler.call at ran
              split at ran
              · cases ran
              · unfold DownstreamJobRepository.saveReplyChain at ran
                split at ran
                · cases ran
                · exact (modify_usage ran).2
          | classification =>
              rw [worker] at ran
              unfold asked? at asked
              rw [worker] at asked
              have silent : stage2Text? w.timestamps iteration.job (iteration.flushed db) = none :=
                Option.map_eq_none_iff.1 asked
              have same : u.apiUsageDaily = (iteration.flushed db).apiUsageDaily :=
                unasked_usage silent ran
              exact same

/-- Every iteration that commits. -/
theorem run_settles (ran : iteration.run w db = (error, .ok u)) : Settles iteration w db u := by
  unfold Iteration.run at ran
  dsimp only at ran
  split at ran
  · rename_i worker
    rw [Prod.mk.injEq] at ran
    exact stage1_settles worker ran.2
  · rename_i downstream
    rw [Prod.mk.injEq] at ran
    exact downstream_settles downstream ran.2

end Iterations

section Runs

variable {s t u : Database} {runs more : List ClassificationRun} {run : ClassificationRun}

theorem Accounted.none (same : t.apiUsageDaily = s.apiUsageDaily) : Accounted s t [] := by
  intro date model
  unfold usageAt
  rw [same]
  rfl

theorem Accounted.append (first : Accounted s t runs) (second : Accounted t u more) :
    Accounted s u (runs ++ more) := by
  intro date model
  have split : runsOn date model (runs ++ more) = runsOn date model runs ++ runsOn date model more :=
    List.filter_append ..
  rw [split, List.foldl_append, ← first date model]
  exact second date model

/-- The row of the day takes one run, wherever it started. -/
theorem Takes.accounted (takes : Takes s t run) : Accounted s t [run] := by
  intro date model
  unfold usageAt runsOn
  rw [takes (date, model)]
  by_cases own : (date, model) = (currentDate run.createdAt, run.model)
  · have same := Prod.mk.inj own
    rw [if_pos own, List.filter_cons_of_pos (by simp [same.1, same.2]), own]
    unfold usageRow
    cases s.apiUsageDaily.get? (currentDate run.createdAt, run.model) with
    | none => simp [firstUsage, ApiUsageDaily.plus, same.1, same.2]
    | some row => rfl
  · have other : ¬ (currentDate run.createdAt = date ∧ run.model = model) :=
      fun same => own (Prod.ext same.1.symm same.2.symm)
    rw [if_neg own, List.filter_cons_of_neg (by simpa using other)]
    rfl

/-- Each run of a day and a model is one request of it. -/
theorem requestCount_foldl {row : ApiUsageDaily} :
    (runs.foldl ApiUsageDaily.plus row).requestCount = row.requestCount + runs.length := by
  induction runs generalizing row with
  | nil => rfl
  | cons run runs ih =>
      rw [List.foldl_cons, ih, List.length_cons]
      unfold ApiUsageDaily.plus
      dsimp only
      omega

/-- Only the end of an iteration writes the usage. -/
theorem quiet_usage {before after : State} {e : Event} (quiet : ∀ jobId w, e ≠ .finish jobId w)
    (next : Pipeline.step before e = some after) :
    after.db.apiUsageDaily = before.db.apiUsageDaily := by
  cases e with
  | enqueue job newId now =>
      simp only [Pipeline.step] at next
      split at next
      · cases next
      · split at next
        · cases next
        · rename_i enqueued
          cases next
          rcases JobRepository.enqueue_jobs enqueued with ⟨jobs, rfl⟩
          rfl
  | claim worker workerId now =>
      simp only [Pipeline.step] at next
      split at next
      · cases next
        rfl
      · rcases Option.map_eq_some_iff.1 next with ⟨opened, _, rfl⟩
        rfl
  | finish jobId w => exact absurd rfl (quiet jobId w)
  | crash jobId =>
      simp only [Pipeline.step] at next
      split at next
      · cases next
      · cases next
        rfl
  | recoverStale staleBefore now =>
      cases next
      rfl

/-- A step accounts for the kept ones among the answers that it receives. -/
theorem step_accounted {b c : Book} {o : Occurrence} (next : step b o = some c) :
    ∃ more, c.entries = b.entries ++ more ∧
      Accounted b.state.db c.state.db
        ((more.filter (fun entry => entry.Kept)).map (fun entry => entry.answer.run)) := by
  rcases Option.map_eq_some_iff.1 next with ⟨after, stepped, rfl⟩
  refine ⟨_, rfl, ?_⟩
  rcases o with ⟨event, answered⟩
  cases event with
  | enqueue | claim | crash | recoverStale =>
      exact Accounted.none (quiet_usage (fun _ _ => Event.noConfusion) stepped)
  | finish jobId w =>
      simp only [Pipeline.step] at stepped
      simp only [received]
      cases found : b.state.opened.get? jobId with
      | none =>
          rw [found] at stepped
          cases stepped
      | some iteration =>
          rw [found] at stepped
          dsimp only at stepped ⊢
          rcases ran : iteration.run w b.state.db with ⟨error, _ | db⟩
          · rw [ran] at stepped
            cases stepped
            exact Accounted.none rfl
          · rw [ran] at stepped
            cases stepped
            rcases run_settles ran with ⟨same, dropped⟩ | ⟨answer, received, kept, takes⟩
            · have none_kept : ∀ answered : Bool,
                  (if answered then ((answer? iteration w b.state.db).map (fun answer =>
                    Entry.mk answer w.fault b.state.db)).toList else []).filter
                    (fun entry => entry.Kept) = [] := by
                intro answered
                rw [List.filter_eq_nil_iff]
                intro entry held
                split at held
                · rw [Option.mem_toList, Option.map_eq_some_iff] at held
                  rcases held with ⟨answer, own, rfl⟩
                  simpa using dropped answer own
                · cases held
              rw [none_kept]
              exact Accounted.none same
            · have undisturbed : w.fault = none := kept.undisturbed
              rw [undisturbed] at kept
              rw [received, undisturbed]
              simp only [Except.isOk, Except.toBool, Option.isNone_none, Bool.true_or, Bool.and_self,
                if_true, Option.map_some, Option.toList_some]
              rw [List.filter_cons_of_pos (by simpa using kept)]
              exact takes.accounted

/-- A run accounts for the kept answers. -/
theorem run_accounted {start : State} {b : Book} {os : List Occurrence}
    (run : Run step anyEvent ⟨start, []⟩ os b) :
    Accounted start.db b.state.db
      ((b.entries.filter (fun entry => entry.Kept)).map (fun entry => entry.answer.run)) := by
  induction run with
  | nil => exact Accounted.none rfl
  | snoc _ _ next held =>
      rcases step_accounted next with ⟨more, grown, added⟩
      rw [grown, List.filter_append, List.map_append]
      exact held.append added

/-- When all answers are accounted as well as the kept ones, no answer was lost: each one counts as
a request of its day. -/
theorem kept_of_accounted {entries : List Entry}
    (all : Accounted s t (entries.map (fun entry => entry.answer.run)))
    (kept : Accounted s t
      ((entries.filter (fun entry => entry.Kept)).map (fun entry => entry.answer.run))) :
    ∀ entry ∈ entries, entry.Kept := by
  intro entry held
  let own (other : Entry) : Bool :=
    currentDate other.answer.run.createdAt = currentDate entry.answer.run.createdAt ∧
      other.answer.run.model = entry.answer.run.model
  have count := congrArg ApiUsageDaily.requestCount
    ((all _ _).symm.trans (kept (currentDate entry.answer.run.createdAt) entry.answer.run.model))
  rw [requestCount_foldl, requestCount_foldl, Nat.add_left_cancel_iff] at count
  unfold runsOn at count
  rw [List.filter_map, List.filter_map, List.length_map, List.length_map] at count
  have same : (entries.filter own).filter (fun entry => entry.Kept) = entries.filter own := by
    refine List.filter_sublist.eq_of_length ?_
    rw [List.filter_filter, List.filter_congr (fun other _ => Bool.and_comm _ _),
      ← List.filter_filter]
    exact count.symm
  have counted : entry ∈ entries.filter own := List.mem_filter.2 ⟨held, by simp [own]⟩
  rw [← same] at counted
  simpa using (List.mem_filter.1 counted).2

/-- Over a run, the usage grows by the tokens, the cost and one request of every answer that a
committed iteration has received, if and only if each of these answers is final for its stage, is
the first of its message and stage, fits its columns, and is followed by no error. -/
theorem answers_accounted_iff {start : State} {b : Book} {os : List Occurrence}
    (run : Run step anyEvent ⟨start, []⟩ os b) :
    Accounted start.db b.state.db (b.entries.map (fun entry => entry.answer.run)) ↔
      ∀ entry ∈ b.entries, entry.Kept := by
  have kept := run_accounted run
  constructor
  · exact fun all => kept_of_accounted all kept
  · intro each
    rw [List.filter_eq_self.2 (fun entry held => by simpa using each entry held)] at kept
    exact kept

/-- A question whose second stage gets the given answer. -/
def sampleSecondStage (contextRequired : Bool) : List Occurrence :=
  let asks := { sampleSurroundings none with adapter := sampleAdapter true true }
  [⟨sampleEnqueue 5, true⟩, ⟨.claim .stage1 "a" 0, true⟩, ⟨.finish 5 asks, true⟩,
    ⟨.claim .replyChain "b" 1, true⟩, ⟨.finish 5 asks, true⟩, ⟨.claim .classification "c" 2, true⟩,
    ⟨.finish 5 { asks with adapter := sampleAdapter true contextRequired }, true⟩]

theorem answers_accounted_iff_sample : ∃ b : Book,
    Accounted {} b.state.db (b.entries.map (fun entry => entry.answer.run)) ∧
    b.state.db.apiUsageDaily.rows = [⟨0, "gpt-5-mini", 2, 40, 20, 80⟩] := by
  have computed : (exec step anyEvent ⟨{ db := {} }, []⟩ (sampleSecondStage false)).map
      (fun b => (b.state.db.apiUsageDaily.rows, b.entries.all (fun entry => entry.Kept))) =
      some ([⟨0, "gpt-5-mini", 2, 40, 20, 80⟩], true) := by decide +kernel
  rcases Run.exists_of_exec computed with ⟨b, run, value⟩
  rw [Prod.mk.injEq, List.all_eq_true] at value
  exact ⟨b, (answers_accounted_iff run).2 (fun entry held => by simpa using value.2 entry held),
    value.1⟩

/-- An answer that is not final is paid for, fails its job, and is accounted nowhere. -/
theorem undecided_answer_dropped : ∃ b : Book,
    Run step anyEvent ⟨{ db := {} }, []⟩ (sampleSecondStage true) b ∧ b.entries.length = 2 ∧
    b.state.db.processingJobs.rows.map (fun row => (row.status, row.lastErrorCode)) =
      [(.failed, some "STAGE2_NON_FINAL_RESULT")] ∧
    b.state.db.apiUsageDaily.rows = [⟨0, "gpt-5-mini", 1, 20, 10, 40⟩] ∧
    ¬ Accounted {} b.state.db (b.entries.map (fun entry => entry.answer.run)) := by
  have computed : (exec step anyEvent ⟨{ db := {} }, []⟩ (sampleSecondStage true)).map
      (fun b => (b.entries.length,
        b.state.db.processingJobs.rows.map (fun row => (row.status, row.lastErrorCode)),
        b.state.db.apiUsageDaily.rows,
        ((runsOn 0 "gpt-5-mini" (b.entries.map (fun entry => entry.answer.run))).length))) =
      some (2, [(.failed, some "STAGE2_NON_FINAL_RESULT")], [⟨0, "gpt-5-mini", 1, 20, 10, 40⟩], 2) := by
    decide +kernel
  rcases Run.exists_of_exec computed with ⟨b, run, value⟩
  simp only [Prod.mk.injEq] at value
  rcases value with ⟨answers, failed, usage, asked⟩
  refine ⟨b, run, answers, failed, usage, fun all => ?_⟩
  have count := congrArg ApiUsageDaily.requestCount (all 0 "gpt-5-mini")
  rw [requestCount_foldl, asked] at count
  have stored : (usageAt b.state.db 0 "gpt-5-mini").requestCount = 1 := by
    unfold usageAt Table.get?
    rw [usage]
    rfl
  rw [stored] at count
  cases count

end Runs

end LeadAssistant.Accounting
