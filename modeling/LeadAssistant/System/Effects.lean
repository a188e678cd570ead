/-
Module: LeadAssistant.System.Effects
Layer: System
Purpose: What the listener and the pipeline can do to the tables that the services share, said once:
  a step of the listener queues at most one job, and an iteration of the pipeline leaves its own job
  and asks at most the question of it. A job that is left to be persisted, or taken away, has its
  reason.
Trusted boundary: none
Main exports: Queues, Listener.step_queues, SameReplies, Pipeline.Asks, Pipeline.run_asks,
  Pipeline.Iteration.Says, Pipeline.Iteration.Explains, Pipeline.run_explains
-/
import LeadAssistant.Listener.Admission
import LeadAssistant.Pipeline.Lifecycle
import LeadAssistant.Repositories.Views
import LeadAssistant.System.Services

namespace LeadAssistant

open Relational Transition

/-! ### The listener -/

/-- At most one new pending job, and fingerprints. -/
structure Queues (db db' : Database) : Prop where
  same : db' = (db.setProcessingJobs db'.processingJobs).setFingerprints db'.recentMessageFingerprints
  jobs : db'.processingJobs = db.processingJobs ∨
    ∃ row, row.status = .pending ∧ db.processingJobs.insert? row = some db'.processingJobs

theorem Queues.refl (db : Database) : Queues db db := ⟨rfl, Or.inl rfl⟩

section Listening

variable {u : UnicodeData} {messageFingerprint : String → String} {window : Int}

theorem queues_of_enqueue {job : NewJob} {newId jobId : UUID} {now : Time} {db db' : Database}
    {fingerprints : Table RecentMessageFingerprint.key}
    (enqueued : JobRepository.enqueue job newId now (db.setFingerprints fingerprints) =
      .ok (jobId, db')) : Queues db db' := by
  unfold JobRepository.enqueue at enqueued
  split at enqueued
  · cases enqueued
    exact ⟨rfl, Or.inl rfl⟩
  · dsimp only at enqueued
    split at enqueued
    · cases enqueued
    · split at enqueued
      · rename_i jobs inserted
        cases enqueued
        exact ⟨rfl, Or.inr ⟨_, rfl, inserted⟩⟩
      · cases enqueued

theorem Ingestion.step_queues {s t : Ingestion.Intake} {e : Ingestion.Event}
    (next : Ingestion.step messageFingerprint window s e = some t) : Queues s.db t.db := by
  cases Ingestion.step_change next with
  | time | textless | opened | inactive | advanced | rolledBack => exact .refl _
  | committed persist held event t commit =>
      cases commit with
      | suppressed => exact ⟨rfl, Or.inl rfl⟩
      | admitted chat prior newId jobId db created phase enqueued => exact queues_of_enqueue enqueued

theorem Listener.step_queues {s t : Listener} {e : ListenerEvent} (own : ∀ db, e ≠ .others db)
    (next : Listener.step u messageFingerprint window s e = some t) :
    Queues s.intake.db t.intake.db := by
  cases e with
  | tick now =>
      obtain ⟨intake, moved, rfl⟩ := Option.map_eq_some_iff.1 next
      exact Ingestion.step_queues moved
  | load | abandon =>
      cases next
      exact .refl _
  | publish =>
      obtain ⟨chatIds, -, rfl⟩ := Option.map_eq_some_iff.1 next
      exact .refl _
  | others db => exact absurd rfl (own db)
  | update id event =>
      cases receive_cases next with
      | ignored | filtered | opened => exact .refl _
  | statement e =>
      simp only [Listener.step] at next
      split at next
      · simp at next
      · obtain ⟨intake, moved, rfl⟩ := Option.map_eq_some_iff.1 next
        exact Ingestion.step_queues moved
  | cancel id =>
      obtain ⟨intake, moved, rfl⟩ := Option.map_eq_some_iff.1 next
      exact Ingestion.step_queues moved
  | restart =>
      cases next
      exact .refl _

end Listening

/-! ### The pipeline -/

/-- Questions, notifications, versions and commands are as before. -/
structure SameReplies (db u : Database) : Prop where
  questions : u.detectedQuestions = db.detectedQuestions
  notifications : u.botNotifications = db.botNotifications
  versions : u.replyVersions = db.replyVersions
  commands : u.outboundCommands = db.outboundCommands

theorem SameReplies.trans {db u v : Database} (first : SameReplies db u) (second : SameReplies u v) :
    SameReplies db v :=
  ⟨second.questions.trans first.questions, second.notifications.trans first.notifications,
    second.versions.trans first.versions, second.commands.trans first.commands⟩

namespace Pipeline

variable {db u : Database} {job : ProcessingJob} {iteration : Iteration} {row : ProcessingJob}
  {w : Surroundings} {error : Option HandlerError}

/-- A question for the job of an iteration, in its place. -/
structure Asks (iteration : Iteration) (w : Surroundings) (db u : Database) : Prop where
  worker : iteration.worker = .classification
  awaiting : iteration.job.status = .awaitingRelevantProcessing
  asked : ∃ question, db.detectedQuestions.insert? question = some u.detectedQuestions ∧
    question.id = w.newId ∧ question.status = .detected ∧ question.message = iteration.job.message
  told : ∃ notification, db.botNotifications.insert? notification = some u.botNotifications ∧
    notification.questionId = w.newId ∧ notification.sentAt = none
  versions : u.replyVersions = db.replyVersions
  commands : u.outboundCommands = db.outboundCommands

theorem Asks.around {v x : Database} (asks : Asks iteration w u v) (before : SameReplies db u)
    (after : SameReplies v x) : Asks iteration w db x where
  worker := asks.worker
  awaiting := asks.awaiting
  asked := by
    obtain ⟨question, inserted, own⟩ := asks.asked
    refine ⟨question, ?_, own⟩
    rw [← before.questions, after.questions]
    exact inserted
  told := by
    obtain ⟨notification, inserted, own⟩ := asks.told
    refine ⟨notification, ?_, own⟩
    rw [← before.notifications, after.notifications]
    exact inserted
  versions := after.versions.trans (asks.versions.trans before.versions)
  commands := after.commands.trans (asks.commands.trans before.commands)

theorem sameReplies_modify {jobId : UUID} {change : ProcessingJob → ProcessingJob}
    (changed : JobRepository.modify jobId change db = .ok u) : SameReplies db u := by
  unfold JobRepository.modify at changed
  split at changed
  · cases changed
  · cases changed
    exact ⟨rfl, rfl, rfl, rfl⟩

theorem sameReplies_route {jobId : UUID} {status : ProcessingJobStatus}
    (routed : JobRepository.route jobId status db = .ok u) : SameReplies db u := by
  unfold JobRepository.route at routed
  split at routed
  · cases routed
  · exact sameReplies_modify routed

theorem sameReplies_recordStage {telegramChatId telegramMessageId : Int} {stage : Nat}
    {queuedAt : Time} {model : String} {response : ClassificationResponse}
    {pricing : ClassificationPricing} {now : Time} {inserted : Bool}
    (recorded : UsageRepository.recordStage telegramChatId telegramMessageId stage queuedAt model
      response pricing now db = .ok (inserted, u)) : SameReplies db u := by
  rcases UsageRepository.recordStage_cases rfl recorded with ⟨-, ⟨-, -, rfl⟩ | ⟨-, -, frame, -⟩⟩
  · exact ⟨rfl, rfl, rfl, rfl⟩
  · rw [frame]
    exact ⟨rfl, rfl, rfl, rfl⟩

theorem sameReplies_stage1 {adapter : ClassificationAdapter} {now : Time}
    {disposition : JobDisposition}
    (handled : Stage1ClassificationHandler.call adapter job now db = .ok (disposition, u)) :
    SameReplies db u := by
  unfold Stage1ClassificationHandler.call at handled
  split at handled
  · cases handled
    exact ⟨rfl, rfl, rfl, rfl⟩
  · obtain ⟨response, -, handled⟩ := Except.bind_eq_ok_iff.1 handled
    obtain ⟨⟨inserted, recorded⟩, stored, handled⟩ := Except.bind_eq_ok_iff.1 handled
    have stage := sameReplies_recordStage stored
    dsimp only at handled
    split at handled
    · obtain ⟨routed, route, finished⟩ := Except.bind_eq_ok_iff.1 handled
      cases finished
      exact stage.trans (sameReplies_route route)
    · split at handled
      · obtain ⟨routed, route, finished⟩ := Except.bind_eq_ok_iff.1 handled
        cases finished
        exact stage.trans (sameReplies_route route)
      · cases handled
        exact stage

theorem sameReplies_snapshot {timestamps : TimestampCodec} {source : ReplyMessageSource} {now : Time}
    (handled : ReplyChainSnapshotHandler.call timestamps source job now db = .ok u) :
    SameReplies db u := by
  unfold ReplyChainSnapshotHandler.call at handled
  split at handled
  · cases handled
  · unfold DownstreamJobRepository.saveReplyChain at handled
    split at handled
    · cases handled
    · exact sameReplies_modify handled

theorem sameReplies_stage2 {adapter : ClassificationAdapter} {chain : ReplyChain} {now : Time}
    (handled : Stage2ClassificationService.classify adapter job chain now db = .ok u) :
    SameReplies db u := by
  unfold Stage2ClassificationService.classify at handled
  split at handled
  · cases handled
  · dsimp only at handled
    split at handled
    · cases handled
    · split at handled
      · cases handled
      · obtain ⟨targetText, -, handled⟩ := Except.bind_eq_ok_iff.1 handled
        obtain ⟨response, -, handled⟩ := Except.bind_eq_ok_iff.1 handled
        split at handled
        · obtain ⟨_, raised, _⟩ := Except.bind_eq_ok_iff.1 handled
          cases raised
        · obtain ⟨⟨inserted, recorded⟩, stored, handled⟩ := Except.bind_eq_ok_iff.1 handled
          have stage := sameReplies_recordStage stored
          dsimp only at handled
          split at handled
          · obtain ⟨_, raised, _⟩ := Except.bind_eq_ok_iff.1 handled
            cases raised
          · split at handled
            · exact stage.trans (sameReplies_route handled)
            · cases handled
              exact ⟨stage.questions, stage.notifications, stage.versions, stage.commands⟩

theorem sameReplies_chainMessages {rows : List QuestionChainMessage}
    (chained : rows.foldlM Database.insertChainMessage db = .ok u) : SameReplies db u := by
  apply Except.foldlM_invariant chained
  · exact ⟨rfl, rfl, rfl, rfl⟩
  · intro v row w same inserted
    unfold Database.insertChainMessage at inserted
    split at inserted
    · cases inserted
    · split at inserted
      · cases inserted
      · split at inserted
        · cases inserted
        · cases inserted
          exact ⟨same.questions, same.notifications, same.versions, same.commands⟩

/-- Persisting a lead leaves the replies as they are, or asks its question. -/
theorem persist_asks {operatorTelegramUserId : Int} {chain : ReplyChain} {questionId : UUID}
    {now : Time} (worker : iteration.worker = .classification)
    (handled : RelevantQuestionPersistenceService.persist operatorTelegramUserId w.service
      iteration.job chain w.newId now db = .ok (questionId, u)) :
    SameReplies db u ∨ Asks iteration w db u := by
  unfold RelevantQuestionPersistenceService.persist at handled
  split at handled
  · cases handled
  · rename_i awaiting
    split at handled
    · cases handled
    · split at handled
      · cases handled
        exact Or.inl ⟨rfl, rfl, rfl, rfl⟩
      · split at handled
        · cases handled
        · split at handled
          · split at handled
            · cases handled
            · dsimp only at handled
              split at handled
              · cases handled
              · split at handled
                · cases handled
                · obtain ⟨asked, asking, handled⟩ := Except.bind_eq_ok_iff.1 handled
                  obtain ⟨rows, -, handled⟩ := Except.bind_eq_ok_iff.1 handled
                  obtain ⟨chained, chaining, handled⟩ := Except.bind_eq_ok_iff.1 handled
                  obtain ⟨notified, notifying, handled⟩ := Except.bind_eq_ok_iff.1 handled
                  cases handled
                  obtain ⟨questions, inserted, rfl⟩ := insertDetectedQuestion_spec asking
                  have chain := sameReplies_chainMessages chaining
                  obtain ⟨notifications, told, rfl⟩ := insertBotNotification_spec notifying
                  have once := inserted.trans (congrArg some chain.questions.symm)
                  have notified := told
                  rw [chain.notifications] at notified
                  exact Or.inr ⟨worker, not_not.1 awaiting, ⟨_, once, rfl, rfl, rfl⟩,
                    ⟨_, notified, rfl, rfl⟩, chain.versions, chain.commands⟩
          · cases handled

theorem sameReplies_settle {startedAt : Time} {raised : HandlerError}
    (settled : QueueWorker.settle {} job startedAt db (.error raised) = .ok u) :
    SameReplies db u := by
  unfold QueueWorker.settle at settled
  obtain ⟨delay, -, settled⟩ := Except.bind_eq_ok_iff.1 settled
  dsimp only at settled
  split at settled
  · exact sameReplies_modify settled
  · exact sameReplies_modify settled

theorem sameReplies_downstream_settle {startedAt : Time} {raised : HandlerError}
    (settled : DownstreamQueueWorker.settle {} job startedAt db (.error raised) = .ok u) :
    SameReplies db u := by
  unfold DownstreamQueueWorker.settle at settled
  obtain ⟨delay, -, settled⟩ := Except.bind_eq_ok_iff.1 settled
  dsimp only at settled
  split at settled
  · exact sameReplies_modify settled
  · exact sameReplies_modify settled

/-- How the second handler of a job returns: with the chain stored, with the chain judged by the
model, or with the question asked. -/
inductive HandsOn (iteration : Iteration) (w : Surroundings) (db u : Database) : Prop where
  | chained (worker : iteration.worker = .replyChain)
      (ran : ReplyChainSnapshotHandler.call w.timestamps w.source iteration.job
        iteration.startedAt db = .ok u)
  | judged (worker : iteration.worker = .classification) (chain : ReplyChain)
      (read : iteration.job.replyChainSnapshot.bind (deserializeReplyChain w.timestamps) =
        some chain)
      (ran : Stage2ClassificationService.classify w.adapter iteration.job chain
        iteration.startedAt db = .ok u)
  | asked (worker : iteration.worker = .classification) (chain : ReplyChain) (questionId : UUID)
      (status : iteration.job.status = .awaitingRelevantProcessing)
      (ran : RelevantQuestionPersistenceService.persist w.operatorTelegramUserId w.service
        iteration.job chain w.newId iteration.startedAt db = .ok (questionId, u))

theorem handedOn_cases (downstream : iteration.worker ≠ .stage1)
    (handled : iteration.handedOn w db = .ok u) : HandsOn iteration w db u := by
  have ran := guarded_eq_ok handled
  cases worker : iteration.worker with
  | stage1 => exact absurd worker downstream
  | replyChain =>
      rw [worker] at ran
      exact .chained worker ran
  | classification =>
      rw [worker] at ran
      dsimp only at ran
      unfold DownstreamClassificationHandler.call at ran
      split at ran
      · cases ran
      · rename_i snapshot loaded
        split at ran
        · cases ran
        · rename_i chain read
          split at ran
          · cases ran
          · split at ran
            · refine .judged worker chain ?_ ran
              rw [loaded]
              exact read
            · rename_i status
              obtain ⟨⟨questionId, v⟩, persisted, rfl⟩ := Except.map_eq_ok_iff.1 ran
              exact .asked worker chain questionId status persisted
            · cases ran

theorem handedOn_asks (downstream : iteration.worker ≠ .stage1)
    (handled : iteration.handedOn w db = .ok u) : SameReplies db u ∨ Asks iteration w db u := by
  cases handedOn_cases downstream handled with
  | chained worker ran => exact Or.inl (sameReplies_snapshot ran)
  | judged worker chain read ran => exact Or.inl (sameReplies_stage2 ran)
  | asked worker chain questionId status ran => exact persist_asks worker ran

/-- An iteration that commits leaves the replies as they are, or asks the question of its job. -/
theorem run_asks (ran : iteration.run w db = (error, .ok u)) :
    SameReplies db u ∨ Asks iteration w db u := by
  have flushed : SameReplies db (iteration.flushed db) := ⟨rfl, rfl, rfl, rfl⟩
  unfold Iteration.run at ran
  dsimp only at ran
  split at ran
  · obtain ⟨-, settled⟩ := Prod.mk.inj ran
    left
    cases handled : iteration.classified w (iteration.flushed db) with
    | error raised =>
        rw [handled] at settled
        exact flushed.trans (sameReplies_settle settled)
    | ok answer =>
        obtain ⟨disposition, v⟩ := answer
        have kept := flushed.trans (sameReplies_stage1 (guarded_eq_ok handled))
        rw [handled] at settled
        cases disposition with
        | retain =>
            cases settled
            exact kept
        | complete =>
            cases settled
            exact ⟨kept.questions, kept.notifications, kept.versions, kept.commands⟩
  · rename_i downstream
    obtain ⟨-, settled⟩ := Prod.mk.inj ran
    cases handled : iteration.handedOn w (iteration.flushed db) with
    | error raised =>
        rw [handled] at settled
        exact Or.inl (flushed.trans (sameReplies_downstream_settle settled))
    | ok v =>
        rw [handled] at settled
        cases settled
        exact (handedOn_asks downstream handled).imp flushed.trans
          (fun asks => asks.around flushed ⟨rfl, rfl, rfl, rfl⟩)

/-- The question that an iteration asks has the place of its message, and no other question moves. -/
theorem Asks.placeOf? (asks : Asks iteration w db u) (id : UUID) :
    (id = w.newId ∧ db.placeOf? id = none ∧ ∃ topicId, u.placeOf? id =
      some (iteration.job.telegramChatId, iteration.job.telegramMessageId, topicId)) ∨
    id ≠ w.newId ∧ u.placeOf? id = db.placeOf? id := by
  obtain ⟨question, inserted, named, -, place⟩ := asks.asked
  have found := @Table.get?_insert? _ _ _ _ _ _ _ id inserted
  unfold Database.placeOf?
  by_cases own : id = question.id
  · left
    obtain ⟨chat, message⟩ := Prod.mk.inj place
    refine ⟨own.trans named, ?_, question.topicId, ?_⟩
    · cases before : db.detectedQuestions.get? id with
      | none => rfl
      | some other =>
          have fresh := Table.fresh_of_insert? inserted other (Table.mem_of_get? before)
          exact absurd ((Table.key_of_get? before).trans own) fresh
    · rw [found, if_pos own, Option.map_some, chat, message]
  · right
    refine ⟨fun same => own (same.trans named.symm), ?_⟩
    rw [found, if_neg own]

/-- A step of the pipeline leaves the database, or it commits the iteration that its event names. -/
theorem commits_of_step {s t : State} {e : Event} (tracked : Tracked s)
    (own : ∀ job newId now, e ≠ .enqueue job newId now) (next : step s e = some t) :
    t.db = s.db ∨ ∃ iteration ∈ s.opened, ∃ w error db, e = .finish iteration.jobId w ∧
      iteration.run w s.db = (error, .ok db) ∧ t = s.committed iteration error db := by
  cases e with
  | enqueue job newId now => exact absurd rfl (own job newId now)
  | claim worker workerId now =>
      simp only [step] at next
      split at next
      · cases next
        exact Or.inl rfl
      · obtain ⟨opened, inserted, rfl⟩ := Option.map_eq_some_iff.1 next
        exact Or.inl rfl
  | finish jobId w =>
      simp only [step] at next
      split at next
      · cases next
      · rename_i iteration found
        have held := Table.mem_of_get? found
        cases Table.key_of_get? found
        split at next
        · cases next
          exact Or.inl rfl
        · rename_i error db ran
          cases next
          exact Or.inr ⟨iteration, held, w, error, db, rfl, ran, rfl⟩
  | crash jobId =>
      simp only [step] at next
      split at next
      · cases next
      · cases next
        exact Or.inl rfl
  | recoverStale staleBefore now =>
      cases next
      exact Or.inl tracked.recovered

/-- The result that the model has given an iteration, of its message or of the chain that ends in
it. -/
def Iteration.Says (iteration : Iteration) (w : Surroundings) (result : StageResult) : Prop :=
  ∃ text response, w.adapter.classify text = .ok response ∧ response.result.name = result ∧
    (iteration.worker = .stage1 ∧ text = iteration.job.messageText ∨
      iteration.worker = .classification ∧ ∃ chain, formatStage2Input chain = .ok text ∧
        iteration.job.replyChainSnapshot.bind (deserializeReplyChain w.timestamps) = some chain)

/-- Why an iteration leaves its job to be persisted, or takes it away. -/
def Iteration.Explains (iteration : Iteration) (w : Surroundings) (u : Database) :
    Option ProcessingJob → Prop
  | some left => left.status = .awaitingRelevantProcessing →
      iteration.job.status = .awaitingRelevantProcessing ∨ iteration.Says w .relevant
  | none => iteration.Says w .irrelevant ∨
      ∃ question ∈ u.detectedQuestions, question.message = iteration.job.message

/-- The message and the place of a job stay. -/
theorem Outcome.keeps {left : ProcessingJob} (outcome : Outcome iteration db u error (some left)) :
    left.asNew = iteration.job.asNew := by
  cases outcome with
  | retried error delay retryable due same =>
      unfold Iteration.retried
      dsimp only
      split <;> rfl
  | failed error errorCode spent same => rfl
  | routed run status worker message sent records => rfl
  | loaded snapshot worker same => rfl
  | chosen run worker awaiting message relevant records accepted => rfl

theorem Iteration.Claims.keeps (claims : iteration.Claims row) :
    iteration.job.asNew = row.asNew := by
  obtain ⟨-, workerId, claimed⟩ := claims
  split at claimed
  · rw [claimed.2]
    rfl
  · rw [claimed.2.2]
    rfl
  · rw [claimed.2.2]
    rfl

theorem Iteration.Claims.awaiting (claims : iteration.Claims row)
    (awaiting : iteration.job.status = .awaitingRelevantProcessing) :
    row.status = .awaitingRelevantProcessing := by
  obtain ⟨-, workerId, claimed⟩ := claims
  split at claimed
  · rw [claimed.2] at awaiting
    cases awaiting
  · rw [claimed.2.2] at awaiting
    exact awaiting
  · rw [claimed.2.2] at awaiting
    exact awaiting

theorem stage2_says {adapter : ClassificationAdapter} {chain : ReplyChain} {now : Time}
    (held : db.processingJobs.get? job.id = some job)
    (handled : Stage2ClassificationService.classify adapter job chain now db = .ok u) :
    ∃ text response, formatStage2Input chain = .ok text ∧ adapter.classify text = .ok response ∧
      (response.result.name = .relevant ∧ (u.processingJobs.get? job.id).isSome = true ∨
        response.result.name = .irrelevant ∧ u.processingJobs.get? job.id = none) := by
  unfold Stage2ClassificationService.classify at handled
  split at handled
  · cases handled
  · dsimp only at handled
    split at handled
    · cases handled
    · split at handled
      · cases handled
      · obtain ⟨text, formatted, handled⟩ := Except.bind_eq_ok_iff.1 handled
        obtain ⟨response, answered, handled⟩ := Except.bind_eq_ok_iff.1 handled
        refine ⟨text, response, formatted, answered, ?_⟩
        split at handled
        · obtain ⟨_, raised, _⟩ := Except.bind_eq_ok_iff.1 handled
          cases raised
        · rename_i final
          obtain ⟨⟨inserted, recorded⟩, stored, handled⟩ := Except.bind_eq_ok_iff.1 handled
          dsimp only at handled
          split at handled
          · obtain ⟨_, raised, _⟩ := Except.bind_eq_ok_iff.1 handled
            cases raised
          · unfold ClassificationResult.name
            rw [if_neg final]
            split at handled
            · rename_i relevant
              have there : recorded.processingJobs.get? job.id = some job := by
                rw [(recordStage_spec stored).1]
                exact held
              obtain ⟨leaves, -⟩ := route_spec there handled
              left
              rw [if_pos relevant, leaves job.id, if_pos rfl]
              exact ⟨rfl, rfl⟩
            · rename_i irrelevant
              cases handled
              right
              rw [if_neg irrelevant, leavesRow_complete job.id, if_pos rfl]
              exact ⟨rfl, rfl⟩

theorem stage1_explains {disposition : JobDisposition} (worker : iteration.worker = .stage1)
    (claims : iteration.Claims row)
    (held : db.processingJobs.get? iteration.job.id = some iteration.job)
    (handled : iteration.classified w db = .ok (disposition, u)) :
    match disposition with
    | .retain => iteration.Explains w u (u.processingJobs.get? iteration.job.id)
    | .complete => iteration.Says w .irrelevant := by
  obtain ⟨response, run, answered, result, -, -, sent⟩ :=
    stage1_spec (claims.processing worker) held (guarded_eq_ok handled)
  have told : iteration.Says w run.result :=
    ⟨_, response, answered, result.symm, Or.inl ⟨worker, rfl⟩⟩
  cases named : run.result with
  | relevant =>
      rw [named] at sent told
      obtain ⟨rfl, leaves⟩ := sent
      dsimp only
      rw [leaves iteration.job.id, if_pos rfl]
      exact fun _ => Or.inr told
  | contextRequired =>
      rw [named] at sent
      obtain ⟨rfl, leaves⟩ := sent
      dsimp only
      rw [leaves iteration.job.id, if_pos rfl]
      exact fun awaiting => by cases awaiting
  | irrelevant =>
      rw [named] at sent told
      obtain ⟨rfl, -⟩ := sent
      exact told

theorem persist_explains {operatorTelegramUserId : Int} {service : Option TranslationService}
    {chain : ReplyChain} {newId questionId : UUID} {now : Time}
    (handled : RelevantQuestionPersistenceService.persist operatorTelegramUserId service
      job chain newId now db = .ok (questionId, u)) :
    ∃ question ∈ u.detectedQuestions, question.message = job.message := by
  obtain ⟨-, -, -, ⟨existing, same⟩ | persists⟩ := persist_spec handled
  · obtain ⟨question, found⟩ := Option.isSome_iff_exists.1 existing
    refine ⟨question, ?_, ?_⟩
    · rw [same.questions]
      exact List.mem_of_find?_eq_some found
    · have named := List.find?_some found
      simp only [Bool.and_eq_true, decide_eq_true_eq] at named
      exact Prod.ext named.1 named.2
  · obtain ⟨question, notification, chat, message, -, inserted, -⟩ := persists.inserted
    exact ⟨question, (Table.mem_insert? inserted).2 (Or.inr rfl), Prod.ext chat message⟩

theorem handedOn_explains (downstream : iteration.worker ≠ .stage1)
    (held : db.processingJobs.get? iteration.job.id = some iteration.job)
    (handled : iteration.handedOn w db = .ok u) :
    iteration.Explains w u (u.processingJobs.get? iteration.job.id) := by
  cases handedOn_cases downstream handled with
  | chained worker ran =>
      obtain ⟨chain, stored, -, -, same, leaves, -⟩ := snapshot_spec ran
      rw [leaves iteration.job.id, if_pos rfl]
      rw [held] at same
      cases same
      exact Or.inl
  | judged worker chain read ran =>
      obtain ⟨text, response, formatted, answered, result⟩ := stage2_says held ran
      have told : iteration.Says w response.result.name :=
        ⟨text, response, answered, rfl, Or.inr ⟨worker, chain, formatted, read⟩⟩
      rcases result with ⟨relevant, left⟩ | ⟨irrelevant, gone⟩
      · rw [relevant] at told
        obtain ⟨row, there⟩ := Option.isSome_iff_exists.1 left
        rw [there]
        exact fun _ => Or.inr told
      · rw [irrelevant] at told
        rw [gone]
        exact Or.inl told
  | asked worker chain questionId status ran =>
      have asked := persist_explains ran
      cases left : u.processingJobs.get? iteration.job.id with
      | none => exact Or.inr asked
      | some row => exact fun _ => Or.inl status

/-- What an iteration that commits does with its job has a reason. -/
theorem run_explains (claims : iteration.Claims row)
    (held : db.processingJobs.get? iteration.jobId = some row)
    (ran : iteration.run w db = (error, .ok u)) :
    iteration.Explains w u (u.processingJobs.get? iteration.jobId) := by
  have stored : (db.processingJobs.get? iteration.job.id).isSome := by
    rw [held]
    rfl
  have flush : LeavesRow db (iteration.flushed db) iteration.job.id (some iteration.job) :=
    leavesRow_put stored
  have flushed : (iteration.flushed db).processingJobs.get? iteration.job.id =
      some iteration.job := by
    rw [flush iteration.job.id, if_pos rfl]
  obtain ⟨kept, leaves, outcome⟩ := run_outcome claims held ran
  unfold Iteration.run at ran
  dsimp only at ran
  split at ran
  · rename_i worker
    obtain ⟨reported, settled⟩ := Prod.mk.inj ran
    cases handled : iteration.classified w (iteration.flushed db) with
    | error raised =>
        rw [handled] at reported
        cases reported
        rw [leaves iteration.jobId, if_pos rfl]
        cases outcome with
        | retried =>
            unfold Iteration.retried
            rw [worker]
            exact fun awaiting => by cases awaiting
        | failed => exact fun awaiting => by cases awaiting
    | ok answer =>
        obtain ⟨disposition, v⟩ := answer
        rw [handled] at settled
        have explains := stage1_explains worker claims flushed handled
        cases disposition with
        | retain =>
            cases settled
            exact explains
        | complete =>
            cases settled
            have gone :
                LeavesRow v (JobRepository.complete iteration.jobId v) iteration.jobId none :=
              leavesRow_complete
            rw [gone iteration.jobId, if_pos rfl]
            exact Or.inl explains
  · rename_i downstream
    obtain ⟨reported, settled⟩ := Prod.mk.inj ran
    cases handled : iteration.handedOn w (iteration.flushed db) with
    | error raised =>
        rw [handled] at reported
        cases reported
        rw [leaves iteration.jobId, if_pos rfl]
        cases outcome with
        | retried =>
            unfold Iteration.retried
            dsimp only
            split
            · rename_i stage1
              exact absurd stage1 downstream
            · exact Or.inl
        | failed => exact fun awaiting => by cases awaiting
    | ok v =>
        rw [handled] at settled
        cases settled
        exact handedOn_explains downstream flushed handled

end Pipeline

end LeadAssistant
