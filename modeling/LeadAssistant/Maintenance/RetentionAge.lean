/-
Module: LeadAssistant.Maintenance.RetentionAge
Layer: Maintenance
Purpose: How old a row is when a cleanup deletes it. Two clocks decide: the configured durations,
  and the expiry that a row was given when it was inserted. A row is never deleted before its
  configured age exactly when no configured duration exceeds the one of the column default.
Trusted boundary: human-reviewed spec
Main exports: RetentionConfig, Defaults, KeepsYoung, cleanup_keeps_young_iff
-/
import LeadAssistant.Pipeline.Outcomes
import LeadAssistant.Repositories.Retention

namespace LeadAssistant.RetentionRepository

open Relational

/-- The settings of the maintenance worker: durations and a batch size, all of them positive. -/
structure RetentionConfig where
  temporaryTtl : Int
  relevantRetention : Int
  fingerprintTtl : Int
  batchSize : Nat
  temporaryTtl_pos : 0 < temporaryTtl
  relevantRetention_pos : 0 < relevantRetention
  fingerprintTtl_pos : 0 < fingerprintTtl
  batchSize_pos : 0 < batchSize

/-- What one cleanup leaves. -/
def RetentionConfig.cleanup (config : RetentionConfig) (locked : RowLocks) (now : Time)
    (db : Database) : Database :=
  (cleanupOnce locked config.temporaryTtl config.relevantRetention config.fingerprintTtl
    config.batchSize now db).2

/-- Every row has the expiry of its column default. -/
structure Defaults (db : Database) : Prop where
  jobs : ∀ job ∈ db.processingJobs, job.expiresAt = job.createdAt + hours 24
  questions : ∀ question ∈ db.detectedQuestions,
    question.expiresAt = question.detectedAt + days 60

/-- A question is kept with the rows that belong to it. -/
structure KeepsQuestion (before after : Database) (question : DetectedQuestion) : Prop where
  kept : question ∈ after.detectedQuestions
  chain : ∀ row ∈ before.questionChainMessages, row.questionId = question.id →
    row ∈ after.questionChainMessages
  notification : ∀ row ∈ before.botNotifications, row.questionId = question.id →
    row ∈ after.botNotifications
  drafts : ∀ row ∈ before.replyVersions, row.questionId = question.id → row ∈ after.replyVersions
  commands : ∀ row ∈ before.outboundCommands, row.questionId = question.id →
    row ∈ after.outboundCommands

/-- No row is gone that was not older than the configured duration of its kind. -/
structure KeepsYoung (config : RetentionConfig) (now : Time) (before after : Database) :
    Prop where
  jobs : ∀ job ∈ before.processingJobs, now - config.temporaryTtl ≤ job.createdAt →
    job ∈ after.processingJobs
  questions : ∀ question ∈ before.detectedQuestions,
    now - config.relevantRetention ≤ question.detectedAt → KeepsQuestion before after question
  runs : ∀ run ∈ before.classificationRuns, now - config.relevantRetention ≤ run.createdAt →
    run ∈ after.classificationRuns
  fingerprints : ∀ row ∈ before.recentMessageFingerprints,
    now - config.fingerprintTtl ≤ row.lastSeenAt → row ∈ after.recentMessageFingerprints

section Defaults

variable {db db' : Database}

/-- A queued message has the default expiry. -/
theorem Defaults.enqueue {job : NewJob} {newId jobId : UUID} {now : Time} (defaults : Defaults db)
    (enqueued : JobRepository.enqueue job newId now db = .ok (jobId, db')) : Defaults db' := by
  unfold JobRepository.enqueue at enqueued
  split at enqueued
  · cases enqueued
    exact defaults
  · dsimp only at enqueued
    split at enqueued
    · cases enqueued
    · split at enqueued
      · rename_i jobs inserted
        cases enqueued
        refine ⟨fun row held => ?_, defaults.questions⟩
        have held : row ∈ jobs := held
        rcases (Table.mem_insert? inserted).1 held with before | rfl
        · exact defaults.jobs row before
        · rfl
      · cases enqueued

/-- So does a question that is stored for a job. -/
theorem Defaults.insertDetectedQuestion {id : UUID} {job : ProcessingJob} {chain : ReplyChain}
    {classification : ClassificationRun} {translation : TranslationResult} {now : Time}
    (defaults : Defaults db)
    (asked : db.insertDetectedQuestion (RelevantQuestionPersistenceService.newQuestion id job chain
      classification translation now) = .ok db') : Defaults db' := by
  rcases Pipeline.insertDetectedQuestion_spec asked with ⟨questions, inserted, rfl⟩
  refine ⟨defaults.jobs, fun question held => ?_⟩
  have held : question ∈ questions := held
  rcases (Table.mem_insert? inserted).1 held with before | rfl
  · exact defaults.questions question before
  · rfl

end Defaults

section Ages

variable {config : RetentionConfig} {locked : RowLocks} {now : Time} {db : Database}

/-- A row past its expiry is past every duration up to the one of the expiry. -/
theorem old_of_expired {now created ttl limit : Int} (bounded : ttl ≤ limit)
    (expired : created + limit < now) : created < now - ttl := by omega

/-- One microsecond after its expiry, a row is not past a longer duration. -/
theorem young_at_expiry {ttl limit : Int} (longer : ¬ ttl ≤ limit) : limit + 1 - ttl ≤ 0 := by
  omega

theorem expiredJob_eq_false {job : ProcessingJob}
    (default : job.expiresAt = job.createdAt + hours 24) (bounded : config.temporaryTtl ≤ hours 24)
    (young : now - config.temporaryTtl ≤ job.createdAt) :
    expiredJob now config.temporaryTtl job = false := by
  have fresh : ¬ job.expiresAt < now := fun expired =>
    Int.not_lt.2 young (old_of_expired bounded (default ▸ expired))
  simp [expiredJob, fresh, young]

theorem expiredQuestion_eq_false {question : DetectedQuestion}
    (default : question.expiresAt = question.detectedAt + days 60)
    (bounded : config.relevantRetention ≤ days 60)
    (young : now - config.relevantRetention ≤ question.detectedAt) :
    expiredQuestion now config.relevantRetention question = false := by
  have fresh : ¬ question.expiresAt < now := fun expired =>
    Int.not_lt.2 young (old_of_expired bounded (default ▸ expired))
  simp [expiredQuestion, fresh, young]

/-- A question outside the batch is kept with its rows. -/
theorem keepsQuestion_deleteQuestions {questionIds : List UUID} {question : DetectedQuestion}
    (held : question ∈ db.detectedQuestions) (spared : question.id ∉ questionIds) :
    KeepsQuestion db (deleteQuestions questionIds db) question where
  kept := Table.mem_deleteWhere.2 ⟨held, decide_eq_false spared⟩
  chain _ row own := Table.mem_deleteWhere.2 ⟨row, decide_eq_false (own ▸ spared)⟩
  notification _ row own := Table.mem_deleteWhere.2 ⟨row, decide_eq_false (own ▸ spared)⟩
  drafts _ row own := Table.mem_deleteWhere.2 ⟨row, decide_eq_false (own ▸ spared)⟩
  commands _ row own := Table.mem_deleteWhere.2 ⟨row, decide_eq_false (own ▸ spared)⟩

theorem keepsYoung_of_bounded (defaults : Defaults db)
    (job_bound : config.temporaryTtl ≤ hours 24)
    (question_bound : config.relevantRetention ≤ days 60) :
    KeepsYoung config now db (config.cleanup locked now db) where
  jobs job held young := by
    refine Table.mem_deleteBatch.2 ⟨held, fun chosen => ?_⟩
    have fresh := expiredJob_eq_false (defaults.jobs job held) job_bound young
    have expired := (Bool.and_eq_true_iff.1 (Table.mem_of_batch chosen).2).1
    exact Bool.false_ne_true (fresh.symm.trans expired)
  questions question held young := by
    have spared : question.id ∉ (db.detectedQuestions.batch
        (fun question => expiredQuestion now config.relevantRetention question &&
          !locked.question question.id) (fun question => question.expiresAt)
        config.batchSize).map (fun question => question.id) := by
      intro chosen
      rcases List.mem_map.1 chosen with ⟨other, picked, same⟩
      have expired := Table.mem_of_batch picked
      rw [Table.eq_of_key_eq expired.1 held same] at expired
      have fresh := expiredQuestion_eq_false (defaults.questions question held) question_bound young
      exact Bool.false_ne_true (fresh.symm.trans (Bool.and_eq_true_iff.1 expired.2).1)
    have kept := keepsQuestion_deleteQuestions held spared
    exact ⟨kept.kept, kept.chain, kept.notification, kept.drafts, kept.commands⟩
  runs run held young := by
    refine Table.mem_deleteBatch.2 ⟨held, fun chosen => ?_⟩
    have expired := (Bool.and_eq_true_iff.1 (Table.mem_of_batch chosen).2).1
    exact Int.not_lt.2 young (of_decide_eq_true expired)
  fingerprints row held young := by
    refine Table.mem_deleteBatch.2 ⟨held, fun chosen => ?_⟩
    have expired := (Bool.and_eq_true_iff.1 (Table.mem_of_batch chosen).2).1
    exact Int.not_lt.2 young (of_decide_eq_true expired)

end Ages

section Early

/-- A message that is queued at the start of the epoch. -/
def sampleJob : ProcessingJob :=
  JobRepository.newRow ⟨1, -100, 10, "How do I build it?", 0, none, none, none⟩ 5 0

def sampleJobs : Database where
  processingJobs := ⟨[sampleJob], List.nodup_singleton _⟩

/-- A question that is detected at the same time. -/
def oldQuestion : DetectedQuestion where
  id := 7
  monitoredChatId := some 1
  telegramChatId := -100
  telegramMessageId := 40
  topicId := none
  topicTitle := none
  authorTelegramId := none
  authorDisplayName := none
  telegramCreatedAt := 0
  originalText := "How do we deploy?"
  translatedText := none
  sourceLanguage := none
  category := .technical
  confidence := 1
  status := .detected
  detectedAt := 0
  expiresAt := days 60

def sampleQuestions : Database where
  detectedQuestions := ⟨[oldQuestion], List.nodup_singleton _⟩

variable {config : RetentionConfig}

theorem sampleJobs_defaults : Defaults sampleJobs where
  jobs job held := by
    rw [List.mem_singleton.1 held]
    rfl
  questions question held := absurd held (Table.not_mem_empty question)

theorem sampleQuestions_defaults : Defaults sampleQuestions where
  jobs job held := absurd held (Table.not_mem_empty job)
  questions question held := by
    rw [List.mem_singleton.1 held]
    rfl

/-- A limit of at least one takes the only row of a table. -/
theorem only_row_in_batch {ρ κ : Type} {key : ρ → κ} {row : ρ} {nodup : ([row].map key).Nodup}
    {p : ρ → Bool} {order : ρ → Time} (chosen : p row = true) :
    row ∈ (Table.mk [row] nodup).batch p order config.batchSize := by
  have fits : ([row].filter p).length ≤ config.batchSize :=
    (List.length_filter_le p [row]).trans config.batchSize_pos
  exact (Table.mem_batch_of_length_le fits).2 ⟨List.mem_singleton_self row, chosen⟩

/-- A longer time to live than the default is not respected. -/
theorem job_bound_of_keepsYoung
    (kept : KeepsYoung config (hours 24 + 1) sampleJobs
      (config.cleanup {} (hours 24 + 1) sampleJobs)) : config.temporaryTtl ≤ hours 24 := by
  by_contra longer
  have left := kept.jobs sampleJob (List.mem_singleton_self _) (young_at_expiry longer)
  refine (Table.mem_deleteBatch.1 left).2 (only_row_in_batch ?_)
  exact Bool.and_eq_true_iff.2 ⟨Bool.or_eq_true_iff.2 (Or.inl (by decide)), rfl⟩

/-- Nor is a longer retention. -/
theorem question_bound_of_keepsYoung
    (kept : KeepsYoung config (days 60 + 1) sampleQuestions
      (config.cleanup {} (days 60 + 1) sampleQuestions)) : config.relevantRetention ≤ days 60 := by
  by_contra longer
  have left := kept.questions oldQuestion (List.mem_singleton_self _) (young_at_expiry longer)
  have spared := of_decide_eq_false (Table.mem_deleteWhere.1 left.kept).2
  refine spared (List.mem_map_of_mem (only_row_in_batch ?_))
  exact Bool.and_eq_true_iff.2 ⟨Bool.or_eq_true_iff.2 (Or.inl (by decide)), rfl⟩

end Early

/-- A configuration never deletes a row before its configured age, whatever is stored and locked and
whenever it runs, exactly when it asks for no more than the expiry that a new row is given. -/
theorem cleanup_keeps_young_iff {config : RetentionConfig} :
    (∀ locked db now, Defaults db → KeepsYoung config now db (config.cleanup locked now db)) ↔
      config.temporaryTtl ≤ hours 24 ∧ config.relevantRetention ≤ days 60 := by
  constructor
  · intro always
    exact ⟨job_bound_of_keepsYoung (always {} sampleJobs _ sampleJobs_defaults),
      question_bound_of_keepsYoung (always {} sampleQuestions _ sampleQuestions_defaults)⟩
  · rintro ⟨job_bound, question_bound⟩ locked db now defaults
    exact keepsYoung_of_bounded defaults job_bound question_bound

/-- A retention of 90 days. -/
def longRetention : RetentionConfig where
  temporaryTtl := hours 24
  relevantRetention := days 90
  fingerprintTtl := days 7
  batchSize := 500
  temporaryTtl_pos := by decide
  relevantRetention_pos := by decide
  fingerprintTtl_pos := by decide
  batchSize_pos := by decide

/-- A question of 60 days is deleted under a retention of 90 days. -/
theorem question_deleted_early : Defaults sampleQuestions ∧
    days 60 + 1 - longRetention.relevantRetention < oldQuestion.detectedAt ∧
    ¬ KeepsYoung longRetention (days 60 + 1) sampleQuestions
      (longRetention.cleanup {} (days 60 + 1) sampleQuestions) :=
  ⟨sampleQuestions_defaults, by decide, fun kept =>
    absurd (question_bound_of_keepsYoung kept) (by decide)⟩

end LeadAssistant.RetentionRepository
