/-
Module: LeadAssistant.Pipeline.Lifecycle
Layer: Pipeline
Purpose: The lifecycle of an admitted message: it is in exactly one of six situations in every
  committed state, whatever iterations have succeeded, failed or crashed, so no message disappears
  without a final decision and none is decided twice.
Trusted boundary: none
Main exports: Situation, Situation.Holds, EnqueuedOnce, Lifecycle, nothing_lost_or_doubled
-/
import LeadAssistant.Pipeline.Bounded

namespace LeadAssistant

def ProcessingJob.message (job : ProcessingJob) : Int × Int :=
  (job.telegramChatId, job.telegramMessageId)

def ClassificationRun.message (run : ClassificationRun) : Int × Int :=
  (run.telegramChatId, run.telegramMessageId)

def DetectedQuestion.message (question : DetectedQuestion) : Int × Int :=
  (question.telegramChatId, question.telegramMessageId)

end LeadAssistant

namespace LeadAssistant.Pipeline

open Relational Transition

/-- The committed situations of an admitted message. -/
inductive Situation where
  | queued | contextRequested | relevantFound | failed | rejected | persisted
deriving Repr, DecidableEq

section Views

variable (db : Database) (m : Int × Int)

def IsJob (job : ProcessingJob) : Prop :=
  db.processingJobs.IsOnly (fun row => row.message = m) job

def NoJob : Prop :=
  db.processingJobs.Lacks (fun row => row.message = m)

def NoRun : Prop :=
  db.classificationRuns.Lacks (fun run => run.message = m)

def NoQuestion : Prop :=
  db.detectedQuestions.Lacks (fun question => question.message = m)

/-- The run of the last stage of a message. -/
def LastRun (run : ClassificationRun) : Prop :=
  run ∈ db.classificationRuns ∧ run.message = m ∧
    ∀ other ∈ db.classificationRuns, other.message = m → other.stage ≤ run.stage

def Situation.Holds : Situation → Prop
  | .queued => ∃ job, IsJob db m job ∧
      (job.status = .pending ∨ job.status = .retry ∨ job.status = .processing) ∧
      job.replyChainSnapshot = none ∧ NoRun db m
  | .contextRequested => ∃ job run, IsJob db m job ∧ job.status = .awaitingReplyContext ∧
      db.classificationRuns.IsOnly (fun other => other.message = m) run ∧
      run.stage = 1 ∧ run.result = .contextRequired
  | .relevantFound => ∃ job run, IsJob db m job ∧ job.status = .awaitingRelevantProcessing ∧
      LastRun db m run ∧ run.result = .relevant ∧ NoQuestion db m
  | .failed => ∃ job, IsJob db m job ∧ job.status = .failed ∧ NoQuestion db m
  | .rejected => ∃ run, NoJob db m ∧ LastRun db m run ∧ run.result = .irrelevant ∧
      NoQuestion db m
  | .persisted => ∃ run question notification, NoJob db m ∧ LastRun db m run ∧
      run.result = .relevant ∧
      db.detectedQuestions.IsOnly (fun other => other.message = m) question ∧
      db.botNotifications.IsOnly (fun other => other.questionId = question.id) notification

/-- What the status of a job says about the runs of its message. -/
def Fits (job : ProcessingJob) : Prop :=
  match job.status with
  | .pending | .retry | .processing => job.replyChainSnapshot = none ∧ NoRun db m
  | .awaitingReplyContext => ∃ run,
      db.classificationRuns.IsOnly (fun other => other.message = m) run ∧
      run.stage = 1 ∧ run.result = .contextRequired
  | .awaitingRelevantProcessing => ∃ run, LastRun db m run ∧ run.result = .relevant
  | .failed => True

end Views

section Situations

variable {db u : Database} {m : Int × Int} {job row : ProcessingJob}
  {run other : ClassificationRun} {a b : Situation}

theorem IsJob.eq (first : IsJob db m job) (second : IsJob db m row) : job = row :=
  second.2.2 job first.1 first.2.1

/-- The last run is unique, as a message has one run of each stage. -/
theorem LastRun.eq (first : LastRun db m run) (second : LastRun db m other) : run = other := by
  have same_stage : run.stage = other.stage :=
    le_antisymm (second.2.2 run first.1 first.2.1) (first.2.2 other second.1 second.2.1)
  have same_message : run.message = other.message := first.2.1.trans second.2.1.symm
  apply Table.eq_of_key_eq first.1 second.1
  unfold ClassificationRun.message at same_message
  simp only [Prod.mk.injEq] at same_message
  unfold ClassificationRun.key
  rw [same_message.1, same_message.2, same_stage]

theorem lastRun_of_isOnly
    (only : db.classificationRuns.IsOnly (fun other => other.message = m) run) :
    LastRun db m run := by
  refine ⟨only.1, only.2.1, ?_⟩
  intro other held same
  rw [only.2.2 other held same]

/-- The situation that the status of a job stands for. -/
def situationOf : ProcessingJobStatus → Situation
  | .pending | .retry | .processing => .queued
  | .awaitingReplyContext => .contextRequested
  | .awaitingRelevantProcessing => .relevantFound
  | .failed => .failed

/-- A job of the message shows its situation. -/
theorem Situation.Holds.eq_situationOf (holds : a.Holds db m) (is_job : IsJob db m job) :
    a = situationOf job.status := by
  cases a with
  | queued =>
      rcases holds with ⟨row, is_row, status, _⟩
      rw [is_job.eq is_row]
      rcases status with status | status | status <;> rw [status] <;> rfl
  | contextRequested =>
      rcases holds with ⟨row, run, is_row, status, _⟩
      rw [is_job.eq is_row, status]
      rfl
  | relevantFound =>
      rcases holds with ⟨row, run, is_row, status, _⟩
      rw [is_job.eq is_row, status]
      rfl
  | failed =>
      rcases holds with ⟨row, is_row, status, _⟩
      rw [is_job.eq is_row, status]
      rfl
  | rejected =>
      rcases holds with ⟨run, none_there, _⟩
      exact absurd none_there is_job.not_lacks
  | persisted =>
      rcases holds with ⟨run, question, notification, none_there, _⟩
      exact absurd none_there is_job.not_lacks

/-- A situation has a job, or it has a decision and no job. -/
theorem Situation.Holds.job_or_decided (holds : a.Holds db m) :
    (∃ job, IsJob db m job) ∨ NoJob db m ∧ ∃ run, LastRun db m run ∧
      (a = .rejected ∧ run.result = .irrelevant ∨ a = .persisted ∧ run.result = .relevant) := by
  cases a with
  | queued => exact Or.inl (holds.imp (fun _ holds => holds.1))
  | contextRequested =>
      rcases holds with ⟨job, run, is_job, _⟩
      exact Or.inl ⟨job, is_job⟩
  | relevantFound =>
      rcases holds with ⟨job, run, is_job, _⟩
      exact Or.inl ⟨job, is_job⟩
  | failed => exact Or.inl (holds.imp (fun _ holds => holds.1))
  | rejected =>
      rcases holds with ⟨run, none_there, last, result, _⟩
      exact Or.inr ⟨none_there, run, last, Or.inl ⟨rfl, result⟩⟩
  | persisted =>
      rcases holds with ⟨run, question, notification, none_there, last, result, _⟩
      exact Or.inr ⟨none_there, run, last, Or.inr ⟨rfl, result⟩⟩

/-- Two situations do not hold at once. -/
theorem Situation.Holds.unique (first : a.Holds db m) (second : b.Holds db m) : a = b := by
  rcases first.job_or_decided with ⟨job, is_job⟩ | ⟨none_there, run, last, decided⟩
  · exact (first.eq_situationOf is_job).trans (second.eq_situationOf is_job).symm
  · rcases second.job_or_decided with ⟨job, is_job⟩ | ⟨_, run', last', decided'⟩
    · exact absurd none_there is_job.not_lacks
    · rw [last.eq last'] at decided
      rcases decided with ⟨rfl, irrelevant⟩ | ⟨rfl, relevant⟩
      · rcases decided' with ⟨rfl, _⟩ | ⟨_, relevant⟩
        · rfl
        · exact absurd (irrelevant.symm.trans relevant) (by decide)
      · rcases decided' with ⟨_, irrelevant⟩ | ⟨rfl, _⟩
        · exact absurd (irrelevant.symm.trans relevant) (by decide)
        · rfl

/-- A job fits the situation of its message. -/
theorem Situation.Holds.fits (holds : a.Holds db m) (held : job ∈ db.processingJobs)
    (own : job.message = m) : IsJob db m job ∧ Fits db m job := by
  rcases holds.job_or_decided with ⟨row, is_row⟩ | ⟨none_there, _⟩
  · cases is_row.2.2 job held own
    refine ⟨is_row, ?_⟩
    unfold Fits
    cases a with
    | queued =>
        rcases holds with ⟨row, is_row', status, snapshot, no_run⟩
        cases is_row.eq is_row'
        rcases status with status | status | status <;> rw [status] <;> exact ⟨snapshot, no_run⟩
    | contextRequested =>
        rcases holds with ⟨row, run, is_row', status, only, stage, result⟩
        cases is_row.eq is_row'
        rw [status]
        exact ⟨run, only, stage, result⟩
    | relevantFound =>
        rcases holds with ⟨row, run, is_row', status, last, result, _⟩
        cases is_row.eq is_row'
        rw [status]
        exact ⟨run, last, result⟩
    | failed =>
        rcases holds with ⟨row, is_row', status, _⟩
        cases is_row.eq is_row'
        rw [status]
        trivial
    | rejected =>
        rcases holds with ⟨_, none_there, _⟩
        exact absurd none_there is_row.not_lacks
    | persisted =>
        rcases holds with ⟨_, _, _, none_there, _⟩
        exact absurd none_there is_row.not_lacks
  · exact absurd own (none_there job held)

/-- A job that fits gives its message a situation. -/
theorem Fits.holds (fits : Fits db m job) (is_job : IsJob db m job) (no_question : NoQuestion db m) :
    ∃ situation : Situation, situation.Holds db m := by
  unfold Fits at fits
  cases status : job.status with
  | pending =>
      rw [status] at fits
      exact ⟨.queued, job, is_job, Or.inl status, fits⟩
  | retry =>
      rw [status] at fits
      exact ⟨.queued, job, is_job, Or.inr (Or.inl status), fits⟩
  | processing =>
      rw [status] at fits
      exact ⟨.queued, job, is_job, Or.inr (Or.inr status), fits⟩
  | awaitingReplyContext =>
      rw [status] at fits
      rcases fits with ⟨run, only, stage, result⟩
      exact ⟨.contextRequested, job, run, is_job, status, only, stage, result⟩
  | awaitingRelevantProcessing =>
      rw [status] at fits
      rcases fits with ⟨run, last, result⟩
      exact ⟨.relevantFound, job, run, is_job, status, last, result, no_question⟩
  | failed => exact ⟨.failed, job, is_job, status, no_question⟩

/-- What a message has, in two states. -/
structure SameView (db u : Database) (m : Int × Int) : Prop where
  jobs : ∀ job : ProcessingJob, job.message = m →
    (job ∈ u.processingJobs ↔ job ∈ db.processingJobs)
  runs : ∀ run : ClassificationRun, run.message = m →
    (run ∈ u.classificationRuns ↔ run ∈ db.classificationRuns)
  questions : ∀ question : DetectedQuestion, question.message = m →
    (question ∈ u.detectedQuestions ↔ question ∈ db.detectedQuestions)
  notifications : ∀ notification ∈ db.botNotifications, notification ∈ u.botNotifications

theorem LastRun.congr (last : LastRun db m run) (view : SameView db u m) : LastRun u m run :=
  ⟨(view.runs run last.2.1).2 last.1, last.2.1,
    fun other held own => last.2.2 other ((view.runs other own).1 held) own⟩

theorem Situation.Holds.congr (holds : a.Holds db m) (view : SameView db u m) : a.Holds u m := by
  cases a with
  | queued =>
      rcases holds with ⟨job, is_job, status, snapshot, no_run⟩
      exact ⟨job, is_job.congr view.jobs, status, snapshot, no_run.congr view.runs⟩
  | contextRequested =>
      rcases holds with ⟨job, run, is_job, status, only, stage, result⟩
      exact ⟨job, run, is_job.congr view.jobs, status, only.congr view.runs, stage, result⟩
  | relevantFound =>
      rcases holds with ⟨job, run, is_job, status, last, result, no_question⟩
      exact ⟨job, run, is_job.congr view.jobs, status, last.congr view, result,
        no_question.congr view.questions⟩
  | failed =>
      rcases holds with ⟨job, is_job, status, no_question⟩
      exact ⟨job, is_job.congr view.jobs, status, no_question.congr view.questions⟩
  | rejected =>
      rcases holds with ⟨run, no_job, last, result, no_question⟩
      exact ⟨run, no_job.congr view.jobs, last.congr view, result,
        no_question.congr view.questions⟩
  | persisted =>
      rcases holds with ⟨run, question, notification, no_job, last, result, asked, told⟩
      refine ⟨run, question, notification, no_job.congr view.jobs, last.congr view, result,
        asked.congr view.questions, ?_⟩
      have only := Table.isOnly_key (view.notifications notification told.1)
      rw [told.2.1] at only
      exact only

end Situations

section Iterations

variable {iteration : Iteration} {row left : ProcessingJob} {db u : Database}
  {error : Option HandlerError} {run : ClassificationRun} {after : Option ProcessingJob}
  {m : Int × Int}

theorem Iteration.Claims.message_eq (claims : iteration.Claims row) :
    iteration.job.message = row.message := by
  rcases claims with ⟨_, workerId, claimed⟩
  split at claimed
  · rw [claimed.2]
    rfl
  · rw [claimed.2.2]
    rfl
  · rw [claimed.2.2]
    rfl

theorem Iteration.Claims.pending (claims : iteration.Claims row)
    (worker : iteration.worker = .stage1) : row.status = .pending ∨ row.status = .retry := by
  rcases claims with ⟨_, workerId, claimed⟩
  rw [worker] at claimed
  exact claimed.1

/-- A job stays the job of its message. -/
theorem Outcome.message_eq (outcome : Outcome iteration db u error (some left)) :
    left.message = iteration.job.message := by
  cases outcome with
  | retried raised delay retryable due same =>
      unfold Iteration.retried
      dsimp only
      split <;> rfl
  | _ => rfl

/-- A question comes with the end of its job. -/
theorem Outcome.questions_eq (outcome : Outcome iteration db u error (some left)) :
    u.detectedQuestions = db.detectedQuestions := by
  cases outcome with
  | retried raised delay retryable due same => exact same.questions
  | failed raised errorCode spent same => exact same.questions
  | routed run status worker message sent records => exact records.questions
  | loaded snapshot worker same => exact same.questions
  | chosen run worker awaiting message relevant records accepted => exact records.questions

/-- What an iteration can change in the records: it adds a run or a question of one message. -/
structure Touches (db u : Database) (m : Int × Int) : Prop where
  runs : ∀ run ∈ u.classificationRuns, run ∈ db.classificationRuns ∨
    run.message = m ∧ (run.stage = 1 ∨ run.stage = 2)
  runsKept : ∀ run ∈ db.classificationRuns, run ∈ u.classificationRuns
  questions : ∀ question ∈ u.detectedQuestions, question ∈ db.detectedQuestions ∨
    question.message = m
  questionsKept : ∀ question ∈ db.detectedQuestions, question ∈ u.detectedQuestions
  notificationsKept : ∀ notification ∈ db.botNotifications, notification ∈ u.botNotifications

theorem SameRecords.touches (same : SameRecords db u) : Touches db u m := by
  rcases same with ⟨runs, questions, notifications⟩
  constructor
  · rw [runs]
    exact fun _ held => Or.inl held
  · rw [runs]
    exact fun _ held => held
  · rw [questions]
    exact fun _ held => Or.inl held
  · rw [questions]
    exact fun _ held => held
  · rw [notifications]
    exact fun _ held => held

theorem Records.touches (records : Records db u run) (own : run.message = m)
    (stage : run.stage = 1 ∨ run.stage = 2) : Touches db u m := by
  rcases records with ⟨runs, questions, notifications⟩
  have frame : Touches db { db with classificationRuns := u.classificationRuns } m := by
    rcases runs with inserted | ⟨_, same⟩
    · refine ⟨?_, fun _ held => (Table.mem_insert? inserted).2 (Or.inl held),
        fun _ held => Or.inl held, fun _ held => held, fun _ held => held⟩
      intro other held
      rcases (Table.mem_insert? inserted).1 held with before | rfl
      · exact Or.inl before
      · exact Or.inr ⟨own, stage⟩
    · rw [same]
      exact SameRecords.touches ⟨rfl, rfl, rfl⟩
  constructor
  · exact frame.runs
  · exact frame.runsKept
  · rw [questions]
    exact frame.questions
  · rw [questions]
    exact frame.questionsKept
  · rw [notifications]
    exact frame.notificationsKept

theorem Persists.touches {job : ProcessingJob} (persists : Persists db u job) :
    Touches db u job.message := by
  rcases persists.inserted with ⟨question, notification, chat, message, _, asked, told⟩
  have own : question.message = job.message := by
    unfold DetectedQuestion.message ProcessingJob.message
    rw [chat, message]
  constructor
  · rw [persists.runs]
    exact fun _ held => Or.inl held
  · rw [persists.runs]
    exact fun _ held => held
  · intro other held
    rcases (Table.mem_insert? asked).1 held with before | rfl
    · exact Or.inl before
    · exact Or.inr own
  · exact fun _ held => (Table.mem_insert? asked).2 (Or.inl held)
  · exact fun _ held => (Table.mem_insert? told).2 (Or.inl held)

/-- The message of a run and its stage, by its key. -/
theorem message_of_key {job : ProcessingJob} {stage : Nat}
    (key : run.key = (job.telegramChatId, job.telegramMessageId, stage)) :
    run.message = job.message ∧ run.stage = stage := by
  unfold ClassificationRun.key at key
  simp only [Prod.mk.injEq] at key
  unfold ClassificationRun.message ProcessingJob.message
  rw [key.1, key.2.1]
  exact ⟨rfl, key.2.2⟩

theorem Outcome.touches (outcome : Outcome iteration db u error after) :
    Touches db u iteration.job.message := by
  cases outcome with
  | retried raised delay retryable due same => exact same.touches
  | failed raised errorCode spent same => exact same.touches
  | routed run status worker message sent records =>
      exact records.touches (message_of_key message).1 (Or.inl (message_of_key message).2)
  | dropped run worker message sent records =>
      exact records.touches (message_of_key message).1 (Or.inl (message_of_key message).2)
  | loaded snapshot worker same => exact same.touches
  | chosen run worker awaiting message relevant records accepted =>
      exact records.touches (message_of_key message).1 (Or.inr (message_of_key message).2)
  | declined run worker awaiting message irrelevant records accepted =>
      exact records.touches (message_of_key message).1 (Or.inr (message_of_key message).2)
  | duplicate worker awaiting existing same => exact same.touches
  | persisted worker awaiting persists => exact persists.touches

/-- An iteration leaves every other message alone. -/
theorem Outcome.sameView (outcome : Outcome iteration db u error after)
    (claims : iteration.Claims row)
    (found : db.processingJobs.get? iteration.jobId = some row)
    (leaves : LeavesRow db u iteration.jobId after) (ne : m ≠ iteration.job.message) :
    SameView db u m := by
  have touches := outcome.touches
  constructor
  · intro job own
    have other : job.id ≠ iteration.jobId → (u.processingJobs.get? job.id = some job ↔
        db.processingJobs.get? job.id = some job) := by
      intro apart
      rw [leaves.get?_of_ne apart]
    constructor
    · intro held
      rcases leaves.mem held with ⟨rfl, _⟩ | ⟨before, _⟩
      · exact absurd (own.symm.trans outcome.message_eq) ne
      · exact before
    · intro held
      apply Table.mem_of_get?
      apply (other _).2 (Table.get?_of_mem held)
      intro same
      have is_row : job = row := by
        have there := Table.get?_of_mem held
        rw [same, found] at there
        exact (Option.some.inj there).symm
      rw [is_row, ← claims.message_eq] at own
      exact ne own.symm
  · intro run own
    constructor
    · intro held
      rcases touches.runs run held with before | ⟨changed, _⟩
      · exact before
      · exact absurd (own.symm.trans changed) ne
    · exact touches.runsKept run
  · intro question own
    constructor
    · intro held
      rcases touches.questions question held with before | changed
      · exact before
      · exact absurd (own.symm.trans changed) ne
    · exact touches.questionsKept question
  · exact touches.notificationsKept

/-- A downstream job fits while its status and the runs stay. -/
theorem Fits.downstream {next : ProcessingJob} (fits : Fits db m row) (same : SameRecords db u)
    (kept : next.status = row.status)
    (downstream : DownstreamJobRepository.isDownstream next.status = true) : Fits u m next := by
  unfold Fits LastRun at fits ⊢
  rw [same.runs]
  cases status : next.status with
  | awaitingReplyContext =>
      rw [← kept, status] at fits
      exact fits
  | awaitingRelevantProcessing =>
      rw [← kept, status] at fits
      exact fits
  | _ =>
      rw [status] at downstream
      exact absurd downstream (by decide)

/-- A job that waits for stage 1 has no run yet. -/
theorem Fits.queued (fits : Fits db m row)
    (status : row.status = .pending ∨ row.status = .retry) :
    row.replyChainSnapshot = none ∧ NoRun db m := by
  unfold Fits at fits
  rcases status with status | status
  · rw [status] at fits
    exact fits
  · rw [status] at fits
    exact fits

theorem Fits.requested (fits : Fits db m row) (status : row.status = .awaitingReplyContext) :
    ∃ run, db.classificationRuns.IsOnly (fun other => other.message = m) run ∧
      run.stage = 1 ∧ run.result = .contextRequired := by
  unfold Fits at fits
  rw [status] at fits
  exact fits

theorem Fits.found (fits : Fits db m row) (status : row.status = .awaitingRelevantProcessing) :
    ∃ run, LastRun db m run ∧ run.result = .relevant := by
  unfold Fits at fits
  rw [status] at fits
  exact fits

/-- The first run of a message is recorded. -/
theorem Records.first (records : Records db u run) (none_yet : NoRun db m)
    (own : run.message = m) :
    u.classificationRuns.IsOnly (fun other => other.message = m) run := by
  rcases records.runs with inserted | ⟨taken, _⟩
  · exact none_yet.insert? inserted own
  · rcases Option.isSome_iff_exists.1 taken with ⟨other, found⟩
    have same_key := Table.key_of_get? found
    unfold ClassificationRun.key at same_key
    simp only [Prod.mk.injEq] at same_key
    have same : other.message = run.message := Prod.ext same_key.1 same_key.2.1
    exact absurd (same.trans own) (none_yet other (Table.mem_of_get? found))

/-- The run of stage 2 comes after the run of stage 1. -/
theorem lastRun_of_second {first : ClassificationRun}
    (only : db.classificationRuns.IsOnly (fun other => other.message = m) first)
    (stage1 : first.stage = 1)
    (accepted : db.classificationRuns.insert? run = some u.classificationRuns)
    (own : run.message = m) (stage2 : run.stage = 2) : LastRun u m run := by
  refine ⟨(Table.mem_insert? accepted).2 (Or.inr rfl), own, ?_⟩
  intro other held same
  rcases (Table.mem_insert? accepted).1 held with before | rfl
  · rw [only.2.2 other before same, stage1, stage2]
    exact Nat.le_succ 1
  · exact le_rfl

/-- The row that an iteration leaves fits the runs that it leaves. -/
theorem Outcome.fits (outcome : Outcome iteration db u error (some left))
    (claims : iteration.Claims row) (fits : Fits db iteration.job.message row) :
    Fits u iteration.job.message left := by
  cases outcome with
  | retried raised delay retryable due same =>
      rcases claims.retried with ⟨_, _, snapshot, _, _⟩
      cases worker : iteration.worker with
      | stage1 =>
          have queued := fits.queued (claims.pending worker)
          have is_retry : (iteration.retried raised delay).status = .retry := by
            unfold Iteration.retried
            rw [worker]
            rfl
          unfold Fits NoRun
          rw [is_retry, same.runs]
          exact ⟨snapshot.trans queued.1, queued.2⟩
      | _ =>
          have apart : iteration.worker ≠ .stage1 := by simp [worker]
          have kept : (iteration.retried raised delay).status = iteration.job.status := by
            unfold Iteration.retried
            rw [worker]
            rfl
          apply fits.downstream same (kept.trans (claims.status_eq apart))
          rw [kept]
          exact claims.downstream apart
  | failed raised errorCode spent same => exact trivial
  | routed run status worker message sent records =>
      have queued := fits.queued (claims.pending worker)
      rcases message_of_key message with ⟨own, stage⟩
      have only := records.first queued.2 own
      unfold routeOf at sent
      split at sent
      · rename_i result
        cases sent
        exact ⟨run, only, stage, result⟩
      · rename_i result
        cases sent
        exact ⟨run, lastRun_of_isOnly only, result⟩
      · cases sent
  | loaded snapshot worker same =>
      have apart : iteration.worker ≠ .stage1 := by simp [worker]
      apply fits.downstream same _ _
      · exact claims.status_eq apart
      · exact claims.downstream apart
  | chosen run worker awaiting message relevant records accepted =>
      rcases message_of_key message with ⟨own, stage⟩
      have kept := claims.status_eq (by simp [worker])
      rcases fits.requested (kept.symm.trans awaiting) with ⟨first, only, stage1, _⟩
      exact ⟨run, lastRun_of_second only stage1 accepted own stage, relevant⟩

/-- Without a row the message is decided. -/
theorem Outcome.decided (outcome : Outcome iteration db u error none)
    (claims : iteration.Claims row) (fits : Fits db iteration.job.message row)
    (no_question : NoQuestion db iteration.job.message) (no_job : NoJob u iteration.job.message) :
    ∃ situation : Situation, situation.Holds u iteration.job.message := by
  cases outcome with
  | dropped run worker message sent records =>
      have queued := fits.queued (claims.pending worker)
      have only := records.first queued.2 (message_of_key message).1
      have irrelevant : run.result = .irrelevant := by
        unfold routeOf at sent
        split at sent
        · cases sent
        · cases sent
        · rename_i result
          exact result
      refine ⟨.rejected, run, no_job, lastRun_of_isOnly only, irrelevant, ?_⟩
      unfold NoQuestion
      rw [records.questions]
      exact no_question
  | declined run worker awaiting message irrelevant records accepted =>
      rcases message_of_key message with ⟨own, stage⟩
      have kept := claims.status_eq (by simp [worker])
      rcases fits.requested (kept.symm.trans awaiting) with ⟨first, only, stage1, _⟩
      refine ⟨.rejected, run, no_job, lastRun_of_second only stage1 accepted own stage,
        irrelevant, ?_⟩
      unfold NoQuestion
      rw [records.questions]
      exact no_question
  | duplicate worker awaiting existing same =>
      rcases Option.isSome_iff_exists.1 existing with ⟨question, found⟩
      have held : question ∈ db.detectedQuestions := List.mem_of_find?_eq_some found
      have own := List.find?_some found
      simp only [Bool.and_eq_true, decide_eq_true_eq] at own
      exact absurd (Prod.ext own.1 own.2) (no_question question held)
  | persisted worker awaiting persists =>
      have kept := claims.status_eq (by simp [worker])
      rcases fits.found (kept.symm.trans awaiting) with ⟨run, last, relevant⟩
      rcases persists.inserted with ⟨question, notification, chat, message, told, asked, notified⟩
      have own : question.message = iteration.job.message := Prod.ext chat message
      refine ⟨.persisted, run, question, notification, no_job, ?_, relevant,
        no_question.insert? asked own, ?_⟩
      · unfold LastRun
        rw [persists.runs]
        exact last
      · have only := Table.isOnly_key ((Table.mem_insert? notified).2 (Or.inr rfl))
        rw [told] at only
        exact only

end Iterations

/-- A message is enqueued again only while its job is there. -/
def EnqueuedOnce (s : State) (e : Event) : Prop :=
  match e with
  | .enqueue job _ _ => (job.telegramChatId, job.telegramMessageId) ∉ s.admitted ∨
      (s.db.jobFor? job.telegramChatId job.telegramMessageId).isSome = true
  | _ => True

instance (s : State) (e : Event) : Decidable (EnqueuedOnce s e) := by
  unfold EnqueuedOnce
  split <;> infer_instance

/-- The invariant: each admitted message has a situation, and what is there belongs to one. -/
structure Lifecycle (s : State) : Prop where
  tracked : Tracked s
  known : ∀ job ∈ s.db.processingJobs, job.message ∈ s.admitted
  unknown : ∀ m, m ∉ s.admitted → NoRun s.db m ∧ NoQuestion s.db m
  open_ : ∀ job ∈ s.db.processingJobs, NoQuestion s.db job.message
  situated : ∀ m ∈ s.admitted, ∃ situation : Situation, situation.Holds s.db m
  stages : ∀ run ∈ s.db.classificationRuns, run.stage = 1 ∨ run.stage = 2

section Runs

variable {s t u : State} {e : Event} {es : List Event} {iteration : Iteration}
  {error : Option HandlerError} {db : Database} {row : ProcessingJob} {m : Int × Int}

theorem Lifecycle.fits (lifecycle : Lifecycle s) (held : row ∈ s.db.processingJobs) :
    IsJob s.db row.message row ∧ Fits s.db row.message row := by
  rcases lifecycle.situated row.message (lifecycle.known row held) with ⟨situation, holds⟩
  exact holds.fits held rfl

/-- The message of an iteration that commits has a situation again. -/
theorem Lifecycle.situated_after (lifecycle : Lifecycle s)
    (found : s.db.processingJobs.get? iteration.jobId = some row)
    (claims : iteration.Claims row) {left : Option ProcessingJob}
    (leaves : LeavesRow s.db db iteration.jobId left)
    (outcome : Outcome iteration s.db db error left) :
    ∃ situation : Situation, situation.Holds db iteration.job.message := by
  have there := Table.mem_of_get? found
  rcases lifecycle.fits there with ⟨is_job, fits⟩
  have no_question := lifecycle.open_ row there
  rw [← claims.message_eq] at is_job fits no_question
  have others : ∀ job ∈ s.db.processingJobs, job.id ≠ iteration.jobId →
      job.message ≠ iteration.job.message := by
    intro job before ne same
    rw [is_job.2.2 job before same, Table.key_of_get? found] at ne
    exact ne rfl
  cases left with
  | none =>
      apply outcome.decided claims fits no_question
      intro job after
      rcases leaves.mem after with ⟨gone, _⟩ | ⟨before, ne⟩
      · cases gone
      · exact others job before ne
  | some next =>
      apply (outcome.fits claims fits).holds
      · have next_there : db.processingJobs.get? iteration.jobId = some next := by
          rw [leaves iteration.jobId, if_pos rfl]
        refine ⟨Table.mem_of_get? next_there, outcome.message_eq, ?_⟩
        intro job after same
        rcases leaves.mem after with ⟨is_next, _⟩ | ⟨before, ne⟩
        · exact (Option.some.inj is_next).symm
        · exact absurd same (others job before ne)
      · unfold NoQuestion
        rw [outcome.questions_eq]
        exact no_question

theorem Lifecycle.committed (lifecycle : Lifecycle s) (held : iteration ∈ s.opened)
    {w : Surroundings} (ran : iteration.run w s.db = (error, .ok db)) :
    Lifecycle (s.committed iteration error db) := by
  rcases lifecycle.tracked.outcome held ran with ⟨row, found, claims, left, leaves, outcome⟩
  have there := Table.mem_of_get? found
  have own := claims.message_eq
  have admitted : iteration.job.message ∈ s.admitted := own ▸ lifecycle.known row there
  have no_question : NoQuestion s.db iteration.job.message := own ▸ lifecycle.open_ row there
  have views : ∀ m, m ≠ iteration.job.message → SameView s.db db m :=
    fun m ne => outcome.sameView claims found leaves ne
  constructor
  · exact lifecycle.tracked.committed held ran
  · intro job after
    rcases leaves.mem after with ⟨rfl, _⟩ | ⟨before, _⟩
    · rw [outcome.message_eq]
      exact admitted
    · exact lifecycle.known job before
  · intro m unknown
    have ne : m ≠ iteration.job.message := by
      rintro rfl
      exact unknown admitted
    rcases lifecycle.unknown m unknown with ⟨no_run, no_question⟩
    exact ⟨no_run.congr (views m ne).runs, no_question.congr (views m ne).questions⟩
  · intro job after
    rcases leaves.mem after with ⟨rfl, _⟩ | ⟨before, ne⟩
    · rw [outcome.message_eq]
      show db.detectedQuestions.Lacks _
      rw [outcome.questions_eq]
      exact no_question
    · have apart : job.message ≠ iteration.job.message := by
        intro same
        rw [own] at same
        have is_row := (lifecycle.fits there).1.2.2 job before same
        rw [is_row, Table.key_of_get? found] at ne
        exact ne rfl
      exact (lifecycle.open_ job before).congr (views _ apart).questions
  · intro m known
    by_cases same : m = iteration.job.message
    · cases same
      exact lifecycle.situated_after found claims leaves outcome
    · rcases lifecycle.situated m known with ⟨situation, holds⟩
      exact ⟨situation, holds.congr (views m same)⟩
  · intro run after
    rcases outcome.touches.runs run after with before | ⟨_, stage⟩
    · exact lifecycle.stages run before
    · exact stage

/-- A message that is enqueued for the first time is queued. -/
theorem Lifecycle.admit (lifecycle : Lifecycle s) {job : NewJob} {newId : UUID} {now : Time}
    {jobs : Table ProcessingJob.id} {usedIds : List UUID}
    (fresh : (job.telegramChatId, job.telegramMessageId) ∉ s.admitted)
    (inserted : s.db.processingJobs.insert? (JobRepository.newRow job newId now) = some jobs)
    (tracked : Tracked { s with
      db := s.db.setProcessingJobs jobs
      admitted := s.admitted ++ [(job.telegramChatId, job.telegramMessageId)]
      usedIds := usedIds }) :
    Lifecycle { s with
      db := s.db.setProcessingJobs jobs
      admitted := s.admitted ++ [(job.telegramChatId, job.telegramMessageId)]
      usedIds := usedIds } := by
  let m : Int × Int := (job.telegramChatId, job.telegramMessageId)
  have own : (JobRepository.newRow job newId now).message = m := rfl
  have no_job : NoJob s.db m := by
    intro row held same
    have known := lifecycle.known row held
    rw [show row.message = m from same] at known
    exact fresh known
  have is_job : IsJob (s.db.setProcessingJobs jobs) m (JobRepository.newRow job newId now) :=
    no_job.insert? inserted own
  rcases lifecycle.unknown m fresh with ⟨no_run, no_question⟩
  refine ⟨tracked, ?_, ?_, ?_, ?_, lifecycle.stages⟩
  · intro row held
    rcases (Table.mem_insert? inserted).1 held with before | rfl
    · exact List.mem_append_left _ (lifecycle.known row before)
    · exact List.mem_append_right _ (List.mem_singleton_self _)
  · intro other unknown
    exact lifecycle.unknown other (fun known => unknown (List.mem_append_left _ known))
  · intro row held
    rcases (Table.mem_insert? inserted).1 held with before | rfl
    · exact lifecycle.open_ row before
    · exact no_question
  · intro other known
    rcases List.mem_append.1 known with before | new
    · rcases lifecycle.situated other before with ⟨situation, holds⟩
      refine ⟨situation, holds.congr ⟨?_, fun _ _ => Iff.rfl, fun _ _ => Iff.rfl, fun _ held => held⟩⟩
      intro row same
      constructor
      · intro held
        rcases (Table.mem_insert? inserted).1 held with there | rfl
        · exact there
        · exact absurd before (same ▸ fresh)
      · exact fun held => (Table.mem_insert? inserted).2 (Or.inl held)
    · rw [List.mem_singleton.1 new]
      exact ⟨.queued, _, is_job, Or.inl rfl, rfl, no_run⟩

theorem exists_of_jobFor? {telegramChatId telegramMessageId : Int}
    (present : (db.jobFor? telegramChatId telegramMessageId).isSome) :
    ∃ job ∈ db.processingJobs, job.message = (telegramChatId, telegramMessageId) := by
  rcases Option.isSome_iff_exists.1 present with ⟨job, found⟩
  have own := List.find?_some found
  simp only [Bool.and_eq_true, decide_eq_true_eq] at own
  exact ⟨job, List.mem_of_find?_eq_some found, Prod.ext own.1 own.2⟩

theorem lifecycle_step (lifecycle : Lifecycle s) (allowed : EnqueuedOnce s e)
    (next : step s e = some u) : Lifecycle u := by
  have tracked := tracked_step lifecycle.tracked next
  cases step_move next with
  | admitted job newId now jobs event fresh absent inserted =>
      rw [event] at allowed
      rcases allowed with new | present
      · exact lifecycle.admit new inserted tracked
      · rw [absent] at present
        cases present
  | repeated job newId now event present =>
      rcases exists_of_jobFor? present with ⟨row, held, own⟩
      have known := lifecycle.known row held
      rw [own] at known
      refine ⟨tracked, ?_, ?_, lifecycle.open_, ?_, lifecycle.stages⟩
      · intro other there
        exact List.mem_append_left _ (lifecycle.known other there)
      · intro m unknown
        exact lifecycle.unknown m (fun before => unknown (List.mem_append_left _ before))
      · intro m before
        rcases List.mem_append.1 before with before | new
        · exact lifecycle.situated m before
        · rw [List.mem_singleton.1 new]
          exact lifecycle.situated _ known
  | idle => exact lifecycle
  | claimed iteration row opened held claims inserted =>
      exact ⟨tracked, lifecycle.known, lifecycle.unknown, lifecycle.open_, lifecycle.situated,
        lifecycle.stages⟩
  | rolledBack iteration held =>
      exact ⟨tracked, lifecycle.known, lifecycle.unknown, lifecycle.open_, lifecycle.situated,
        lifecycle.stages⟩
  | committed iteration held w error db ran => exact lifecycle.committed held ran
  | recovered staleBefore now =>
      rw [lifecycle.tracked.recovered]
      exact lifecycle

/-- A pipeline that has seen no message. -/
structure Fresh (s : State) : Prop extends Unstarted s where
  noRun : ∀ run, run ∉ s.db.classificationRuns
  noQuestion : ∀ question, question ∉ s.db.detectedQuestions
  nothingAdmitted : s.admitted = []

theorem Fresh.lifecycle (fresh : Fresh s) : Lifecycle s where
  tracked := fresh.toUnstarted.tracked
  known job held := absurd held (fresh.noJob job)
  unknown m _ := ⟨fun run held => absurd held (fresh.noRun run),
    fun question held => absurd held (fresh.noQuestion question)⟩
  open_ job held := absurd held (fresh.noJob job)
  situated m known := by
    rw [fresh.nothingAdmitted] at known
    exact absurd known List.not_mem_nil
  stages run held := absurd held (fresh.noRun run)

/-- Nothing is lost and nothing is doubled: in every state of a run each admitted message is in
exactly one situation, and it has one run of stage 1 and one of stage 2 at most. -/
theorem nothing_lost_or_doubled (fresh : Fresh s) (run : Run step EnqueuedOnce s es t) :
    (∀ m ∈ t.admitted, ∃! situation : Situation, situation.Holds t.db m) ∧
      ∀ first ∈ t.db.classificationRuns, (first.stage = 1 ∨ first.stage = 2) ∧
        ∀ second ∈ t.db.classificationRuns, second.message = first.message →
          second.stage = first.stage → second = first := by
  have lifecycle : Lifecycle t := run.invariant fresh.lifecycle
    (fun _ _ _ lifecycle allowed next => lifecycle_step lifecycle allowed next)
  constructor
  · intro m known
    rcases lifecycle.situated m known with ⟨situation, holds⟩
    exact ⟨situation, holds, fun other also => also.unique holds⟩
  · intro first held
    refine ⟨lifecycle.stages first held, ?_⟩
    intro second there message stage
    apply Table.eq_of_key_eq there held
    unfold ClassificationRun.message at message
    simp only [Prod.mk.injEq] at message
    unfold ClassificationRun.key
    rw [message.1, message.2, stage]

/-- One message that is persisted, with a failure and a crash on its way, and one that is not
relevant. -/
theorem nothing_lost_or_doubled_sample : ∃ t : State,
    (∃! situation : Situation, situation.Holds t.db (-100, 40)) ∧
    (∃! situation : Situation, situation.Holds t.db (-100, 41)) ∧
    t.db.processingJobs.rows.length = 0 ∧
    t.db.detectedQuestions.rows.map (fun question => question.message) = [(-100, 40)] := by
  have computed : (exec step EnqueuedOnce { db := {} }
      [sampleEnqueue 5, .enqueue ⟨1, -100, 41, "Thanks!", 0, none, none, none⟩ 6 1,
        .claim .stage1 "a" 0, .claim .stage1 "b" 1, sampleEnqueue 8,
        .finish 5 (sampleSurroundings none),
        .finish 6 { sampleSurroundings none with adapter := sampleAdapter false false },
        .claim .replyChain "c" 2, .finish 5 (sampleSurroundings none),
        .claim .classification "d" 3, .crash 5, .claim .classification "d" 4,
        .finish 5 (sampleSurroundings (some { errorCode := "TimeoutError" })),
        .recoverStale 5 5, .claim .classification "d" (seconds 20),
        .finish 5 (sampleSurroundings none)]).map
      (fun t => (t.admitted, t.db.processingJobs.rows.length,
        t.db.detectedQuestions.rows.map (fun question => question.message))) =
      some ([(-100, 40), (-100, 41), (-100, 40)], 0, [(-100, 40)]) := by
    decide +kernel
  rcases Run.exists_of_exec computed with ⟨t, run, value⟩
  simp only [Prod.mk.injEq] at value
  have fresh : Fresh { db := {} } :=
    { noJob := fun row => Table.not_mem_empty row
      noIteration := fun iteration => Table.not_mem_empty iteration
      noCommit := rfl
      noRun := fun run => Table.not_mem_empty run
      noQuestion := fun question => Table.not_mem_empty question
      nothingAdmitted := rfl }
  have settled := (nothing_lost_or_doubled fresh run).1
  rw [value.1] at settled
  exact ⟨t, settled _ (by simp), settled _ (by simp), value.2.1, value.2.2⟩

end Runs

end LeadAssistant.Pipeline
