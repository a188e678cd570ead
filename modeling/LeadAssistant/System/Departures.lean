/-
Module: LeadAssistant.System.Departures
Layer: System
Purpose: No message is lost between the services. In every run of the whole system a queued job
  stays, with its message, until one of five things takes it away: the model has called the message
  irrelevant, its question is stored, its last attempt has failed, its time is over, or the operator
  has removed its chat.
Trusted boundary: human-reviewed spec
Main exports: Assistant.Departs, Assistant.kept_or_departs, Assistant.jobs_conserved
-/
import LeadAssistant.System.Provenance

namespace LeadAssistant.Assistant

open Relational Transition

/-- The events that may take the job of a message away, in the state before them. -/
inductive Departs (settings : AppSettings) (s : Assistant) (jobId : UUID) (message : NewJob) :
    ServiceEvent → Prop where
  | declined (iteration : Pipeline.Iteration) (w : Pipeline.Surroundings)
      (held : iteration ∈ s.iterations) (own : iteration.jobId = jobId)
      (same : iteration.job.asNew = message) (told : iteration.Says w .irrelevant) :
      Departs settings s jobId message (.pipeline (.finish jobId w))
  | asked (w : Pipeline.Surroundings) (t : Assistant) (question : DetectedQuestion)
      (next : step settings s (.pipeline (.finish jobId w)) = some t)
      (stored : question ∈ t.db.detectedQuestions)
      (same : question.message = (message.telegramChatId, message.telegramMessageId)) :
      Departs settings s jobId message (.pipeline (.finish jobId w))
  -- The worker has left it FAILED, for review.
  | givenUp (iteration : Pipeline.Iteration) (w : Pipeline.Surroundings) (raised : HandlerError)
      (db : Database) (held : iteration ∈ s.iterations) (own : iteration.jobId = jobId)
      (same : iteration.job.asNew = message) (ran : iteration.run w s.db = (some raised, .ok db))
      (spent : raised.retryable = true →
        Pipeline.retryDelay? iteration.job.attemptCount = none) :
      Departs settings s jobId message (.pipeline (.finish jobId w))
  | expired (rows : Expired) (now : Time) (job : ProcessingJob) (named : jobId ∈ rows.jobIds)
      (stored : s.db.processingJobs.get? jobId = some job)
      (due : RetentionRepository.expiredJob now settings.temporaryTtl job = true) :
      Departs settings s jobId message (.retention rows now)
  | removed : Departs settings s jobId message
      (.bot (some settings.operatorUserId) (.removeChat message.monitoredChatId))

section Steps

variable {settings : AppSettings} {s t : Assistant} {e : ServiceEvent} {job : ProcessingJob}

/-- A job and its message are queued: the row is there, and it has not failed for good. -/
def Queued (t : Assistant) (job : ProcessingJob) : Prop :=
  ∃ row ∈ t.db.processingJobs, row.id = job.id ∧ row.asNew = job.asNew ∧ row.status ≠ .failed

/-- An iteration takes no job away but its own, and that one for a reason. -/
theorem committed_or_departs (sound : Sound s) {iteration : Pipeline.Iteration}
    {w : Pipeline.Surroundings} {error : Option HandlerError} {db : Database}
    (held : iteration ∈ s.iterations) (ran : iteration.run w s.db = (error, .ok db))
    (next : step settings s (.pipeline (.finish iteration.jobId w)) =
      some (s.afterPipeline (s.pipeline.committed iteration error db)))
    (there : job ∈ s.db.processingJobs) (waits : job.status ≠ .failed) :
    Queued (s.afterPipeline (s.pipeline.committed iteration error db)) job ∨
      Departs settings s job.id job.asNew (.pipeline (.finish iteration.jobId w)) := by
  obtain ⟨row, found, claims, left, leaves, outcome⟩ := sound.tracked.outcome held ran
  by_cases own : job.id = iteration.jobId
  · have stored := Table.get?_of_mem there
    rw [own] at stored
    cases found.symm.trans stored
    have explains := Pipeline.run_explains claims found ran
    have after := leaves iteration.jobId
    rw [if_pos rfl] at after
    rw [after] at explains
    cases left with
    | some next =>
        by_cases failed : next.status = .failed
        · obtain ⟨raised, rfl, spent⟩ := outcome.spent_of_failed claims failed
          right
          rw [own]
          exact .givenUp iteration w raised db held rfl claims.keeps ran spent
        · left
          exact ⟨next, Table.mem_of_get? after, (Table.key_of_get? after).trans own.symm,
            outcome.keeps.trans claims.keeps, failed⟩
    | none =>
        right
        rw [own]
        rcases explains with told | ⟨question, asked, same⟩
        · exact .declined iteration w held rfl claims.keeps told
        · exact .asked w _ question next asked (same.trans claims.message_eq)
  · left
    have before : s.pipeline.db.processingJobs.get? job.id = some job := Table.get?_of_mem there
    have after := (leaves job.id).trans (if_neg own)
    exact ⟨job, Table.mem_of_get? (after.trans before), rfl, rfl, waits⟩

/-- A transaction of the operator or of a worker takes no job away but with its chat. -/
theorem replied_or_removes {call : ReplyWorkflow.Event} {w : ReplyWorkflow.World}
    (writes : ReplyWorkflow.Writes s.replies call w.db) (there : job ∈ s.db.processingJobs)
    (waits : job.status ≠ .failed) :
    Queued (s.afterReplies w) job ∨ call = .removeChat job.monitoredChatId := by
  rcases writes.jobs with same | ⟨chatId, rfl, removed⟩
  · exact Or.inl ⟨job, same.symm ▸ there, rfl, rfl, waits⟩
  · by_cases own : job.monitoredChatId = chatId
    · exact Or.inr (congrArg _ own.symm)
    · left
      refine ⟨job, ?_, rfl, rfl, waits⟩
      change job ∈ w.db.processingJobs
      rw [removed]
      exact Table.mem_deleteWhere.2 ⟨there, by simpa using own⟩

/-- One step of any service keeps a job, or it is one of the five. -/
theorem kept_or_departs (sound : Sound s) (next : step settings s e = some t)
    (there : job ∈ s.db.processingJobs) (waits : job.status ≠ .failed) :
    Queued t job ∨ Departs settings s job.id job.asNew e := by
  cases step_served next with
  | heard e l own moved =>
      left
      rcases (Listener.step_queues own moved).jobs with same | ⟨row, -, inserted⟩
      · exact ⟨job, same.symm ▸ there, rfl, rfl, waits⟩
      · exact ⟨job, (Table.mem_insert? inserted).2 (Or.inl there), rfl, rfl, waits⟩
  | worked e p own moved =>
      rcases Pipeline.commits_of_step sound.tracked own moved with
        same | ⟨iteration, held, w, error, db, rfl, ran, rfl⟩
      · refine Or.inl ⟨job, ?_, rfl, rfl, waits⟩
        change job ∈ p.db.processingJobs
        rw [same]
        exact there
      · exact committed_or_departs sound held ran next there waits
  | refused => exact Or.inl ⟨job, there, rfl, rfl, waits⟩
  | called call w isCall unlocked moved =>
      rcases replied_or_removes (ReplyWorkflow.step_writes (Or.inl isCall) moved) there waits with
        kept | rfl
      · exact Or.inl kept
      · exact Or.inr .removed
  | delivered call w outbound moved =>
      rcases replied_or_removes (ReplyWorkflow.step_writes (Or.inr outbound) moved) there waits with
        kept | rfl
      · exact Or.inl kept
      · cases outbound
  | notified locked api now ended notifications left => exact Or.inl ⟨job, there, rfl, rfl, waits⟩
  | written db => exact Or.inl ⟨job, there, rfl, rfl, waits⟩
  | retained rows now free due =>
      by_cases named : job.id ∈ rows.jobIds
      · right
        unfold Expired.due at due
        simp only [Bool.and_eq_true, List.all_eq_true, decide_eq_true_eq] at due
        exact .expired rows now job named (Table.get?_of_mem there) (due.1.1.1 job there named)
      · refine Or.inl ⟨job, Table.mem_deleteWhere.2 ⟨there, ?_⟩, rfl, rfl, waits⟩
        simpa using named

theorem kept_or_departed (sound : Sound s) {es : List ServiceEvent}
    (run : Run (step settings) anyEvent s es t) (there : job ∈ s.db.processingJobs)
    (waits : job.status ≠ .failed) :
    Queued t job ∨
      Happened settings s es (fun _ v e => Departs settings v job.id job.asNew e) := by
  induction run with
  | nil => exact Or.inl ⟨job, there, rfl, rfl, waits⟩
  | @snoc v t es e before _ next ih =>
      have held := before.invariant sound fun _ _ _ held _ moved => held.step moved
      rcases ih with ⟨row, stored, id, same, unfailed⟩ | departed
      · rcases kept_or_departs held next stored unfailed with
          ⟨later, after, laterId, laterSame, stays⟩ | departs
        · exact Or.inl ⟨later, after, laterId.trans id, laterSame.trans same, stays⟩
        · rw [id, same] at departs
          exact Or.inr (Caused.last before departs)
      · exact Or.inr (departed.snoc e)

/-- However the services interleave, a job that is queued at some moment of a run is queued ever
after, with the same message, or one of the five has happened since. -/
theorem jobs_conserved (fresh : Fresh s) {v : Assistant} {es later : List ServiceEvent}
    (run : Run (step settings) anyEvent s es v) (there : job ∈ v.db.processingJobs)
    (waits : job.status ≠ .failed) (since : Run (step settings) anyEvent v later t) :
    Queued t job ∨
      Happened settings v later (fun _ x e => Departs settings x job.id job.asNew e) := by
  have sound := run.invariant fresh.sound fun _ _ _ held _ moved => held.step moved
  exact kept_or_departed sound since there waits

end Steps

/-- The request of the sample is no longer queued once its question is stored. -/
theorem jobs_conserved_sample : ∃ v t job,
    Run (step sampleSettings) anyEvent sampleAssistant (sampleLead.take 8) v ∧
      Run (step sampleSettings) anyEvent v (sampleLead.drop 8) t ∧
      job ∈ v.db.processingJobs ∧ job.id = 5 ∧
      Happened sampleSettings v (sampleLead.drop 8)
        (fun _ x e => Departs sampleSettings x job.id job.asNew e) := by
  have computed : ((exec (step sampleSettings) anyEvent sampleAssistant (sampleLead.take 8)).bind
      (fun v => (exec (step sampleSettings) anyEvent v (sampleLead.drop 8)).map
        (fun t => (v.db.processingJobs.rows.map (fun job => (job.id, job.status)),
          t.db.processingJobs.rows.map (fun job => job.id))))) =
        some ([(5, .pending)], []) := by
    decide +kernel
  obtain ⟨v, first, rest⟩ := Option.bind_eq_some_iff.1 computed
  obtain ⟨t, run, ids⟩ := Run.exists_of_exec rest
  obtain ⟨before, after⟩ := Prod.mk.inj ids
  have queued : ((5 : UUID), ProcessingJobStatus.pending) ∈
      v.db.processingJobs.rows.map (fun job => (job.id, job.status)) := by
    rw [before]
    exact List.mem_singleton_self _
  obtain ⟨job, there, same⟩ := List.mem_map.1 queued
  obtain ⟨id, status⟩ := Prod.mk.inj same
  have waits : job.status ≠ .failed := by simp [status]
  refine ⟨v, t, job, .of_exec first, run, there, id, ?_⟩
  rcases jobs_conserved sampleAssistant_fresh (.of_exec first) there waits run with
    ⟨row, stored, -⟩ | departed
  · have gone := List.map_eq_nil_iff.1 after
    rw [← Table.mem_rows, gone] at stored
    simp at stored
  · exact departed

end LeadAssistant.Assistant
