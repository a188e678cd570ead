/-
Module: LeadAssistant.Pipeline.Fairness
Layer: Pipeline
Purpose: No starvation in the queue. The workers take the oldest ready job that nobody has locked, so
  a job that is ready can be overtaken by older jobs only, and by each of them only as often as it
  may be attempted, but for the iterations that end without a commit. A job that is stored later may
  still be an older one: its ingestion has begun earlier.
Trusted boundary: human-reviewed spec
Main exports: Worker.ready, Worker.quota, taken, dropped, ahead, storedLate, Waits,
  bounded_overtaking
-/
import LeadAssistant.Library.Emissions
import LeadAssistant.Pipeline.Bounded

namespace LeadAssistant.Pipeline

open Relational Transition

/-- `ORDER BY created_at, id`. -/
def age (job : ProcessingJob) : Time ×ₗ UUID := toLex (job.createdAt, job.id)

/-- The rows that a worker may take, if they are not locked. -/
def Worker.ready (worker : Worker) (now : Time) (job : ProcessingJob) : Bool :=
  match worker with
  | .stage1 => JobRepository.claimable (fun _ => false) now job
  | .replyChain => DownstreamJobRepository.claimable .replyChain (fun _ => false) now job
  | .classification => DownstreamJobRepository.claimable .classification (fun _ => false) now job

def Worker.claimed (worker : Worker) (workerId : String) (now : Time) :
    ProcessingJob → ProcessingJob :=
  match worker with
  | .stage1 => JobRepository.claimed workerId now
  | .replyChain | .classification => DownstreamJobRepository.claimed workerId now

/-- The worker of a phase. -/
def Phase.worker : Phase → Worker
  | .stage1 => .stage1
  | .chainLoad => .replyChain
  | .stage2 => .classification
  | .persistence => .classification

/-- How often a worker may commit an iteration of one job. -/
def Worker.quota : Worker → Nat
  | .stage1 => 5
  | .replyChain => 5
  | .classification => 10

def Event.asks (worker : Worker) : Event → Bool
  | .claim claimant _ _ => claimant = worker
  | _ => false

/-- The job that a worker takes in a step. -/
def taken (worker : Worker) (s : State) : Event → Option UUID
  | .claim claimant workerId now =>
      if claimant = worker then (s.claimed? worker workerId now).map (fun job => job.id) else none
  | _ => none

/-- The job whose iteration by a worker a step ends without a commit. -/
def dropped (worker : Worker) (s : State) : Event → Option UUID
  | .crash jobId =>
      if (s.opened.get? jobId).any (fun iteration => iteration.worker = worker) then some jobId
      else none
  | .finish jobId w =>
      if (s.opened.get? jobId).any (fun iteration => iteration.worker = worker &&
          match iteration.run w s.db with
          | (_, .error _) => true
          | (_, .ok _) => false) then some jobId
      else none
  | _ => none

/-- The jobs that are older than a job. -/
def ahead (s : State) (job : ProcessingJob) : Finset UUID :=
  ((s.db.processingJobs.rows.filter (fun row => age row < age job)).map
    (fun row => row.id)).toFinset

/-- A job that a worker may take since some time. -/
structure Waits (s : State) (worker : Worker) (since : Time) (job : ProcessingJob) : Prop where
  stored : s.db.processingJobs.get? job.id = some job
  ready : worker.ready since job = true
  unlocked : s.locked job.id = false

/-- A job that a step stores although it is older: `created_at` is the start of its ingestion. -/
def storedLate (job : ProcessingJob) (s : State) : Event → Option UUID
  | .enqueue message newId now =>
      if (s.db.jobFor? message.telegramChatId message.telegramMessageId).isNone ∧
          toLex (now, newId) < age job then some newId
      else none
  | _ => none

/-- The jobs that come before a job at some moment of a run. -/
def olders (s : State) (job : ProcessingJob) (es : List Event) : Finset UUID :=
  ahead s job ∪ (emitted step (storedLate job) s es).toFinset

/-- The workers ask since some time, by a clock that does not go back. -/
def Orderly (since : Time) (_ : State) : Event → Prop
  | .claim _ _ now => since ≤ now
  | _ => True

instance (since : Time) (s : State) (e : Event) : Decidable (Orderly since s e) :=
  match e with
  | .claim _ _ now => inferInstanceAs (Decidable (since ≤ now))
  | .enqueue _ _ _ | .finish _ _ | .crash _ | .recoverStale _ _ => inferInstanceAs (Decidable True)

section Steps

variable {s u : State} {e : Event} {worker : Worker} {since now : Time} {job row : ProcessingJob}
  {iteration : Iteration} {jobId : UUID} {workerId : String}

theorem mem_ahead : jobId ∈ ahead s job ↔
    ∃ row ∈ s.db.processingJobs, row.id = jobId ∧ age row < age job := by
  unfold ahead
  simp only [List.mem_toFinset, List.mem_map, List.mem_filter, decide_eq_true_eq, Table.mem_rows]
  constructor
  · rintro ⟨row, ⟨held, older⟩, id⟩
    exact ⟨row, held, id, older⟩
  · rintro ⟨row, held, id, older⟩
    exact ⟨row, ⟨held, older⟩, id⟩

/-! ### What a worker takes -/

theorem Worker.ready_later (ready : worker.ready since job = true) (later : since ≤ now) :
    worker.ready now job = true := by
  cases worker with
  | stage1 =>
      simp only [Worker.ready, JobRepository.claimable, Bool.and_eq_true, decide_eq_true_eq] at *
      exact ⟨⟨ready.1.1, ready.1.2.trans later⟩, ready.2⟩
  | replyChain | classification =>
      simp only [Worker.ready, DownstreamJobRepository.claimable, Bool.and_eq_true,
        decide_eq_true_eq, Option.all_eq_true] at *
      obtain ⟨⟨⟨⟨status, due⟩, snapshot⟩, unlocked⟩, rest⟩ := ready
      refine ⟨⟨⟨⟨status, due.trans later⟩, snapshot⟩, fun lockedAt held => ?_⟩, rest⟩
      exact lt_of_lt_of_le (unlocked lockedAt held) (Int.sub_le_sub_right later _)

theorem Worker.ready_phase (ready : worker.ready since job = true) :
    (phaseOf job).map Phase.worker = some worker := by
  cases worker with
  | stage1 =>
      simp only [Worker.ready, JobRepository.claimable, Bool.and_eq_true, Bool.or_eq_true,
        decide_eq_true_eq] at ready
      unfold phaseOf
      rcases ready.1.1 with pending | retry
      · rw [pending]
        rfl
      · rw [retry]
        rfl
  | replyChain =>
      simp only [Worker.ready, DownstreamJobRepository.claimable, Bool.and_eq_true] at ready
      obtain ⟨⟨⟨⟨status, -⟩, snapshot⟩, -⟩, -⟩ := ready
      rw [phaseOf_unloaded status (Option.isNone_iff_eq_none.1 snapshot)]
      rfl
  | classification =>
      simp only [Worker.ready, DownstreamJobRepository.claimable, Bool.and_eq_true] at ready
      obtain ⟨⟨⟨⟨status, -⟩, snapshot⟩, -⟩, -⟩ := ready
      rw [phaseOf_loaded status snapshot]
      split <;> rfl

/-- A row is ready for one worker at most. -/
theorem Worker.ready_inj {other : Worker} (ready : worker.ready since job = true)
    (ready' : other.ready now job = true) : worker = other :=
  Option.some.inj (ready_phase ready ▸ ready_phase ready')

theorem claimed?_eq : s.claimed? worker workerId now =
    (s.db.processingJobs.firstBy (fun row => worker.ready now row && !s.locked row.id) age).map
      (worker.claimed workerId now) := by
  cases worker with
  | stage1 =>
      have same : JobRepository.claimable s.locked now =
          fun row => Worker.stage1.ready now row && !s.locked row.id := by
        funext row
        simp [Worker.ready, JobRepository.claimable]
      rw [← same]
      rfl
  | replyChain =>
      have same : DownstreamJobRepository.claimable .replyChain s.locked now =
          fun row => Worker.replyChain.ready now row && !s.locked row.id := by
        funext row
        simp [Worker.ready, DownstreamJobRepository.claimable]
      rw [← same]
      rfl
  | classification =>
      have same : DownstreamJobRepository.claimable .classification s.locked now =
          fun row => Worker.classification.ready now row && !s.locked row.id := by
        funext row
        simp [Worker.ready, DownstreamJobRepository.claimable]
      rw [← same]
      rfl

theorem Worker.claimed_id : (worker.claimed workerId now row).id = row.id := by
  cases worker <;> rfl

/-- A worker takes a row that is ready for it. -/
theorem claimed?_ready {claimed : ProcessingJob}
    (found : s.claimed? worker workerId now = some claimed) :
    ∃ row ∈ s.db.processingJobs, row.id = claimed.id ∧ worker.ready now row = true := by
  rw [claimed?_eq] at found
  obtain ⟨row, first, rfl⟩ := Option.map_eq_some_iff.1 found
  obtain ⟨held, takes⟩ := Table.mem_of_firstBy first
  rw [Bool.and_eq_true] at takes
  exact ⟨row, held, Worker.claimed_id.symm, takes.1⟩

/-- While a job is ready and not locked, what a worker takes is it, or an older one. -/
theorem claimed?_first (held : job ∈ s.db.processingJobs) (ready : worker.ready now job = true)
    (unlocked : s.locked job.id = false) : ∃ claimed,
      s.claimed? worker workerId now = some claimed ∧
        (claimed.id = job.id ∨ claimed.id ∈ ahead s job) := by
  have takes : (worker.ready now job && !s.locked job.id) = true := by simp [ready, unlocked]
  obtain ⟨row, first⟩ : ∃ row, s.db.processingJobs.firstBy
      (fun row => worker.ready now row && !s.locked row.id) age = some row :=
    Table.exists_firstBy held takes
  refine ⟨worker.claimed workerId now row, by rw [claimed?_eq, first]; rfl, ?_⟩
  rw [Worker.claimed_id]
  have there := (Table.mem_of_firstBy first).1
  rcases (Table.le_of_firstBy first held takes).lt_or_eq with older | same
  · exact Or.inr (mem_ahead.2 ⟨row, there, rfl, older⟩)
  · exact Or.inl (congrArg Prod.snd same)

/-! ### The books of one job -/

/-- The iterations of a job that a worker has committed, and the one it may have open. -/
def State.committedBy (s : State) (worker : Worker) (jobId : UUID) : Nat :=
  (s.commitsOf jobId).countP (fun c => c.phase.worker = worker)

def State.runs (s : State) (worker : Worker) (jobId : UUID) : Bool :=
  (s.opened.get? jobId).any (fun iteration => iteration.worker = worker)

def State.held (s : State) (worker : Worker) (jobId : UUID) : Nat :=
  s.committedBy worker jobId + if s.runs worker jobId then 1 else 0

theorem Iteration.phase_worker : iteration.phase.worker = iteration.worker := by
  unfold Iteration.phase
  cases iteration.worker with
  | stage1 | replyChain => rfl
  | classification =>
      dsimp only
      split <;> rfl

theorem countP_worker (commits : List Commit) (worker : Worker) :
    commits.countP (fun c => c.phase.worker = worker) = match worker with
      | .stage1 => attempts .stage1 commits
      | .replyChain => attempts .chainLoad commits
      | .classification => attempts .stage2 commits + attempts .persistence commits := by
  induction commits using List.reverseRecOn with
  | nil => cases worker <;> rfl
  | append_singleton commits c ih =>
      rw [List.countP_append, ih]
      cases worker <;> simp only [attempts_snoc, List.countP_singleton] <;>
        cases c.phase <;> simp [Phase.worker] <;> omega

/-- A worker commits and opens at most as many iterations of a job as it may attempt. -/
theorem held_le_quota (tracked : Tracked s) (progress : Progress s jobId) :
    s.held worker jobId ≤ worker.quota := by
  have attempted := progress.oneWay.attempted
  unfold State.held State.committedBy
  rw [countP_worker]
  cases runs : s.runs worker jobId with
  | false =>
      have stage2 := attempted .stage2
      have persistence := attempted .persistence
      cases worker <;> simp [Worker.quota, attempted]
      omega
  | true =>
      obtain ⟨iteration, found, own⟩ := (Option.any_eq_true _ _).1 runs
      obtain ⟨row, stored, claims⟩ := tracked.claims iteration (Table.mem_of_get? found)
      rw [Table.key_of_get? found] at stored
      have stands := progress.stands row stored iteration.phase claims.waits
      have few := stands.few
      rw [stands.counted] at few
      have worker_eq := Iteration.phase_worker.trans (of_decide_eq_true own)
      have stage2 := attempted .stage2
      have persistence := attempted .persistence
      rw [← worker_eq]
      cases phase : iteration.phase <;> rw [phase] at few <;>
        simp only [Phase.worker, Worker.quota, if_true] <;> omega

theorem runs_of_found {ended : UUID} (found : s.opened.get? ended = some iteration) :
    s.runs worker ended = decide (iteration.worker = worker) := by
  unfold State.runs
  rw [found]
  rfl

theorem runs_erase {ended : UUID} (opened : u.opened = s.opened.erase ended) :
    u.runs worker jobId = if jobId = ended then false else s.runs worker jobId := by
  unfold State.runs
  rw [opened, Table.get?_erase]
  split <;> rfl

theorem held_rolledBack {ended : UUID} (found : s.opened.get? ended = some iteration) :
    (s.rolledBack ended).held worker jobId +
        (if iteration.worker = worker ∧ ended = jobId then 1 else 0) = s.held worker jobId := by
  have same : (s.rolledBack ended).committedBy worker jobId = s.committedBy worker jobId := rfl
  unfold State.held
  rw [same, runs_erase rfl]
  by_cases own : jobId = ended
  · cases own
    rw [if_pos rfl, runs_of_found found]
    simp
  · simp [own, Ne.symm own]

theorem held_committed {error : Option HandlerError} {db : Database}
    (found : s.opened.get? iteration.jobId = some iteration) :
    (s.committed iteration error db).held worker jobId = s.held worker jobId := by
  unfold State.held State.committedBy
  rw [commitsOf_committed, runs_erase rfl]
  by_cases own : iteration.jobId = jobId
  · cases own
    rw [if_pos rfl, if_pos rfl, runs_of_found found, List.countP_append, List.countP_singleton]
    simp [Iteration.phase_worker]
  · rw [if_neg own, if_neg (Ne.symm own)]

theorem held_claimed {claimed : Iteration} {opened : Table Iteration.jobId}
    (inserted : s.opened.insert? claimed = some opened) :
    State.held { s with opened := opened } worker jobId =
      s.held worker jobId + if claimed.worker = worker ∧ claimed.jobId = jobId then 1 else 0 := by
  have same : State.committedBy { s with opened := opened } worker jobId =
    s.committedBy worker jobId := rfl
  have after := @Table.get?_insert? _ _ _ _ _ _ _ jobId inserted
  unfold State.held State.runs
  rw [same, after]
  by_cases own : jobId = claimed.jobId
  · cases own
    have fresh : s.opened.get? claimed.jobId = none :=
      Table.get?_eq_none_iff.2 (Table.fresh_of_insert? inserted)
    rw [if_pos rfl, fresh]
    simp
  · simp [own, Ne.symm own]

/-- What a worker takes it has open until it commits or drops it. -/
theorem held_step (next : step s e = some u) (worker : Worker) (jobId : UUID) :
    u.held worker jobId + (if dropped worker s e = some jobId then 1 else 0) =
      s.held worker jobId + (if taken worker s e = some jobId then 1 else 0) := by
  cases e with
  | enqueue job newId now =>
      simp only [step] at next
      split at next
      · cases next
      · split at next
        · cases next
        · cases next
          rfl
  | claim claimant workerId now =>
      simp only [step] at next
      split at next
      · rename_i idle
        cases next
        by_cases own : claimant = worker
        · cases own
          simp [taken, dropped, idle]
        · simp [taken, dropped, own]
      · rename_i job found
        obtain ⟨opened, inserted, rfl⟩ := Option.map_eq_some_iff.1 next
        rw [held_claimed inserted]
        by_cases own : claimant = worker
        · cases own
          simp [taken, dropped, found]
        · simp [taken, dropped, own]
  | finish ended w =>
      simp only [step] at next
      split at next
      · cases next
      · rename_i iteration found
        cases Table.key_of_get? found
        split at next
        · rename_i failed
          cases next
          rw [← held_rolledBack found]
          simp [taken, dropped, found, failed]
        · rename_i error db ran
          cases next
          rw [held_committed found]
          simp [taken, dropped, found, ran]
  | crash ended =>
      simp only [step] at next
      split at next
      · cases next
      · rename_i iteration found
        cases next
        rw [← held_rolledBack found]
        simp [taken, dropped, found]
  | recoverStale staleBefore now =>
      cases next
      rfl

/-! ### A job that waits -/

/-- An iteration keeps the age of its job. -/
theorem Outcome.age_eq {db db' : Database} {error : Option HandlerError} {left : ProcessingJob}
    (outcome : Outcome iteration db db' error (some left)) (claims : iteration.Claims row) :
    age left = age row := by
  have claimed : age iteration.job = age row := by
    obtain ⟨-, workerId, claimed⟩ := claims
    split at claimed
    · rw [claimed.2]
      rfl
    · rw [claimed.2.2]
      rfl
    · rw [claimed.2.2]
      rfl
  rw [← claimed]
  cases outcome with
  | retried error delay retryable due same =>
      unfold Iteration.retried
      dsimp only
      split <;> rfl
  | failed error errorCode spent same => rfl
  | routed run status worker message sent records => rfl
  | loaded snapshot worker same => rfl
  | chosen run worker awaiting message relevant records accepted => rfl

/-- Nobody comes before a job later, but for an ingestion that has begun earlier. -/
theorem ahead_step (tracked : Tracked s) (next : step s e = some u) (older : jobId ∈ ahead u job) :
    jobId ∈ ahead s job ∨ storedLate job s e = some jobId := by
  obtain ⟨row, held, rfl, before⟩ := mem_ahead.1 older
  cases step_move next with
  | admitted message newId now jobs event fresh absent inserted =>
      rcases (Table.mem_insert? inserted).1 held with old | rfl
      · exact Or.inl (mem_ahead.2 ⟨row, old, rfl, before⟩)
      · right
        have early : toLex (now, newId) < age job := before
        simp [event, storedLate, absent, early, JobRepository.newRow]
  | repeated message newId now event present => exact Or.inl (mem_ahead.2 ⟨row, held, rfl, before⟩)
  | idle => exact Or.inl (mem_ahead.2 ⟨row, held, rfl, before⟩)
  | claimed iteration claimed opened found claims inserted =>
      exact Or.inl (mem_ahead.2 ⟨row, held, rfl, before⟩)
  | rolledBack iteration opened => exact Or.inl (mem_ahead.2 ⟨row, held, rfl, before⟩)
  | committed iteration opened w error db ran =>
      left
      obtain ⟨old, found, claims, left, leaves, outcome⟩ := tracked.outcome opened ran
      rcases leaves.mem held with ⟨rfl, own⟩ | ⟨there, -⟩
      · have same := outcome.age_eq claims
        rw [same] at before
        exact mem_ahead.2 ⟨old, Table.mem_of_get? found, congrArg Prod.snd same.symm, before⟩
      · exact mem_ahead.2 ⟨row, there, rfl, before⟩
  | recovered staleBefore now =>
      rw [tracked.recovered] at held
      exact Or.inl (mem_ahead.2 ⟨row, held, rfl, before⟩)

/-- The row of a job that nobody works on stays. -/
theorem stored_step (tracked : Tracked s) (next : step s e = some u)
    (stored : s.db.processingJobs.get? jobId = some row) (unopened : s.opened.get? jobId = none) :
    u.db.processingJobs.get? jobId = some row := by
  cases step_move next with
  | admitted message newId now jobs event fresh absent inserted =>
      have used := tracked.used row (Table.mem_of_get? stored)
      rw [Table.key_of_get? stored] at used
      have other : jobId ≠ (JobRepository.newRow message newId now).id := by
        rintro rfl
        exact fresh used
      have after := @Table.get?_insert? _ _ _ _ _ _ _ jobId inserted
      rw [if_neg other] at after
      exact after.trans stored
  | repeated message newId now event present => exact stored
  | idle => exact stored
  | claimed iteration claimed opened found claims inserted => exact stored
  | rolledBack iteration opened => exact stored
  | committed iteration opened w error db ran =>
      obtain ⟨old, found, claims, left, leaves, outcome⟩ := tracked.outcome opened ran
      have other : jobId ≠ iteration.jobId := by
        rintro rfl
        rw [Table.get?_of_mem opened] at unopened
        cases unopened
      exact (leaves.get?_of_ne other).trans stored
  | recovered staleBefore now =>
      rw [tracked.recovered]
      exact stored

/-- A job becomes locked when a worker takes it. -/
theorem unopened_step (next : step s e = some u) (unopened : s.opened.get? jobId = none) :
    u.opened.get? jobId = none ∨ ∃ worker workerId now claimed, e = .claim worker workerId now ∧
      s.claimed? worker workerId now = some claimed ∧ claimed.id = jobId := by
  have erased : ∀ ended, (s.opened.erase ended).get? jobId = none := by
    intro ended
    rw [Table.get?_erase, unopened]
    split <;> rfl
  cases e with
  | enqueue message newId now =>
      simp only [step] at next
      split at next
      · cases next
      · split at next
        · cases next
        · cases next
          exact Or.inl unopened
  | claim worker workerId now =>
      simp only [step] at next
      split at next
      · cases next
        exact Or.inl unopened
      · rename_i claimed found
        obtain ⟨opened, inserted, rfl⟩ := Option.map_eq_some_iff.1 next
        by_cases own : claimed.id = jobId
        · exact Or.inr ⟨worker, workerId, now, claimed, rfl, found, own⟩
        · left
          have after := @Table.get?_insert? _ _ _ _ _ _ _ jobId inserted
          rw [if_neg (Ne.symm own)] at after
          exact after.trans unopened
  | finish ended w =>
      simp only [step] at next
      split at next
      · cases next
      · rename_i iteration found
        cases Table.key_of_get? found
        split at next <;> cases next <;> exact Or.inl (erased _)
  | crash ended =>
      simp only [step] at next
      split at next
      · cases next
      · cases next
        exact Or.inl (erased ended)
  | recoverStale staleBefore now =>
      cases next
      exact Or.inl unopened

theorem Waits.unopened (waits : Waits s worker since job) : s.opened.get? job.id = none := by
  have unlocked := waits.unlocked
  unfold State.locked at unlocked
  simpa using unlocked

/-- A job that waits is taken by its worker, or it waits on. -/
theorem Waits.step (waits : Waits s worker since job) (tracked : Tracked s)
    (allowed : Orderly since s e) (next : step s e = some u) :
    taken worker s e = some job.id ∨ Waits u worker since job := by
  have stored := stored_step tracked next waits.stored waits.unopened
  rcases unopened_step next waits.unopened with
    unopened | ⟨claimant, workerId, now, claimed, rfl, found, own⟩
  · right
    refine ⟨stored, waits.ready, ?_⟩
    unfold State.locked
    rw [unopened]
    rfl
  · left
    obtain ⟨row, held, id, ready⟩ := claimed?_ready found
    have there := Table.get?_of_mem held
    rw [id, own, waits.stored] at there
    cases there
    cases Worker.ready_inj ready (Worker.ready_later waits.ready allowed)
    simp [taken, found, own]

/-- While a job waits, its worker takes it, or an older one. -/
theorem Waits.taken (waits : Waits s worker since job) (allowed : Orderly since s e)
    (asks : e.asks worker = true) : ∃ jobId, taken worker s e = some jobId ∧
      (jobId = job.id ∨ jobId ∈ ahead s job) := by
  cases e with
  | claim claimant workerId now =>
      cases of_decide_eq_true asks
      obtain ⟨claimed, found, first⟩ := @claimed?_first s worker now job workerId
        (Table.mem_of_get? waits.stored) (Worker.ready_later waits.ready allowed) waits.unlocked
      exact ⟨claimed.id, by simp [Pipeline.taken, found], first⟩
  | _ => cases asks

theorem asks_of_taken (found : taken worker s e = some jobId) : e.asks worker = true := by
  cases e with
  | claim claimant workerId now =>
      unfold taken at found
      dsimp only at found
      split at found
      · rename_i own
        exact decide_eq_true own
      · cases found
  | _ => cases found

end Steps

section Runs

variable {s t : State} {es : List Event} {worker : Worker} {since : Time} {job : ProcessingJob}

theorem olders_mono (run : Run step (Orderly since) s es t) (e : Event) :
    olders s job es ⊆ olders s job (es ++ [e]) := by
  unfold olders
  rw [emitted_snoc run, List.toFinset_append]
  exact Finset.union_subset_union_right Finset.subset_union_left

theorem mem_olders_of_late {v : State} {e : Event} {jobId : UUID}
    (run : Run step (Orderly since) s es v) (late : storedLate job v e = some jobId) :
    jobId ∈ olders s job (es ++ [e]) := by
  simp [olders, emitted_snoc run, late]

/-- What has happened while a job has waited: only older jobs were taken, one at each request. -/
structure Overtaken (worker : Worker) (since : Time) (job : ProcessingJob) (s : State)
    (es : List Event) (t : State) : Prop where
  waits : Waits t worker since job
  ahead : ahead t job ⊆ olders s job es
  requests : es.countP (fun e => e.asks worker) = (emitted step (taken worker) s es).length
  older : ∀ jobId ∈ emitted step (taken worker) s es, jobId ∈ olders s job es

theorem overtaken_of_run (tracked : Tracked s) (waits : Waits s worker since job)
    (run : Run step (Orderly since) s es t) :
    Caused step (Orderly since) s es (fun _ v e => taken worker v e = some job.id) ∨
      Overtaken worker since job s es t := by
  induction run with
  | nil => exact Or.inr ⟨waits, Finset.subset_union_left, rfl, by simp [emitted]⟩
  | @snoc v t es e before allowed next ih =>
      have reached := tracked_of_run tracked (before.weaken fun _ _ _ => trivial)
      have grows := @olders_mono _ _ _ _ job before e
      rcases ih with caused | overtaken
      · exact Or.inl (caused.snoc e)
      · by_cases own : taken worker v e = some job.id
        · exact Or.inl (Caused.last before own)
        · right
          have waits := (overtaken.waits.step reached allowed next).resolve_left own
          have older : ∀ jobId, taken worker v e = some jobId → jobId ∈ olders s job es := by
            intro jobId found
            obtain ⟨first, same, oldest⟩ := overtaken.waits.taken allowed (asks_of_taken found)
            cases found.symm.trans same
            rcases oldest with rfl | older
            · exact absurd found own
            · exact overtaken.ahead older
          refine ⟨waits, ?_, ?_, ?_⟩
          · intro jobId later
            rcases ahead_step reached next later with earlier | late
            · exact grows (overtaken.ahead earlier)
            · exact mem_olders_of_late before late
          · rw [List.countP_append, List.countP_singleton, emitted_snoc before, List.length_append,
              overtaken.requests]
            congr 1
            cases asks : e.asks worker with
            | true =>
                obtain ⟨first, found, -⟩ := overtaken.waits.taken allowed asks
                rw [found]
                rfl
            | false =>
                cases found : taken worker v e with
                | none => rfl
                | some jobId => exact absurd (asks_of_taken found) (by simp [asks])
          · intro jobId taken
            rw [emitted_snoc before, List.mem_append, Option.mem_toList] at taken
            exact grows (taken.elim (overtaken.older jobId) (older jobId))

/-- A worker takes a job no more often than it may attempt it, but for the iterations it drops. -/
theorem count_taken_le {s₀ : State} {before : List Event} (start : Unstarted s₀)
    (reached : Run step anyEvent s₀ before s) (run : Run step anyEvent s es t) (jobId : UUID) :
    (emitted step (taken worker) s es).count jobId ≤
      worker.quota + (emitted step (dropped worker) s es).count jobId := by
  have balance := count_balance run (tracked_of_run start.tracked reached)
    (fun _ _ _ tracked _ next => tracked_step tracked next)
    (fun _ _ _ _ next => held_step next worker jobId)
  have tracked := tracked_of_run start.tracked (reached.append run)
  have quota := @held_le_quota t worker jobId tracked (progress_of_run start (reached.append run))
  omega

/-- A job that is ready is taken before its worker has asked more often than the older jobs may be
attempted and iterations are dropped, whatever the other workers do meanwhile. The older jobs are
those of the moment it became ready, and those whose ingestion had begun and is committed later. -/
theorem bounded_overtaking {s₀ : State} {before : List Event} (start : Unstarted s₀)
    (reached : Run step anyEvent s₀ before s) (waits : Waits s worker since job)
    (run : Run step (Orderly since) s es t) :
    Caused step (Orderly since) s es (fun _ v e => taken worker v e = some job.id) ∨
      es.countP (fun e => e.asks worker) ≤ worker.quota * (olders s job es).card +
        (emitted step (dropped worker) s es).length := by
  rcases overtaken_of_run (tracked_of_run start.tracked reached) waits run with caused | overtaken
  · exact Or.inl caused
  · right
    rw [overtaken.requests]
    apply length_le_of_count_le overtaken.older
    exact fun jobId _ =>
      count_taken_le start reached (run.weaken fun _ _ _ => trivial) jobId

end Runs

/-! ### Three jobs -/

def sampleOlder : NewJob := ⟨1, -100, 40, "How do we deploy?", 0, none, none, none⟩

def sampleNewer : NewJob := ⟨1, -100, 41, "How do we test?", 0, none, none, none⟩

def sampleOverlapping : NewJob := ⟨1, -200, 7, "Who reviews?", 0, none, none, none⟩

def sampleQueue : State where
  db :=
    { processingJobs := ⟨[JobRepository.newRow sampleOlder 5 0, JobRepository.newRow sampleNewer 6 2],
        by decide⟩ }
  admitted := [(-100, 40), (-100, 41)]
  usedIds := [5, 6]

/-- One iteration of the older job crashes, and then it fails as often as it may be attempted. An
ingestion that has begun before the newer job commits meanwhile, and its job fails as often. -/
def sampleAttempts : List Event :=
  [.claim .stage1 "a" (seconds 1), .crash 5, .enqueue sampleOverlapping 7 1] ++
    [1, 20, 100, 1000, 10000].flatMap (fun n => [.claim .stage1 "a" (seconds n),
      .finish 5 (sampleSurroundings (some { errorCode := "TimeoutError" }))]) ++
    [10001, 10020, 10100, 11000, 20000].flatMap (fun n => [.claim .stage1 "a" (seconds n),
      .finish 7 (sampleSurroundings (some { errorCode := "TimeoutError" }))]) ++
    [.claim .stage1 "a" (seconds 20001)]

/-- After twelve requests the newer job has been taken. -/
theorem bounded_overtaking_sample : ∃ t,
    Run step (Orderly 2) sampleQueue sampleAttempts t ∧
      Caused step (Orderly 2) sampleQueue sampleAttempts
        (fun _ v e => taken .stage1 v e = some 6) := by
  have fresh : Unstarted { db := {} } :=
    ⟨fun row => Table.not_mem_empty row, fun iteration => Table.not_mem_empty iteration, rfl⟩
  have reached : Run step anyEvent { db := {} } [.enqueue sampleOlder 5 0, .enqueue sampleNewer 6 2]
      sampleQueue := .of_exec rfl
  have waits : Waits sampleQueue .stage1 2 (JobRepository.newRow sampleNewer 6 2) :=
    ⟨rfl, by decide, by decide⟩
  have counted : sampleAttempts.countP (fun e => e.asks .stage1) = 12 := by decide
  have computed : (exec step (Orderly 2) sampleQueue sampleAttempts).map (fun _ =>
      ((olders sampleQueue (JobRepository.newRow sampleNewer 6 2) sampleAttempts).card,
        emitted step (dropped .stage1) sampleQueue sampleAttempts)) = some (2, [5]) := by
    decide +kernel
  obtain ⟨t, run, bounds⟩ := Run.exists_of_exec computed
  obtain ⟨card, drops⟩ := Prod.mk.inj bounds
  refine ⟨t, run, (bounded_overtaking fresh reached waits run).resolve_right ?_⟩
  rw [counted, card, drops]
  decide

end LeadAssistant.Pipeline
