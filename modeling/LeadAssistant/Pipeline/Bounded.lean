/-
Module: LeadAssistant.Pipeline.Bounded
Layer: Pipeline
Purpose: Bounded, one-way processing. A job passes through its phases in their order and never
  returns to an earlier one; a phase commits five iterations at most, each failure but the fifth is
  scheduled again if it is retryable, and a FAILED job is not worked on any more.
Trusted boundary: none
Main exports: phaseOf, position, OneWay, Stands, Progress, bounded_one_way
-/
import LeadAssistant.Pipeline.Moves
import LeadAssistant.Library.Log

namespace LeadAssistant.Pipeline

open Relational Transition

/-- The phase a row waits for. -/
def phaseOf (row : ProcessingJob) : Option Phase :=
  match row.status with
  | .pending | .processing | .retry => some .stage1
  | .awaitingReplyContext =>
      some (if row.replyChainSnapshot.isSome then .stage2 else .chainLoad)
  | .awaitingRelevantProcessing =>
      some (if row.replyChainSnapshot.isSome then .persistence else .chainLoad)
  | .failed => none

/-- How far a row has come; a FAILED row is behind the last phase. -/
def position (row : ProcessingJob) : Nat :=
  (phaseOf row).elim 4 Phase.index

/-- The committed iterations of one job. -/
def State.commitsOf (s : State) (jobId : UUID) : List Commit :=
  s.commits.filter (fun c => c.jobId = jobId)

def attempts (phase : Phase) (commits : List Commit) : Nat :=
  commits.countP (fun c => c.phase = phase)

/-- A phase has ended well. -/
def Succeeded (phase : Phase) (commits : List Commit) : Prop :=
  ∃ c ∈ commits, c.phase = phase ∧ c.error = none

/-- A phase has ended well and has sent the job to a status. -/
def Sent (phase : Phase) (status : ProcessingJobStatus) (commits : List Commit) : Prop :=
  ∃ c ∈ commits, c.phase = phase ∧ c.error = none ∧ ∃ row, c.left = some row ∧ row.status = status

/-- After a commit its phase may be tried again only if it has failed, and no earlier phase may. The
job has not ended with it. -/
def Precedes (c : Commit) (phase : Phase) : Prop :=
  c.phase.index ≤ phase.index ∧ (c.error = none → c.phase.index < phase.index) ∧
    ∃ row, c.left = some row ∧ row.status ≠ .failed

/-- What has to be done before a phase. -/
def Entered (before : List Commit) : Phase → Prop
  | .stage1 => True
  | .chainLoad =>
      Sent .stage1 .awaitingReplyContext before ∨ Sent .stage1 .awaitingRelevantProcessing before
  | .stage2 => Sent .stage1 .awaitingReplyContext before ∧ Succeeded .chainLoad before
  | .persistence =>
      (Sent .stage1 .awaitingRelevantProcessing before ∨
        Sent .stage2 .awaitingRelevantProcessing before) ∧ Succeeded .chainLoad before

/-- What a failure leaves, by the number of the earlier attempts of its phase. -/
def Scheduled (before : List Commit) (c : Commit) : Prop :=
  ∀ error, c.error = some error → ∃ row, c.left = some row ∧
    match retryDelay? (attempts c.phase before + 1) with
    | some delay =>
        if error.retryable then
          phaseOf row = some c.phase ∧ row.nextAttemptAt = c.startedAt + seconds delay
        else row.status = .failed
    | none => row.status = .failed

/-- An iteration starts when the row that the last one has left is due. -/
def Due (before : List Commit) (c : Commit) : Prop :=
  ∀ last row, before.getLast? = some last → last.left = some row →
    row.nextAttemptAt ≤ c.startedAt

/-- The committed iterations of a job go one way. -/
structure OneWay (commits : List Commit) : Prop where
  ordered : commits.Pairwise (fun a b => Precedes a b.phase)
  attempted : ∀ phase, attempts phase commits ≤ 5
  entered : Log.EachAfter (fun before c => Entered before c.phase) commits
  scheduled : Log.EachAfter Scheduled commits
  due : Log.EachAfter Due commits

/-- A row that waits for a phase, beside the commits of its job. -/
structure Stands (commits : List Commit) (row : ProcessingJob) (phase : Phase) : Prop where
  counted : row.attemptCount = attempts phase commits
  few : row.attemptCount ≤ 4
  earlier : ∀ c ∈ commits, Precedes c phase
  fresh : phase = .stage1 → row.replyChainSnapshot = none
  context : row.status = .awaitingReplyContext → Sent .stage1 .awaitingReplyContext commits
  relevant : row.status = .awaitingRelevantProcessing →
    Sent .stage1 .awaitingRelevantProcessing commits ∨
      Sent .stage2 .awaitingRelevantProcessing commits
  snapshot : row.replyChainSnapshot.isSome → Succeeded .chainLoad commits

/-- The invariant of one job. -/
structure Progress (s : State) (jobId : UUID) : Prop where
  oneWay : OneWay (s.commitsOf jobId)
  unused : jobId ∉ s.usedIds → s.commitsOf jobId = []
  last : ∀ c, (s.commitsOf jobId).getLast? = some c → c.left = s.db.processingJobs.get? jobId
  stands : ∀ row, s.db.processingJobs.get? jobId = some row → ∀ phase, phaseOf row = some phase →
    Stands (s.commitsOf jobId) row phase

section Logs

variable {commits before : List Commit} {c : Commit} {phase phase' : Phase}
  {status : ProcessingJobStatus}

theorem attempts_snoc :
    attempts phase (commits ++ [c]) = attempts phase commits + if c.phase = phase then 1 else 0 := by
  simp [attempts, List.countP_append, List.countP_singleton]

/-- Every iteration belongs to one of the four phases. -/
theorem length_eq_attempts : commits.length = attempts .stage1 commits +
    attempts .chainLoad commits + attempts .stage2 commits + attempts .persistence commits := by
  induction commits using List.reverseRecOn with
  | nil => rfl
  | append_singleton commits c ih =>
      rw [List.length_append, List.length_singleton, ih]
      simp only [attempts_snoc]
      cases c.phase <;> simp <;> omega

theorem OneWay.length_le (oneWay : OneWay commits) : commits.length ≤ 20 := by
  have stage1 := oneWay.attempted .stage1
  have chainLoad := oneWay.attempted .chainLoad
  have stage2 := oneWay.attempted .stage2
  have persistence := oneWay.attempted .persistence
  rw [length_eq_attempts]
  omega

theorem Sent.snoc (sent : Sent phase status commits) : Sent phase status (commits ++ [c]) := by
  rcases sent with ⟨earlier, held, sent⟩
  exact ⟨earlier, List.mem_append_left _ held, sent⟩

theorem Succeeded.snoc (succeeded : Succeeded phase commits) : Succeeded phase (commits ++ [c]) := by
  rcases succeeded with ⟨earlier, held, succeeded⟩
  exact ⟨earlier, List.mem_append_left _ held, succeeded⟩

theorem Sent.last {row : ProcessingJob} (done : c.error = none) (left : c.left = some row) :
    Sent c.phase row.status (commits ++ [c]) :=
  ⟨c, by simp, rfl, done, row, left, rfl⟩

theorem Precedes.onward (precedes : Precedes c phase) (later : phase.index < phase'.index) :
    Precedes c phase' :=
  ⟨precedes.1.trans later.le, fun _ => precedes.1.trans_lt later, precedes.2.2⟩

/-- A phase that no commit has reached has no attempts. -/
theorem attempts_eq_zero (earlier : ∀ c ∈ commits, Precedes c phase)
    (later : phase.index < phase'.index) : attempts phase' commits = 0 := by
  apply List.countP_eq_zero.2
  intro c held reached
  have same : c.phase = phase' := by simpa using reached
  have bound := (earlier c held).1
  rw [same] at bound
  exact absurd later (not_lt.2 bound)

end Logs

section Rows

variable {iteration : Iteration} {row left : ProcessingJob} {db u : Database}
  {error : Option HandlerError} {phase phase' : Phase} {commits : List Commit} {c : Commit}
  {next : ProcessingJob}

theorem status_of_isDownstream
    (downstream : DownstreamJobRepository.isDownstream row.status = true) :
    row.status = .awaitingReplyContext ∨ row.status = .awaitingRelevantProcessing := by
  generalize row.status = status at downstream
  cases status <;> simp_all [DownstreamJobRepository.isDownstream]

/-- Without a snapshot a downstream row waits for its chain, whatever it is to do later. -/
theorem phaseOf_unloaded (downstream : DownstreamJobRepository.isDownstream row.status = true)
    (unloaded : row.replyChainSnapshot = none) : phaseOf row = some .chainLoad := by
  unfold phaseOf
  rw [unloaded]
  rcases status_of_isDownstream downstream with status | status
  all_goals
    rw [status]
    rfl

/-- With a snapshot its status decides. -/
theorem phaseOf_loaded (downstream : DownstreamJobRepository.isDownstream row.status = true)
    (loaded : row.replyChainSnapshot.isSome = true) :
    phaseOf row =
      some (if row.status = .awaitingReplyContext then .stage2 else .persistence) := by
  unfold phaseOf
  rw [loaded]
  rcases status_of_isDownstream downstream with status | status
  all_goals
    rw [status]
    rfl

theorem position_eq (waits : phaseOf row = some phase) : position row = phase.index := by
  unfold position
  rw [waits]
  rfl

theorem Iteration.phase_stage1 (worker : iteration.worker = .stage1) : iteration.phase = .stage1 := by
  unfold Iteration.phase
  rw [worker]

theorem Iteration.phase_chainLoad (worker : iteration.worker = .replyChain) :
    iteration.phase = .chainLoad := by
  unfold Iteration.phase
  rw [worker]

theorem Iteration.phase_stage2 (worker : iteration.worker = .classification)
    (awaiting : iteration.job.status = .awaitingReplyContext) : iteration.phase = .stage2 := by
  unfold Iteration.phase
  rw [worker]
  exact if_pos awaiting

/-- A worker claims a row in the phase the row waits for. -/
theorem Iteration.Claims.waits (claims : iteration.Claims row) :
    phaseOf row = some iteration.phase := by
  rcases claims with ⟨_, workerId, claimed⟩
  cases worker : iteration.worker with
  | stage1 =>
      rw [worker] at claimed
      rw [Iteration.phase_stage1 worker]
      unfold phaseOf
      rcases claimed.1 with pending | retry
      · rw [pending]
      · rw [retry]
  | replyChain =>
      rw [worker] at claimed
      rw [Iteration.phase_chainLoad worker]
      exact phaseOf_unloaded claimed.1 claimed.2.1
  | classification =>
      rw [worker] at claimed
      rw [phaseOf_loaded claimed.1 claimed.2.1]
      unfold Iteration.phase
      rw [worker, claimed.2.2]
      rfl

/-- A claim adds one attempt and keeps the snapshot. -/
theorem Iteration.Claims.same (claims : iteration.Claims row) :
    iteration.job.attemptCount = row.attemptCount + 1 ∧
      iteration.job.replyChainSnapshot = row.replyChainSnapshot := by
  rcases claims with ⟨_, workerId, claimed⟩
  split at claimed
  · rw [claimed.2]
    exact ⟨rfl, rfl⟩
  · rw [claimed.2.2]
    exact ⟨rfl, rfl⟩
  · rw [claimed.2.2]
    exact ⟨rfl, rfl⟩

theorem Iteration.Claims.status_eq (claims : iteration.Claims row)
    (downstream : iteration.worker ≠ .stage1) : iteration.job.status = row.status := by
  rcases claims with ⟨_, workerId, claimed⟩
  split at claimed
  · rename_i worker
    exact absurd worker downstream
  · rw [claimed.2.2]
    rfl
  · rw [claimed.2.2]
    rfl

theorem Iteration.Claims.snapshot_isSome (claims : iteration.Claims row)
    (worker : iteration.worker = .classification) : row.replyChainSnapshot.isSome = true := by
  rcases claims with ⟨_, workerId, claimed⟩
  rw [worker] at claimed
  exact claimed.2.1

theorem phaseOf_congr (status : next.status = row.status)
    (snapshot : next.replyChainSnapshot = row.replyChainSnapshot) : phaseOf next = phaseOf row := by
  unfold phaseOf
  rw [status, snapshot]

/-- A failure that is retried waits for its phase again. -/
theorem Iteration.Claims.retried (claims : iteration.Claims row) {raised : HandlerError}
    {delay : Nat} :
    phaseOf (iteration.retried raised delay) = some iteration.phase ∧
      ((iteration.retried raised delay).status = row.status ∨
        (iteration.retried raised delay).status = .retry) ∧
      (iteration.retried raised delay).replyChainSnapshot = row.replyChainSnapshot ∧
      (iteration.retried raised delay).attemptCount = row.attemptCount + 1 ∧
      (iteration.retried raised delay).nextAttemptAt = iteration.startedAt + seconds delay := by
  cases worker : iteration.worker with
  | stage1 =>
      unfold Iteration.retried Iteration.phase
      rw [worker]
      exact ⟨rfl, Or.inr rfl, claims.same.2, claims.same.1, rfl⟩
  | _ =>
      have downstream : iteration.worker ≠ .stage1 := by simp [worker]
      have kept := claims.status_eq downstream
      rw [← claims.waits]
      unfold Iteration.retried
      rw [worker]
      exact ⟨phaseOf_congr kept claims.same.2, Or.inl kept, claims.same.2, claims.same.1, rfl⟩

theorem isDownstream_of_routeOf {result : StageResult} {status : ProcessingJobStatus}
    (sent : routeOf result = some status) :
    DownstreamJobRepository.isDownstream status = true := by
  unfold routeOf at sent
  split at sent
  · cases sent
    rfl
  · cases sent
    rfl
  · cases sent

/-- A success that keeps the row moves it to a later phase and starts its count again. -/
theorem Outcome.onward (outcome : Outcome iteration db u none (some left))
    (claims : iteration.Claims row) :
    ∃ phase, phaseOf left = some phase ∧ iteration.phase.index < phase.index ∧
      left.attemptCount = 0 := by
  cases outcome with
  | routed run status worker message sent records =>
      have downstream := isDownstream_of_routeOf sent
      rw [Iteration.phase_stage1 worker]
      cases snapshot : iteration.job.replyChainSnapshot with
      | none => exact ⟨.chainLoad, phaseOf_unloaded downstream snapshot, Nat.zero_lt_one, rfl⟩
      | some held =>
          refine ⟨_, phaseOf_loaded downstream (by simp [JobRepository.routed, snapshot]), ?_, rfl⟩
          split <;> decide
  | loaded snapshot worker same =>
      have downstream := claims.downstream (by simp [worker])
      rw [Iteration.phase_chainLoad worker]
      refine ⟨_, phaseOf_loaded downstream rfl, ?_, rfl⟩
      split <;> decide
  | chosen run worker awaiting message relevant records accepted =>
      have loaded := claims.snapshot_isSome worker
      rw [← claims.same.2] at loaded
      rw [Iteration.phase_stage2 worker awaiting]
      exact ⟨.persistence, phaseOf_loaded rfl loaded, Nat.lt_succ_self 2, rfl⟩

/-- An iteration does not move its row back. -/
theorem Outcome.position_le (outcome : Outcome iteration db u error (some left))
    (claims : iteration.Claims row) : position row ≤ position left := by
  rw [position_eq claims.waits]
  cases error with
  | none =>
      rcases outcome.onward claims with ⟨phase, waits, later, _⟩
      rw [position_eq waits]
      exact later.le
  | some raised =>
      cases outcome with
      | retried _ delay retryable due same => rw [position_eq claims.retried.1]
      | failed _ errorCode spent same =>
          show iteration.phase.index ≤ 4
          cases iteration.phase <;> decide

end Rows

section Standing

variable {commits : List Commit} {row next : ProcessingJob} {phase phase' : Phase} {c : Commit}
  {iteration : Iteration} {db u : Database} {error : Option HandlerError}
  {left : Option ProcessingJob}

/-- One more failure of the phase, and it waits for the phase again. -/
theorem Stands.again (stands : Stands commits row phase) (own : c.phase = phase)
    (left : c.left = some next) (waits : next.status ≠ .failed) (failed : c.error ≠ none)
    (status : next.status = row.status ∨ next.status = .retry)
    (snapshot : next.replyChainSnapshot = row.replyChainSnapshot)
    (counted : next.attemptCount = row.attemptCount + 1) (few : next.attemptCount ≤ 4) :
    Stands (commits ++ [c]) next phase := by
  constructor
  · rw [attempts_snoc, if_pos own, counted, stands.counted]
  · exact few
  · intro x held
    rcases List.mem_append.1 held with before | last
    · exact stands.earlier x before
    · cases List.mem_singleton.1 last
      exact ⟨own ▸ le_rfl, fun done => absurd done failed, next, left, waits⟩
  · intro first
    exact snapshot.trans (stands.fresh first)
  · intro awaiting
    rcases status with same | retry
    · exact (stands.context (same ▸ awaiting)).snoc
    · exact absurd (retry.symm.trans awaiting) (by decide)
  · intro awaiting
    rcases status with same | retry
    · exact (stands.relevant (same ▸ awaiting)).imp Sent.snoc Sent.snoc
    · exact absurd (retry.symm.trans awaiting) (by decide)
  · intro loaded
    exact (stands.snapshot (snapshot ▸ loaded)).snoc

/-- The phase has ended well, and a later one begins to count. -/
theorem Stands.onward (stands : Stands commits row phase) (own : c.phase = phase)
    (left : c.left = some next) (waits : next.status ≠ .failed)
    (later : phase.index < phase'.index) (reset : next.attemptCount = 0)
    (context : next.status = .awaitingReplyContext →
      Sent .stage1 .awaitingReplyContext (commits ++ [c]))
    (relevant : next.status = .awaitingRelevantProcessing →
      Sent .stage1 .awaitingRelevantProcessing (commits ++ [c]) ∨
        Sent .stage2 .awaitingRelevantProcessing (commits ++ [c]))
    (snapshot : next.replyChainSnapshot.isSome → Succeeded .chainLoad (commits ++ [c])) :
    Stands (commits ++ [c]) next phase' := by
  have apart : c.phase ≠ phase' := by
    intro same
    rw [← same, own] at later
    exact lt_irrefl _ later
  refine ⟨?_, ?_, ?_, ?_, context, relevant, snapshot⟩
  · rw [attempts_snoc, if_neg apart, reset, attempts_eq_zero stands.earlier later]
  · rw [reset]
    exact Nat.zero_le 4
  · intro x held
    rcases List.mem_append.1 held with before | last
    · exact (stands.earlier x before).onward later
    · cases List.mem_singleton.1 last
      exact ⟨own ▸ later.le, fun _ => own ▸ later, next, left, waits⟩
  · rintro rfl
    exact absurd later (Nat.not_lt_zero _)

theorem retryDelay_le {attemptCount delay : Nat} (due : retryDelay? attemptCount = some delay) :
    attemptCount ≤ 4 := by
  have bound := (List.getElem?_eq_some_iff.1 due).1
  simp only [List.length_cons, List.length_nil] at bound
  omega

theorem not_failed_of_waits (waits : phaseOf row = some phase) : row.status ≠ .failed := by
  intro failed
  unfold phaseOf at waits
  rw [failed] at waits
  cases waits

/-- What an iteration leaves waits for the phase the commits say. -/
theorem Stands.committed (stands : Stands commits row iteration.phase)
    (claims : iteration.Claims row) (outcome : Outcome iteration db u error (some next))
    (waits : phaseOf next = some phase) {jobId : UUID} :
    Stands (commits ++ [⟨jobId, iteration.phase, iteration.startedAt, error, some next⟩]) next
      phase := by
  have not_failed := not_failed_of_waits waits
  cases error with
  | some raised =>
      cases outcome with
      | retried _ delay retryable due same =>
          rcases claims.retried with ⟨again, status, snapshot, counted, _⟩
          cases Option.some.inj (again.symm.trans waits)
          apply stands.again rfl rfl not_failed (Option.some_ne_none raised) status snapshot counted
          rw [counted, ← claims.same.1]
          exact retryDelay_le due
      | failed _ errorCode spent same => exact absurd rfl not_failed
  | none =>
      rcases outcome.onward claims with ⟨_, waits', later, reset⟩
      cases Option.some.inj (waits'.symm.trans waits)
      have last := @Sent.last commits ⟨jobId, iteration.phase, iteration.startedAt, none, some next⟩
        _ rfl rfl
      apply stands.onward rfl rfl not_failed later reset
      · intro awaiting
        cases outcome with
        | routed run status worker message sent records =>
            rw [awaiting] at last
            exact Iteration.phase_stage1 worker ▸ last
        | loaded snapshot worker same =>
            have kept := claims.status_eq (by simp [worker])
            exact (stands.context (kept.symm.trans awaiting)).snoc
        | chosen run worker requested message relevant records accepted =>
            exact absurd awaiting ProcessingJobStatus.noConfusion
      · intro awaiting
        rw [awaiting] at last
        cases outcome with
        | routed run status worker message sent records =>
            exact Or.inl (Iteration.phase_stage1 worker ▸ last)
        | loaded snapshot worker same =>
            have kept := claims.status_eq (by simp [worker])
            exact (stands.relevant (kept.symm.trans awaiting)).imp Sent.snoc Sent.snoc
        | chosen run worker requested message relevant records accepted =>
            exact Or.inr (Iteration.phase_stage2 worker requested ▸ last)
      · intro has_snapshot
        cases outcome with
        | routed run status worker message sent records =>
            have unloaded := stands.fresh (Iteration.phase_stage1 worker)
            rw [← claims.same.2] at unloaded
            have none_left : (JobRepository.routed status iteration.job).replyChainSnapshot = none :=
              unloaded
            rw [none_left] at has_snapshot
            exact absurd has_snapshot Bool.false_ne_true
        | loaded snapshot worker same =>
            exact ⟨_, List.mem_append_right _ (List.mem_singleton_self _),
              Iteration.phase_chainLoad worker, rfl⟩
        | chosen run worker requested message relevant records accepted =>
            exact (stands.snapshot (claims.snapshot_isSome worker)).snoc

/-- What a phase needs has been done when its row is claimed. -/
theorem Stands.entered (stands : Stands commits row iteration.phase)
    (claims : iteration.Claims row) : Entered commits iteration.phase := by
  cases worker : iteration.worker with
  | stage1 =>
      rw [Iteration.phase_stage1 worker]
      trivial
  | replyChain =>
      have own := Iteration.phase_chainLoad worker
      have downstream := claims.downstream (by simp [worker])
      rw [claims.status_eq (by simp [worker])] at downstream
      rw [own]
      cases status : row.status with
      | awaitingReplyContext => exact Or.inl (stands.context status)
      | awaitingRelevantProcessing =>
          rcases stands.relevant status with sent | ⟨c, held, reached, _⟩
          · exact Or.inr sent
          · have bound := (stands.earlier c held).1
            rw [own, reached] at bound
            exact absurd bound (by decide)
      | _ =>
          rw [status] at downstream
          exact absurd downstream (by decide)
  | classification =>
      have downstream := claims.downstream (by simp [worker])
      have kept := claims.status_eq (by simp [worker])
      have loaded := stands.snapshot (claims.snapshot_isSome worker)
      rw [kept] at downstream
      unfold Iteration.phase
      rw [worker, kept]
      cases status : row.status with
      | awaitingReplyContext => exact ⟨stands.context status, loaded⟩
      | awaitingRelevantProcessing => exact ⟨stands.relevant status, loaded⟩
      | _ =>
          rw [status] at downstream
          exact absurd downstream (by decide)

/-- The commit of an iteration follows the commits of its job. -/
theorem OneWay.committed (oneWay : OneWay commits) (stands : Stands commits row iteration.phase)
    (claims : iteration.Claims row) (outcome : Outcome iteration db u error left)
    (last : ∀ c, commits.getLast? = some c → c.left = some row) {jobId : UUID} :
    OneWay (commits ++ [⟨jobId, iteration.phase, iteration.startedAt, error, left⟩]) := by
  constructor
  · rw [List.pairwise_append]
    refine ⟨oneWay.ordered, List.pairwise_singleton _ _, ?_⟩
    intro a held b new
    cases List.mem_singleton.1 new
    exact stands.earlier a held
  · intro phase
    rw [attempts_snoc]
    split
    · rename_i own
      have bound := stands.few
      rw [stands.counted] at bound
      cases own
      exact Nat.succ_le_succ bound
    · exact oneWay.attempted phase
  · exact Log.eachAfter_snoc_iff.2 ⟨oneWay.entered, stands.entered claims⟩
  · rw [Log.eachAfter_snoc_iff]
    refine ⟨oneWay.scheduled, ?_⟩
    intro raised failed
    have counted : iteration.job.attemptCount = attempts iteration.phase commits + 1 := by
      rw [claims.same.1, stands.counted]
    dsimp only at failed ⊢
    rw [← counted]
    cases outcome with
    | retried _ delay retryable due same =>
        cases failed
        rcases claims.retried with ⟨again, _, _, _, at_⟩
        refine ⟨_, rfl, ?_⟩
        rw [due]
        dsimp only
        rw [if_pos retryable]
        exact ⟨again, at_⟩
    | failed _ errorCode spent same =>
        cases failed
        refine ⟨_, rfl, ?_⟩
        split
        · rename_i delay due
          split
          · rename_i retryable
            rw [spent retryable] at due
            cases due
          · rfl
        · rfl
    | _ => cases failed
  · rw [Log.eachAfter_snoc_iff]
    refine ⟨oneWay.due, ?_⟩
    intro before row' latest kept
    rw [last before latest] at kept
    cases kept
    exact claims.1

end Standing

section Runs

variable {s t u : State} {e : Event} {es fs : List Event} {jobId : UUID} {iteration : Iteration}
  {error : Option HandlerError} {db : Database}

/-- Nothing of a job changes when its row, its commits and the used ids stay. -/
theorem Progress.of_same (progress : Progress s jobId) (commits : t.commits = s.commits)
    (used : ∀ id ∈ s.usedIds, id ∈ t.usedIds)
    (row : t.db.processingJobs.get? jobId = s.db.processingJobs.get? jobId) :
    Progress t jobId := by
  have same : t.commitsOf jobId = s.commitsOf jobId := by
    unfold State.commitsOf
    rw [commits]
  constructor
  · rw [same]
    exact progress.oneWay
  · intro unused
    rw [same]
    exact progress.unused (fun known => unused (used jobId known))
  · rw [same, row]
    exact progress.last
  · rw [same, row]
    exact progress.stands

theorem commitsOf_committed : (s.committed iteration error db).commitsOf jobId =
    if iteration.jobId = jobId then
      s.commitsOf jobId ++ [⟨iteration.jobId, iteration.phase, iteration.startedAt, error,
        db.processingJobs.get? iteration.jobId⟩]
    else s.commitsOf jobId := by
  unfold State.commitsOf State.committed
  rw [List.filter_append]
  split
  · rename_i own
    simp [own]
  · rename_i other
    simp [other]

theorem Progress.committed (progress : Progress s jobId) (tracked : Tracked s)
    (held : iteration ∈ s.opened) {w : Surroundings}
    (ran : iteration.run w s.db = (error, .ok db)) :
    Progress (s.committed iteration error db) jobId := by
  rcases tracked.outcome held ran with ⟨row, found, claims, left, leaves, outcome⟩
  by_cases own : iteration.jobId = jobId
  · cases own
    have stands := progress.stands row found iteration.phase claims.waits
    have left_eq : db.processingJobs.get? iteration.jobId = left := by
      rw [leaves iteration.jobId, if_pos rfl]
    have log : (s.committed iteration error db).commitsOf iteration.jobId =
        s.commitsOf iteration.jobId ++
          [⟨iteration.jobId, iteration.phase, iteration.startedAt, error, left⟩] := by
      rw [commitsOf_committed, if_pos rfl, left_eq]
    have row_eq : (s.committed iteration error db).db.processingJobs.get? iteration.jobId = left :=
      left_eq
    constructor
    · rw [log]
      apply progress.oneWay.committed stands claims outcome
      intro c last
      rw [progress.last c last, found]
    · intro unused
      have known := tracked.used row (Table.mem_of_get? found)
      rw [Table.key_of_get? found] at known
      exact absurd known unused
    · intro c last
      rw [log, List.getLast?_concat] at last
      cases last
      exact row_eq.symm
    · intro next there phase waits
      rw [row_eq] at there
      cases there
      rw [log]
      exact stands.committed claims outcome waits
  · have log : (s.committed iteration error db).commitsOf jobId = s.commitsOf jobId := by
      rw [commitsOf_committed, if_neg own]
    have row_eq : (s.committed iteration error db).db.processingJobs.get? jobId =
        s.db.processingJobs.get? jobId :=
      leaves.get?_of_ne (fun same => own same.symm)
    constructor
    · rw [log]
      exact progress.oneWay
    · rw [log]
      exact progress.unused
    · rw [log, row_eq]
      exact progress.last
    · rw [log, row_eq]
      exact progress.stands

theorem progress_step (progress : Progress s jobId) (tracked : Tracked s)
    (next : step s e = some u) : Progress u jobId := by
  cases step_move next with
  | admitted job newId now jobs event fresh absent inserted =>
      have written := @Table.get?_insert? _ _ _ _ _ _ _ jobId inserted
      by_cases own : jobId = newId
      · cases own
        have none_yet : s.commitsOf jobId = [] := progress.unused fresh
        have same : (jobId = (JobRepository.newRow job jobId now).id) := rfl
        rw [if_pos same] at written
        refine ⟨progress.oneWay, fun _ => none_yet, ?_, ?_⟩
        · intro c last
          have last : (s.commitsOf jobId).getLast? = some c := last
          rw [none_yet] at last
          cases last
        · intro row there phase waits
          cases Option.some.inj (written.symm.trans there)
          cases waits
          show Stands (s.commitsOf jobId) _ _
          rw [none_yet]
          exact ⟨rfl, Nat.zero_le 4, fun _ held => absurd held List.not_mem_nil, fun _ => rfl,
            ProcessingJobStatus.noConfusion, ProcessingJobStatus.noConfusion,
            fun loaded => absurd loaded Bool.false_ne_true⟩
      · have other : ¬ jobId = (JobRepository.newRow job newId now).id := own
        rw [if_neg other] at written
        exact progress.of_same rfl (fun _ known => List.mem_append_left _ known) written
  | repeated job newId now event present =>
      exact progress.of_same rfl (fun _ known => List.mem_append_left _ known) rfl
  | idle => exact progress
  | claimed iteration row opened held claims inserted =>
      exact progress.of_same rfl (fun _ known => known) rfl
  | rolledBack iteration held => exact progress.of_same rfl (fun _ known => known) rfl
  | committed iteration held w error db ran => exact progress.committed tracked held ran
  | recovered staleBefore now =>
      rw [tracked.recovered]
      exact progress

/-- The rows of one state against a later one: none has moved back, and no id is used again. -/
structure Onward (s u : State) : Prop where
  used : ∀ id ∈ s.usedIds, id ∈ u.usedIds
  rows : ∀ id ∈ s.usedIds, ∀ later, u.db.processingJobs.get? id = some later →
    ∃ row, s.db.processingJobs.get? id = some row ∧ position row ≤ position later

theorem Onward.refl (s : State) : Onward s s :=
  ⟨fun _ known => known, fun _ _ later found => ⟨later, found, le_rfl⟩⟩

theorem Onward.trans (first : Onward s t) (second : Onward t u) : Onward s u := by
  constructor
  · intro id known
    exact second.used id (first.used id known)
  · intro id known later found
    rcases second.rows id (first.used id known) later found with ⟨between, found', le⟩
    rcases first.rows id known between found' with ⟨row, found'', le'⟩
    exact ⟨row, found'', le'.trans le⟩

theorem Onward.of_same (used : ∀ id ∈ s.usedIds, id ∈ u.usedIds)
    (rows : ∀ id ∈ s.usedIds, u.db.processingJobs.get? id = s.db.processingJobs.get? id) :
    Onward s u := by
  constructor
  · exact used
  · intro id known later found
    exact ⟨later, (rows id known).symm.trans found, le_rfl⟩

theorem onward_step (tracked : Tracked s) (next : step s e = some u) : Onward s u := by
  cases step_move next with
  | admitted job newId now jobs event fresh absent inserted =>
      apply Onward.of_same (fun _ known => List.mem_append_left _ known)
      intro id known
      have written := @Table.get?_insert? _ _ _ _ _ _ _ id inserted
      have other : ¬ id = (JobRepository.newRow job newId now).id := by
        rintro rfl
        exact fresh known
      rw [if_neg other] at written
      exact written
  | repeated job newId now event present =>
      exact Onward.of_same (fun _ known => List.mem_append_left _ known) (fun _ _ => rfl)
  | idle => exact Onward.refl s
  | claimed iteration row opened held claims inserted =>
      exact Onward.of_same (fun _ known => known) (fun _ _ => rfl)
  | rolledBack iteration held => exact Onward.of_same (fun _ known => known) (fun _ _ => rfl)
  | committed iteration held w error db ran =>
      rcases tracked.outcome held ran with ⟨row, found, claims, left, leaves, outcome⟩
      refine ⟨fun _ known => known, ?_⟩
      intro id known later there
      have there : db.processingJobs.get? id = some later := there
      rw [leaves id] at there
      by_cases own : id = iteration.jobId
      · rw [if_pos own] at there
        cases there
        exact ⟨row, own ▸ found, outcome.position_le claims⟩
      · rw [if_neg own] at there
        exact ⟨later, there, le_rfl⟩
  | recovered staleBefore now =>
      rw [tracked.recovered]
      exact Onward.refl s

/-- A pipeline in which no message has been enqueued yet. -/
structure Unstarted (s : State) : Prop where
  noJob : ∀ row, row ∉ s.db.processingJobs
  noIteration : ∀ iteration, iteration ∉ s.opened
  noCommit : s.commits = []

theorem Unstarted.tracked (start : Unstarted s) : Tracked s where
  claims iteration held := absurd held (start.noIteration iteration)
  settled row held := absurd held (start.noJob row)
  used row held := absurd held (start.noJob row)

theorem Unstarted.progress (start : Unstarted s) : Progress s jobId := by
  have nothing : s.commitsOf jobId = [] := by
    unfold State.commitsOf
    rw [start.noCommit]
    rfl
  constructor
  · rw [nothing]
    exact ⟨List.Pairwise.nil, fun _ => Nat.zero_le 5, Log.eachAfter_nil, Log.eachAfter_nil,
      Log.eachAfter_nil⟩
  · exact fun _ => nothing
  · intro c last
    rw [nothing] at last
    cases last
  · intro row found
    exact absurd (Table.mem_of_get? found) (start.noJob row)

theorem tracked_of_run (start : Tracked s) (run : Run step anyEvent s es t) : Tracked t :=
  run.invariant start (fun _ _ _ tracked _ next => tracked_step tracked next)

theorem progress_of_run (start : Unstarted s) (run : Run step anyEvent s es t) :
    Progress t jobId := by
  induction run with
  | nil => exact start.progress
  | snoc before _ next ih => exact progress_step ih (tracked_of_run start.tracked before) next

theorem onward_of_run (start : Tracked s) (run : Run step anyEvent s es t) : Onward s t :=
  run.related start Onward.refl Onward.trans
    (fun _ _ _ tracked _ next => tracked_step tracked next)
    (fun _ _ _ tracked _ next => onward_step tracked next)

/-- What later states do to a job whose row has been seen. -/
structure NeverBack (row : ProcessingJob) (u : State) : Prop where
  rows : ∀ later, u.db.processingJobs.get? row.id = some later → position row ≤ position later
  claims : ∀ iteration ∈ u.opened, iteration.jobId = row.id → position row ≤ iteration.phase.index
  awaiting : DownstreamJobRepository.isDownstream row.status = true →
    ∀ iteration ∈ u.opened, iteration.jobId = row.id → iteration.worker ≠ .stage1
  failed : row.status = .failed → ∀ iteration ∈ u.opened, iteration.jobId ≠ row.id

theorem Onward.neverBack (onward : Onward s u) (tracked : Tracked s) (later : Tracked u)
    {row : ProcessingJob} (held : row ∈ s.db.processingJobs) : NeverBack row u := by
  have rows : ∀ later, u.db.processingJobs.get? row.id = some later →
      position row ≤ position later := by
    intro later found
    rcases onward.rows row.id (tracked.used row held) later found with ⟨row', found', le⟩
    rw [Table.get?_of_mem held] at found'
    cases found'
    exact le
  have claims : ∀ iteration ∈ u.opened, iteration.jobId = row.id →
      position row ≤ iteration.phase.index := by
    intro iteration open_ own
    rcases later.claims iteration open_ with ⟨row', found, claims⟩
    rw [← position_eq claims.waits]
    exact rows row' (own ▸ found)
  refine ⟨rows, claims, ?_, ?_⟩
  · intro downstream iteration open_ own worker
    have bound := claims iteration open_ own
    rw [Iteration.phase_stage1 worker] at bound
    cases snapshot : row.replyChainSnapshot with
    | none =>
        rw [position_eq (phaseOf_unloaded downstream snapshot)] at bound
        exact absurd bound (by decide)
    | some held =>
        rw [position_eq (phaseOf_loaded downstream (by rw [snapshot]; rfl))] at bound
        split at bound
        · exact absurd bound (by decide)
        · exact absurd bound (by decide)
  · intro failed iteration open_ own
    have bound := claims iteration open_ own
    unfold position phaseOf at bound
    rw [failed] at bound
    dsimp only [Option.elim] at bound
    cases phase : iteration.phase <;> rw [phase] at bound <;> exact absurd bound (by decide)

/-- Bounded, one-way processing: the committed iterations of a job go one way, there are twenty of
them at most, and no row that a state has held is worked on in an earlier phase later. -/
theorem bounded_one_way (start : Unstarted s) (run : Run step anyEvent s es t)
    (later : Run step anyEvent t fs u) :
    (∀ jobId, OneWay (u.commitsOf jobId) ∧ (u.commitsOf jobId).length ≤ 20) ∧
      ∀ row ∈ t.db.processingJobs, NeverBack row u := by
  have reached : Tracked t := tracked_of_run start.tracked run
  constructor
  · intro jobId
    have progress := @progress_of_run _ _ _ jobId start (run.append later)
    exact ⟨progress.oneWay, progress.oneWay.length_le⟩
  · intro row held
    exact (onward_of_run reached later).neverBack reached (tracked_of_run reached later) held

/-- An adapter that gives every text the same answer. -/
def sampleAdapter (isRelevant contextRequired : Bool) : ClassificationAdapter where
  model := "gpt-5-mini"
  pricing := ⟨1, 2⟩
  classify _ :=
    .ok ⟨⟨isRelevant, .technical, 9 / 10, contextRequired, .technicalProblem⟩, ⟨20, 10⟩⟩

/-- What a handler is given when its adapter finds every text relevant. -/
def sampleSurroundings (fault : Option HandlerError) : Surroundings :=
  ⟨sampleTimestamps, 1, sampleAdapter true false, samplePostSource, none, 7, fault⟩

def sampleEnqueue (newId : UUID) : Event :=
  .enqueue ⟨1, -100, 40, "How do we deploy?", 0, none, none, none⟩ newId 0

/-- A job that fails once in stage 1 and for good while its chain is loaded. -/
theorem bounded_one_way_sample : ∃ t u : State,
    (u.commitsOf 5).length ≤ 20 ∧ (∀ row ∈ t.db.processingJobs, NeverBack row u) ∧
    t.db.processingJobs.rows.map (fun row => (row.status, row.nextAttemptAt)) =
      [(.retry, seconds 15)] ∧
    u.db.processingJobs.rows.map (fun row => row.status) = [.failed] ∧
    u.commits.map (fun c => (c.phase, c.error.isSome)) =
      [(.stage1, true), (.stage1, false), (.chainLoad, true)] := by
  have computed : (exec step anyEvent { db := {} }
      [sampleEnqueue 5, .claim .stage1 "a" 0,
        .finish 5 (sampleSurroundings (some { errorCode := "TimeoutError" }))]).bind
      (fun t => (exec step anyEvent t
        [.claim .stage1 "b" (seconds 14), .claim .stage1 "b" (seconds 15),
          .finish 5 (sampleSurroundings none), .claim .replyChain "c" (seconds 16), .crash 5,
          .claim .replyChain "c" (seconds 17),
          .finish 5 (sampleSurroundings (some { retryable := false, errorCode := "CHAT_LOST" })),
          .claim .replyChain "c" (seconds 18), .claim .stage1 "a" (seconds 18)]).map
        (fun u => (t.db.processingJobs.rows.map (fun row => (row.status, row.nextAttemptAt)),
          u.db.processingJobs.rows.map (fun row => row.status),
          u.commits.map (fun c => (c.phase, c.error.isSome))))) =
      some ([(.retry, seconds 15)], [.failed],
        [(.stage1, true), (.stage1, false), (.chainLoad, true)]) := by
    decide +kernel
  rcases Option.bind_eq_some_iff.1 computed with ⟨t, first, second⟩
  rcases Option.map_eq_some_iff.1 second with ⟨u, ends, value⟩
  simp only [Prod.mk.injEq] at value
  have fresh : Unstarted { db := {} } :=
    ⟨fun row => Table.not_mem_empty row, fun iteration => Table.not_mem_empty iteration, rfl⟩
  have bounds := bounded_one_way fresh (Run.of_exec first) (Run.of_exec ends)
  exact ⟨t, u, (bounds.1 5).2, bounds.2, value.1, value.2.1, value.2.2⟩

end Runs

end LeadAssistant.Pipeline
