/-
Module: LeadAssistant.Bot.OperationalAlerts
Layer: Bot
Purpose: `OperationalAlertWorker` (`bot/operational_alerts.py`): any number of workers, each of which
  claims one alert in a transaction, sends it and settles its row by the answer. A transaction may
  be rolled back at any point, and Telegram may accept a message without the worker hearing of it.
  The system refines the general one of items delivered by calls.
Trusted boundary: human-reviewed spec
Main exports: AlertRow, OperationalAlertWorker.settle, AlertDelivery, AlertDelivery.step,
  AlertDelivery.refines, AlertDelivery.Consistent, AlertDelivery.Accounted,
  AlertDelivery.accounted_of_run
-/
import LeadAssistant.Database.Worker
import LeadAssistant.Library.Outbox
import LeadAssistant.Library.Transition
import LeadAssistant.Repositories.OperationalAlerts

namespace LeadAssistant

open Relational Transition

/-- `status_valid` of `operational_alerts`. -/
inductive AlertStatus where
  | pending | sending | retry | sent | failed
deriving Repr, DecidableEq

/-- An alert with the columns that its delivery writes. -/
structure AlertRow extends OperationalAlert where
  id : UUID
  status : AlertStatus
  attemptCount : Nat
  nextAttemptAt : Time
  sentAt : Option Time
  lastError : Option String
  updatedAt : Time
deriving Repr, DecidableEq

/-- The row of a new alert, with the defaults of its columns. -/
def newAlertRow (id : UUID) (alert : OperationalAlert) : AlertRow :=
  { alert with
    id := id, status := .pending, attemptCount := 0, nextAttemptAt := alert.createdAt,
    sentAt := none, lastError := none, updatedAt := alert.createdAt }

/-- What `send_message` answers; an exception is given by the name of its class. -/
inductive AlertAnswer where
  | returned
  | raised (name : String)
deriving Repr, DecidableEq

namespace OperationalAlertWorker

/-- The rows that a worker may take. -/
def claimable (operatorUserId : Int) (locked : UUID → Bool) (now : Time) (alert : AlertRow) : Bool :=
  (alert.status = .pending || alert.status = .retry) && alert.nextAttemptAt ≤ now &&
    alert.operatorTelegramUserId = operatorUserId && !locked alert.id

/-- The row as its transaction changes it before the call. -/
def claimed (now : Time) (alert : AlertRow) : AlertRow :=
  { alert with
    status := .sending, attemptCount := alert.attemptCount + 1, lastError := none,
    updatedAt := now }

/-- The rest of `run_once`, after the call. -/
def settle (policy : RetryPolicy) (now : Time) (alert : AlertRow) :
    AlertAnswer → Except HandlerError AlertRow
  | .returned => .ok { alert with status := .sent, sentAt := some now, updatedAt := now }
  | .raised name => do
      let delay ← policy.delayAfterAttempt alert.attemptCount
      let alert := { alert with lastError := some (clipped name) }
      match delay with
      | none => pure { alert with status := .failed }
      | some delay => pure { alert with status := .retry, nextAttemptAt := now + delay }

end OperationalAlertWorker

/-- An open iteration, with whether Telegram accepted the message and what the call answered. A call
that returned was accepted. -/
structure Sending where
  alertId : UUID
  startedAt : Time
  answer : Option (Bool × AlertAnswer)
deriving Repr, DecidableEq

/-- The alerts, the clock, the open iterations, and for each alert the calls made, the messages
accepted, those settled as failures, and the calls and messages that were rolled back, which nothing
reads. -/
structure AlertDelivery where
  alerts : Table AlertRow.id := ∅
  clock : Time
  opened : Table Sending.alertId := ∅
  calls : UUID → Nat := fun _ => 0
  accepted : UUID → Nat := fun _ => 0
  unacknowledged : UUID → Nat := fun _ => 0
  dropped : UUID → Nat := fun _ => 0
  lost : UUID → Nat := fun _ => 0

inductive AlertEvent where
  | tick (now : Time)
  /-- Maintenance inserts an alert, unless its deduplication key is taken. -/
  | enqueue (id : UUID) (alert : OperationalAlert)
  | claim
  | answer (id : UUID) (accepted : Bool) (answer : AlertAnswer)
  | commit (id : UUID)
  | rollback (id : UUID)

namespace AlertDelivery

variable (policy : RetryPolicy) (operatorUserId : Int)

/-- An open iteration has locked the row. -/
def locked (s : AlertDelivery) (id : UUID) : Bool := (s.opened.get? id).isSome

/-- One step of maintenance, of a worker or of the clock. -/
def step (s : AlertDelivery) : AlertEvent → Option AlertDelivery
  | .tick now => if s.clock ≤ now then some { s with clock := now } else none
  | .enqueue id alert =>
      if s.alerts.rows.any (fun row => row.deduplicationKey = alert.deduplicationKey) then some s
      else (s.alerts.insert? (newAlertRow id alert)).map (fun alerts => { s with alerts := alerts })
  | .claim =>
      match s.alerts.firstBy (OperationalAlertWorker.claimable operatorUserId s.locked s.clock)
          (fun alert => toLex (alert.nextAttemptAt, alert.createdAt)) with
      | none => some s
      | some alert =>
          (s.opened.insert? ⟨alert.id, s.clock, none⟩).map (fun opened => { s with opened := opened })
  | .answer id accepted answer =>
      if answer = .returned ∧ accepted = false then none
      else
        match s.opened.get? id with
        | some ⟨_, startedAt, none⟩ => some { s with
            opened := s.opened.put ⟨id, startedAt, some (accepted, answer)⟩
            calls := Outbox.bump s.calls id 1
            accepted := Outbox.bump s.accepted id accepted.toNat }
        | _ => none
  | .commit id =>
      match s.opened.get? id, s.alerts.get? id with
      | some ⟨_, startedAt, some (accepted, answer)⟩, some alert =>
          match OperationalAlertWorker.settle policy startedAt
              (OperationalAlertWorker.claimed startedAt alert) answer with
          | .error _ => none
          | .ok settled => some { s with
              alerts := s.alerts.put settled
              opened := s.opened.erase id
              unacknowledged := if answer = .returned then s.unacknowledged
                else Outbox.bump s.unacknowledged id accepted.toNat }
      | _, _ => none
  | .rollback id =>
      match s.opened.get? id with
      | some ⟨_, _, none⟩ => some { s with opened := s.opened.erase id }
      | some ⟨_, _, some (accepted, _)⟩ => some { s with
          opened := s.opened.erase id
          dropped := Outbox.bump s.dropped id 1
          lost := Outbox.bump s.lost id accepted.toNat }
      | none => none

/-! ### The system as an outbox -/

/-- A row in the abstract, by its status and the attempts it counts. -/
def status (row : AlertRow) : Outbox.Status :=
  match row.status with
  | .pending | .sending | .retry => .waiting row.attemptCount
  | .sent => .delivered (row.attemptCount - 1)
  | .failed => .givenUp

def stage (sending : Sending) : Outbox.Stage :=
  match sending.answer with
  | none => .claimed
  | some (accepted, answer) => .answered accepted (answer = .returned)

/-- What the system is in the abstract. -/
def outbox (s : AlertDelivery) : Outbox.State UUID where
  status id := (s.alerts.get? id).map status
  opened id := (s.opened.get? id).map stage
  calls := s.calls
  accepted := s.accepted
  unacknowledged := s.unacknowledged
  dropped := s.dropped
  lost := s.lost

variable {policy operatorUserId} {s t : AlertDelivery} {e : AlertEvent} {es : List AlertEvent}

theorem map_update {κ ρ α : Type} [DecidableEq κ] {f g : κ → Option ρ} {k : κ} {row : Option ρ}
    {h : ρ → α} (changed : ∀ other, f other = if other = k then row else g other) :
    (fun other => (f other).map h) = Function.update (fun other => (g other).map h) k
      (row.map h) := by
  funext other
  rw [Function.update_apply, changed]
  split <;> rfl

/-- What a settled row is in the abstract. -/
theorem settle_spec {now : Time} {alert settled : AlertRow} {answer : AlertAnswer}
    (ended : OperationalAlertWorker.settle policy now
      (OperationalAlertWorker.claimed now alert) answer = .ok settled) :
    settled.id = alert.id ∧ status settled =
      if answer = .returned then .delivered alert.attemptCount
      else .afterFailure policy.delaysSeconds.length alert.attemptCount := by
  cases answer with
  | returned =>
      cases ended
      exact ⟨rfl, rfl⟩
  | raised name =>
      unfold OperationalAlertWorker.settle RetryPolicy.delayAfterAttempt at ended
      simp only [OperationalAlertWorker.claimed, Nat.add_one_sub_one,
        Nat.not_lt.2 (Nat.le_add_left 1 _), if_false] at ended
      rw [if_neg (by simp)]
      unfold Outbox.Status.afterFailure
      by_cases again : alert.attemptCount < policy.delaysSeconds.length
      · rw [List.getElem?_eq_getElem again] at ended
        cases ended
        exact ⟨rfl, (if_pos again).symm⟩
      · rw [List.getElem?_eq_none (Nat.le_of_not_lt again)] at ended
        cases ended
        exact ⟨rfl, (if_neg again).symm⟩

/-- A row that waits in the abstract and is claimed waits with the attempts it counts. -/
theorem status_of_claimable {locked : UUID → Bool} {now : Time} {alert : AlertRow}
    (chosen : OperationalAlertWorker.claimable operatorUserId locked now alert = true) :
    status alert = .waiting alert.attemptCount ∧ locked alert.id = false := by
  simp only [OperationalAlertWorker.claimable, Bool.and_eq_true, Bool.or_eq_true,
    decide_eq_true_eq, Bool.not_eq_true'] at chosen
  obtain ⟨⟨⟨waiting, -⟩, -⟩, free⟩ := chosen
  unfold status
  rcases waiting with same | same <;> rw [same] <;> exact ⟨rfl, free⟩

theorem failures_of_waiting {alert : AlertRow} {failures : Nat}
    (waiting : status alert = .waiting failures) : failures = alert.attemptCount := by
  unfold status at waiting
  split at waiting <;> cases waiting <;> rfl

/-! ### One step of the outbox for each event -/

/-- The step leaves the outbox as it was, or is one of the outbox. -/
def Refines (policy : RetryPolicy) (s t : AlertDelivery) : Prop :=
  t.outbox = s.outbox ∨ Outbox.Step policy.delaysSeconds.length s.outbox t.outbox

theorem refines_enqueue {id : UUID} {alert : OperationalAlert}
    (next : step policy operatorUserId s (.enqueue id alert) = some t) : Refines policy s t := by
  simp only [step] at next
  split at next
  · cases next
    exact Or.inl rfl
  · obtain ⟨alerts, inserted, rfl⟩ := Option.map_eq_some_iff.1 next
    have new : s.alerts.get? id = none :=
      Table.get?_eq_none_iff.2 (Table.fresh_of_insert? inserted)
    have changed := @map_update _ _ _ _ alerts.get? s.alerts.get? id _ status
      (fun other => Table.get?_insert? inserted)
    have added := @Outbox.Step.add _ _ policy.delaysSeconds.length s.outbox id
      (by simp [outbox, new])
    have same : ({ s with alerts := alerts } : AlertDelivery).outbox = { s.outbox with
        status := Function.update s.outbox.status id (some (.waiting 0)) } := by
      simp only [outbox, changed]
      rfl
    right
    rw [same]
    exact added

theorem refines_claim (next : step policy operatorUserId s .claim = some t) : Refines policy s t := by
  simp only [step] at next
  split at next
  · cases next
    exact Or.inl rfl
  · rename_i alert chosen
    obtain ⟨opened, inserted, rfl⟩ := Option.map_eq_some_iff.1 next
    obtain ⟨held, claimable⟩ := Table.mem_of_firstBy chosen
    obtain ⟨waiting, free⟩ := status_of_claimable claimable
    have changed := @map_update _ _ _ _ opened.get? s.opened.get? alert.id _ stage
      (fun other => Table.get?_insert? inserted)
    have claimed := @Outbox.Step.claim _ _ policy.delaysSeconds.length s.outbox
      alert.id alert.attemptCount (by simp [outbox, Table.get?_of_mem held, waiting])
      (by simpa [outbox, locked] using free)
    have same : ({ s with opened := opened } : AlertDelivery).outbox = { s.outbox with
        opened := Function.update s.outbox.opened alert.id (some .claimed) } := by
      simp only [outbox, changed]
      rfl
    right
    rw [same]
    exact claimed

theorem refines_answer {id : UUID} {accepted : Bool} {answer : AlertAnswer}
    (next : step policy operatorUserId s (.answer id accepted answer) = some t) :
    Refines policy s t := by
  simp only [step] at next
  split at next
  · simp at next
  · rename_i honest
    split at next
    · rename_i alertId startedAt found
      cases Table.key_of_get? found
      cases next
      have changed := @map_update _ _ _ _ (s.opened.put _).get? s.opened.get? _ _ stage
        (fun other => @Table.get?_put _ _ _ _ s.opened ⟨_, startedAt, some (accepted, answer)⟩
          other (Option.isSome_of_eq_some found))
      right
      refine cast ?_ (@Outbox.Step.answer _ _ policy.delaysSeconds.length s.outbox alertId accepted
        (answer = .returned) (by simp [outbox, found, stage]) ?_)
      · congr 1
        simp only [outbox, changed]
        rfl
      · intro returned
        rw [decide_eq_true_eq] at returned
        simpa [returned] using honest
    · simp at next

theorem refines_commit {id : UUID} (sound : Outbox.Sound policy.delaysSeconds.length s.outbox)
    (next : step policy operatorUserId s (.commit id) = some t) : Refines policy s t := by
  simp only [step] at next
  split at next
  · rename_i alertId startedAt accepted answer alert found row
    cases Table.key_of_get? found
    split at next
    · simp at next
    · rename_i settled ended
      cases next
      obtain ⟨same, after⟩ := settle_spec ended
      have own := Table.key_of_get? row
      simp only at own row
      have answered : s.outbox.opened alertId =
          some (.answered accepted (answer = .returned)) := by
        simp [outbox, found, stage]
      have waiting : s.outbox.status alertId = some (.waiting alert.attemptCount) := by
        obtain ⟨failures, waits⟩ := (sound alertId).known (Option.isSome_of_eq_some answered)
        simp only [outbox, row, Option.map_some, Option.some.injEq] at waits ⊢
        exact waits.trans (congrArg Outbox.Status.waiting (failures_of_waiting waits))
      have closed := @map_update _ _ _ _ (s.opened.erase alertId).get? s.opened.get? alertId _
        stage (fun other => Table.get?_erase)
      have written := @map_update _ _ _ _ (s.alerts.put settled).get? s.alerts.get? alertId _
        status (fun other => by
          rw [Table.get?_put (by rw [same, own, row]; rfl), same, own])
      rw [Option.map_some, after] at written
      right
      cases answer with
      | returned =>
          refine cast ?_ (@Outbox.Step.succeed _ _ policy.delaysSeconds.length s.outbox alertId
            alert.attemptCount accepted waiting answered)
          congr 1
          simp only [outbox, closed, written, if_true]
          rfl
      | raised name =>
          refine cast ?_ (@Outbox.Step.fail _ _ policy.delaysSeconds.length s.outbox alertId
            alert.attemptCount accepted waiting answered)
          congr 1
          simp only [outbox, closed, written, reduceCtorEq, if_false]
          rfl
  · simp at next

theorem refines_rollback {id : UUID} (next : step policy operatorUserId s (.rollback id) = some t) :
    Refines policy s t := by
  simp only [step] at next
  split at next
  · rename_i alertId startedAt found
    cases Table.key_of_get? found
    cases next
    have changed := @map_update _ _ _ _ (s.opened.erase alertId).get? s.opened.get? alertId _
      stage (fun other => Table.get?_erase)
    right
    refine cast ?_ (@Outbox.Step.release _ _ policy.delaysSeconds.length s.outbox alertId
      (by simp [outbox, found, stage]))
    congr 1
    simp only [outbox, changed]
    rfl
  · rename_i alertId startedAt accepted answer found
    cases Table.key_of_get? found
    cases next
    have changed := @map_update _ _ _ _ (s.opened.erase alertId).get? s.opened.get? alertId _
      stage (fun other => Table.get?_erase)
    right
    refine cast ?_ (@Outbox.Step.abandon _ _ policy.delaysSeconds.length s.outbox alertId accepted
      (answer = .returned) (by simp [outbox, found, stage]))
    congr 1
    simp only [outbox, changed]
    rfl
  · simp at next

/-- Every step of the system is a step of the outbox, or leaves the outbox as it was. -/
theorem refines (sound : Outbox.Sound policy.delaysSeconds.length s.outbox)
    (next : step policy operatorUserId s e = some t) : Refines policy s t := by
  cases e with
  | tick now =>
      simp only [step] at next
      split at next
      · cases next
        exact Or.inl rfl
      · simp at next
  | enqueue id alert => exact refines_enqueue next
  | claim => exact refines_claim next
  | answer id accepted answer => exact refines_answer next
  | commit id => exact refines_commit sound next
  | rollback id => exact refines_rollback next

/-! ### The rows -/

/-- The columns of a committed row agree: the status with the attempts counted, the delivery with
its time, and a failure with its error. -/
structure Consistent (limit : Nat) (row : AlertRow) : Prop where
  settled : row.status ≠ .sending
  pending : row.status = .pending ↔ row.attemptCount = 0
  retried : row.status = .retry → row.attemptCount ≤ limit
  bounded : row.attemptCount ≤ limit + 1
  failed : row.status = .failed → row.attemptCount = limit + 1
  delivered : row.status = .sent ↔ row.sentAt.isSome
  error : row.lastError.isSome ↔ row.status = .retry ∨ row.status = .failed

theorem consistent_newAlertRow (limit : Nat) (id : UUID) (alert : OperationalAlert) :
    Consistent limit (newAlertRow id alert) := by
  constructor <;> simp [newAlertRow]

/-- A row that was taken and settled is consistent again. -/
theorem Consistent.settle {now : Time} {alert settled : AlertRow} {answer : AlertAnswer}
    (before : Consistent policy.delaysSeconds.length alert)
    (waiting : alert.status = .pending ∨ alert.status = .retry)
    (ended : OperationalAlertWorker.settle policy now
      (OperationalAlertWorker.claimed now alert) answer = .ok settled) :
    Consistent policy.delaysSeconds.length settled := by
  have unsent : alert.sentAt = none := by
    rw [← Option.not_isSome_iff_eq_none, ← before.delivered]
    rcases waiting with same | same <;> rw [same] <;> simp
  have few : alert.attemptCount ≤ policy.delaysSeconds.length := by
    rcases waiting with same | same
    · rw [before.pending.1 same]
      exact Nat.zero_le _
    · exact before.retried same
  cases answer with
  | returned =>
      cases ended
      constructor <;> simp [OperationalAlertWorker.claimed, few]
  | raised name =>
      unfold OperationalAlertWorker.settle RetryPolicy.delayAfterAttempt at ended
      simp only [OperationalAlertWorker.claimed, Nat.add_one_sub_one,
        Nat.not_lt.2 (Nat.le_add_left 1 _), if_false] at ended
      by_cases again : alert.attemptCount < policy.delaysSeconds.length
      · rw [List.getElem?_eq_getElem again] at ended
        cases ended
        constructor <;> simp [unsent] <;> omega
      · rw [List.getElem?_eq_none (Nat.le_of_not_lt again)] at ended
        cases ended
        constructor <;> simp [unsent] <;> omega

/-- What every run keeps. -/
structure Invariant (limit : Nat) (s : AlertDelivery) : Prop where
  sound : Outbox.Sound limit s.outbox
  rows : ∀ row ∈ s.alerts, Consistent limit row

/-- A row whose iteration is open waits. -/
theorem Invariant.waiting {limit : Nat} (inv : Invariant limit s) {sending : Sending} {id : UUID}
    {alert : AlertRow} (found : s.opened.get? id = some sending)
    (row : s.alerts.get? id = some alert) : alert.status = .pending ∨ alert.status = .retry := by
  have settled := (inv.rows alert (Table.mem_of_get? row)).settled
  obtain ⟨failures, waits⟩ := (inv.sound id).known (by simp [outbox, found])
  simp only [outbox, row, Option.map_some, Option.some.injEq] at waits
  unfold status at waits
  cases same : alert.status <;> rw [same] at waits settled <;> simp_all

theorem Invariant.step (inv : Invariant policy.delaysSeconds.length s)
    (next : step policy operatorUserId s e = some t) : Invariant policy.delaysSeconds.length t := by
  refine ⟨?_, ?_⟩
  · rcases refines inv.sound next with same | moved
    · rw [same]
      exact inv.sound
    · exact moved.sound inv.sound
  · cases e with
    | tick now =>
        simp only [AlertDelivery.step] at next
        split at next
        · cases next
          exact inv.rows
        · simp at next
    | enqueue id alert =>
        simp only [AlertDelivery.step] at next
        split at next
        · cases next
          exact inv.rows
        · obtain ⟨alerts, inserted, rfl⟩ := Option.map_eq_some_iff.1 next
          intro row held
          rcases (Table.mem_insert? inserted).1 held with old | rfl
          · exact inv.rows row old
          · exact consistent_newAlertRow ..
    | claim =>
        simp only [AlertDelivery.step] at next
        split at next
        · cases next
          exact inv.rows
        · obtain ⟨opened, -, rfl⟩ := Option.map_eq_some_iff.1 next
          exact inv.rows
    | answer id accepted answer =>
        simp only [AlertDelivery.step] at next
        split at next
        · simp at next
        · split at next
          · cases next
            exact inv.rows
          · simp at next
    | commit id =>
        simp only [AlertDelivery.step] at next
        split at next
        · rename_i found row
          split at next
          · simp at next
          · rename_i settled ended
            cases next
            have known : (s.alerts.get? settled.id).isSome := by
              rw [(settle_spec ended).1, Table.key_of_get? row, row]
              rfl
            intro other held
            rcases (Table.mem_put known).1 held with ⟨old, -⟩ | rfl
            · exact inv.rows other old
            · exact (inv.rows _ (Table.mem_of_get? row)).settle (inv.waiting found row) ended
        · simp at next
    | rollback id =>
        simp only [AlertDelivery.step] at next
        split at next
        · cases next
          exact inv.rows
        · cases next
          exact inv.rows
        · simp at next

/-- The books of one alert: the calls made for it and the messages accepted. -/
structure Accounted (s : AlertDelivery) (row : AlertRow) : Prop where
  calls : s.calls row.id =
    row.attemptCount + s.dropped row.id + Outbox.openCalls ((s.opened.get? row.id).map stage)
  accepted : s.accepted row.id = (if row.status = .sent then 1 else 0) + s.unacknowledged row.id +
    s.lost row.id + Outbox.openAccepted ((s.opened.get? row.id).map stage)

/-- Whatever the workers, the database and Telegram do, every row is consistent and its calls and
messages are accounted for. -/
theorem accounted_of_run {clock : Time}
    (run : Run (AlertDelivery.step policy operatorUserId) anyEvent { clock := clock } es t)
    {row : AlertRow} (held : row ∈ t.alerts) :
    Consistent policy.delaysSeconds.length row ∧ Accounted t row := by
  have start : Invariant policy.delaysSeconds.length { clock := clock } := by
    refine ⟨fun id => ?_, fun row there => absurd there (Table.not_mem_empty row)⟩
    have unlisted : (∅ : Table AlertRow.id).get? id = none := rfl
    have closed : (∅ : Table Sending.alertId).get? id = none := rfl
    constructor <;> simp [outbox, unlisted, closed, Outbox.attempts, Outbox.deliveries,
      Outbox.openCalls, Outbox.openAccepted]
  have inv := run.invariant start (fun s e u inv _ next => Invariant.step inv next)
  have consistent := inv.rows row held
  have books := inv.sound row.id
  simp only [outbox, Table.get?_of_mem held, Option.map_some] at books
  refine ⟨consistent, ⟨?_, ?_⟩⟩
  · have calls := books.calls
    have counted : Outbox.attempts policy.delaysSeconds.length (some (status row)) =
        row.attemptCount := by
      unfold status
      cases same : row.status with
      | pending | sending | retry => rfl
      | sent =>
          have tried : row.attemptCount ≠ 0 := by
            rw [Ne, ← consistent.pending, same]
            simp
          simp only [Outbox.attempts]
          omega
      | failed => exact (consistent.failed same).symm
    rwa [counted] at calls
  · have accepted := books.accepted
    have delivered : Outbox.deliveries (some (status row)) = if row.status = .sent then 1 else 0 := by
      unfold status
      cases row.status <;> rfl
    rwa [delivered] at accepted

/-! ### A message that was accepted twice -/

def sampleAlert : OperationalAlert where
  deduplicationKey := "k"
  alertType := "queue_delayed"
  details := []
  operatorTelegramUserId := 7
  createdAt := 1

/-- The first call for the alert was accepted and answered with a timeout, the second returned. -/
def sampleEvents : List AlertEvent :=
  [.enqueue 4 sampleAlert, .claim, .answer 4 true (.raised "TimedOut"), .commit 4,
    .tick (1 + seconds 15), .claim, .answer 4 true .returned, .commit 4]

theorem accounted_sample : ∃ t row, row ∈ t.alerts ∧
    Run (step {} 7) anyEvent { clock := 1 } sampleEvents t ∧ row.status = .sent ∧
    t.accepted row.id = 2 ∧ Consistent 4 row ∧ Accounted t row := by
  have computed : ∃ t, Run (step {} 7) anyEvent { clock := 1 } sampleEvents t ∧
      t.alerts.rows.map (fun row => (row.status, t.accepted row.id)) = [(.sent, 2)] := by
    apply Run.exists_of_exec
    decide +kernel
  obtain ⟨t, run, rows⟩ := computed
  obtain ⟨row, held, ends⟩ := List.mem_map.1 (rows ▸ List.mem_singleton_self _)
  obtain ⟨sent, twice⟩ := Prod.mk.inj ends
  obtain ⟨consistent, books⟩ := accounted_of_run run held
  exact ⟨t, row, held, run, sent, twice, consistent, books⟩

end AlertDelivery

end LeadAssistant
