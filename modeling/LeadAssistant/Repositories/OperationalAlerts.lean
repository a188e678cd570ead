/-
Module: LeadAssistant.Repositories.OperationalAlerts
Layer: Repositories
Purpose: `OperationalAlertRepository` (`operational_alerts.py`): the alerts of the operator, each
  with a unique deduplication key, and the start of every condition that is failing now. The columns
  that the delivery of an alert writes are left out. `now` is `NOW()`; a moment after the year 9999
  has no `datetime`.
Trusted boundary: human-reviewed spec
Main exports: AlertCondition, OperationalAlert, AlertStore, failureKey, budgetKey, Observation,
  enqueueBudgetThresholds, observeCondition, observeCondition_cases, enqueueBudgetThresholds_spec
-/
import LeadAssistant.Library.Calendar
import LeadAssistant.Library.Decimal
import LeadAssistant.Library.Fallible
import LeadAssistant.Repositories.Jobs

namespace LeadAssistant

open Relational

/-- Durable start time for a currently failing monitored condition. -/
structure AlertCondition where
  conditionKey : String
  failingSince : Time
  updatedAt : Time
deriving Repr, DecidableEq

/-- Content-free, idempotent operator alert delivery record. -/
structure OperationalAlert where
  deduplicationKey : String
  alertType : String
  details : List (String × String)
  operatorTelegramUserId : Int
  createdAt : Time
deriving Repr, DecidableEq

/-- The column limits of `operational_alerts`; JSONB stores no NUL character. -/
def OperationalAlert.storable (alert : OperationalAlert) : Bool :=
  fitsVarchar 160 alert.deduplicationKey && fitsVarchar 50 alert.alertType &&
    alert.details.all (fun detail => fitsText detail.1 && fitsText detail.2) &&
    -2 ^ 63 ≤ alert.operatorTelegramUserId && alert.operatorTelegramUserId < 2 ^ 63

/-- The two tables that detect and deduplicate. -/
structure AlertStore where
  conditions : Table AlertCondition.conditionKey := ∅
  alerts : Table OperationalAlert.deduplicationKey := ∅

/-- The arguments of one `observe_condition` call, and its `NOW()`. -/
structure Observation where
  conditionKey : String
  failing : Bool
  threshold : Int
  alertType : String
  operatorUserId : Int
  details : List (String × String) := []
  now : Time

namespace OperationalAlertRepository

/-- `f"failure:{condition_key}:{episode}"`. -/
def failureKey (conditionKey : String) (failingSince : Time) : String :=
  "failure:" ++ conditionKey ++ ":" ++ Calendar.isoformat failingSince

/-- `f"budget:{month_key}:{threshold}"`. -/
def budgetKey (monthKey : String) (threshold : Decimal) : String :=
  "budget:" ++ monthKey ++ ":" ++ threshold.str

/-- The alert of a condition that has been failing since the given time. -/
def failureAlert (o : Observation) (failingSince : Time) : OperationalAlert where
  deduplicationKey := failureKey o.conditionKey failingSince
  alertType := o.alertType
  details := o.details
  operatorTelegramUserId := o.operatorUserId
  createdAt := o.now

def budgetAlert (monthKey : String) (costUsd threshold : Decimal) (operatorUserId : Int)
    (now : Time) : OperationalAlert where
  deduplicationKey := budgetKey monthKey threshold
  alertType := "budget_threshold"
  details := [("threshold_usd", threshold.str), ("cost_usd", costUsd.str)]
  operatorTelegramUserId := operatorUserId
  createdAt := now

/-- `INSERT INTO operational_alerts ... ON CONFLICT DO NOTHING RETURNING id`. -/
def insertAlert (alert : OperationalAlert) (store : AlertStore) :
    Except HandlerError (Bool × AlertStore) :=
  if !alert.storable then .error .dataError
  else match store.alerts.insert? alert with
    | some alerts => .ok (true, { store with alerts := alerts })
    | none => .ok (false, store)

/-- One threshold of the loop: it is skipped while the cost is below it. -/
def enqueueThreshold (monthKey : String) (costUsd : Decimal) (operatorUserId : Int) (now : Time)
    (created : Nat × AlertStore) (threshold : Decimal) : Except HandlerError (Nat × AlertStore) :=
  if costUsd.value < threshold.value then .ok created
  else (insertAlert (budgetAlert monthKey costUsd threshold operatorUserId now) created.2).map
    (fun (inserted, store) => (created.1 + inserted.toNat, store))

/-- Enqueue each crossed monthly threshold exactly once. -/
def enqueueBudgetThresholds (monthKey : String) (costUsd : Decimal) (thresholds : List Decimal)
    (operatorUserId : Int) (now : Time) (store : AlertStore) :
    Except HandlerError (Nat × AlertStore) :=
  thresholds.foldlM (enqueueThreshold monthKey costUsd operatorUserId now) (0, store)

/-- What asyncpg raises for a moment without a `datetime`. -/
def overflowError : HandlerError := { errorCode := "OverflowError" }

/-- The row of a failing condition, after it is created or touched. -/
def touchCondition (conditionKey : String) (now : Time) (store : AlertStore) :
    Except HandlerError (AlertCondition × AlertStore) :=
  match store.conditions.get? conditionKey with
  | some state =>
      let state := { state with updatedAt := now }
      .ok (state, { store with conditions := store.conditions.put state })
  | none =>
      let state := AlertCondition.mk conditionKey now now
      if !fitsVarchar 100 conditionKey then .error .dataError
      else match store.conditions.insert? state with
        | some conditions => .ok (state, { store with conditions := conditions })
        | none => .error .integrityError

/-- Enqueue once after one continuous failure crosses its threshold. -/
def observeCondition (o : Observation) (store : AlertStore) :
    Except HandlerError (Bool × AlertStore) :=
  if !Calendar.representable o.now then .error overflowError
  else if !fitsText o.conditionKey then .error .dataError
  else if !o.failing then
    .ok (false, { store with conditions := store.conditions.erase o.conditionKey })
  else do
    let (state, touched) ← touchCondition o.conditionKey o.now store
    if o.now - state.failingSince < o.threshold then pure (false, touched)
    else insertAlert (failureAlert o state.failingSince) touched

/-! ### What the calls leave -/

section Specs

variable {o : Observation} {s u : AlertStore} {raised : Bool} {alert : OperationalAlert}
  {conditionKey : String} {now : Time}

/-- An insert adds the alert, or its key is taken. -/
theorem insertAlert_cases (inserted : insertAlert alert s = .ok (raised, u)) :
    u.conditions = s.conditions ∧
      (raised = true ∧ s.alerts.insert? alert = some u.alerts ∨
        raised = false ∧ u = s ∧ ∃ row ∈ s.alerts, row.deduplicationKey = alert.deduplicationKey) := by
  unfold insertAlert at inserted
  split at inserted
  · cases inserted
  · split at inserted
    · rename_i alerts accepted
      cases inserted
      exact ⟨rfl, Or.inl ⟨rfl, accepted⟩⟩
    · rename_i refused
      cases inserted
      exact ⟨rfl, Or.inr ⟨rfl, rfl, Table.insert?_eq_none_iff.1 refused⟩⟩

/-- Since when a condition is failing that fails at the given time. -/
def failingSince (s : AlertStore) (conditionKey : String) (now : Time) : Time :=
  ((s.conditions.get? conditionKey).map (fun state => state.failingSince)).getD now

theorem touchCondition_spec {state : AlertCondition}
    (touched : touchCondition conditionKey now s = .ok (state, u)) :
    state = ⟨conditionKey, failingSince s conditionKey now, now⟩ ∧ u.alerts = s.alerts ∧
      ∀ k, u.conditions.get? k = if k = conditionKey then some state else s.conditions.get? k := by
  unfold failingSince
  unfold touchCondition at touched
  split at touched
  · rename_i old found
    cases touched
    have key := Table.key_of_get? found
    have there : (s.conditions.get? old.conditionKey).isSome = true := by
      rw [key, found]
      rfl
    refine ⟨?_, rfl, fun k => ?_⟩
    · rw [found, ← key]
      rfl
    · rw [← key]
      exact Table.get?_put there
  · rename_i absent
    dsimp only at touched
    split at touched
    · cases touched
    · split at touched
      · rename_i conditions inserted
        cases touched
        rw [absent]
        exact ⟨rfl, rfl, fun k => Table.get?_insert? inserted⟩
      · cases touched

/-- An observation ends the failure of its condition, or it goes on with it; an alert is then
inserted once the failure has lasted for the threshold, unless its key is taken. -/
theorem observeCondition_cases (observed : observeCondition o s = .ok (raised, u)) :
    Calendar.representable o.now = true ∧
      (o.failing = false ∧ raised = false ∧
          u = { s with conditions := s.conditions.erase o.conditionKey } ∨
        o.failing = true ∧
          (∀ k, u.conditions.get? k = if k = o.conditionKey then
            some ⟨o.conditionKey, failingSince s o.conditionKey o.now, o.now⟩
            else s.conditions.get? k) ∧
          (o.now - failingSince s o.conditionKey o.now < o.threshold ∧ raised = false ∧
              u.alerts = s.alerts ∨
            o.threshold ≤ o.now - failingSince s o.conditionKey o.now ∧
              (raised = true ∧ s.alerts.insert?
                  (failureAlert o (failingSince s o.conditionKey o.now)) = some u.alerts ∨
                raised = false ∧ u.alerts = s.alerts ∧ ∃ row ∈ s.alerts, row.deduplicationKey =
                  failureKey o.conditionKey (failingSince s o.conditionKey o.now)))) := by
  unfold observeCondition at observed
  split at observed
  · cases observed
  · rename_i representable
    refine ⟨by simpa using representable, ?_⟩
    split at observed
    · cases observed
    · split at observed
      · rename_i succeeded
        cases observed
        exact Or.inl ⟨by simpa using succeeded, rfl, rfl⟩
      · rename_i failed
        rcases Except.bind_eq_ok_iff.1 observed with ⟨⟨state, touched⟩, touching, observed⟩
        rcases touchCondition_spec touching with ⟨rfl, alerts, conditions⟩
        refine Or.inr ⟨by simpa using failed, ?_⟩
        dsimp only at observed
        split at observed
        · rename_i early
          cases observed
          exact ⟨conditions, Or.inl ⟨early, rfl, alerts⟩⟩
        · rename_i late
          have late : o.threshold ≤ o.now - failingSince s o.conditionKey o.now := Int.not_lt.1 late
          rcases insertAlert_cases observed with ⟨same, ⟨rfl, inserted⟩ | ⟨rfl, rfl, taken⟩⟩
          · rw [alerts] at inserted
            refine ⟨fun k => ?_, Or.inr ⟨late, Or.inl ⟨rfl, inserted⟩⟩⟩
            rw [same]
            exact conditions k
          · rw [alerts] at taken
            exact ⟨conditions, Or.inr ⟨late, Or.inr ⟨rfl, alerts, taken⟩⟩⟩

/-- An observation keeps every alert, and creates one of its condition at most. -/
theorem observeCondition_alerts (observed : observeCondition o s = .ok (raised, u)) :
    (∀ row ∈ s.alerts, row ∈ u.alerts) ∧ ∀ row ∈ u.alerts, row ∈ s.alerts ∨
      ∃ since, row.deduplicationKey = failureKey o.conditionKey since := by
  rcases observeCondition_cases observed with ⟨_, ⟨_, _, rfl⟩ | ⟨_, _, alerts⟩⟩
  · exact ⟨fun _ held => held, fun _ held => Or.inl held⟩
  · rcases alerts with ⟨_, _, unchanged⟩ | ⟨_, ⟨_, inserted⟩ | ⟨_, unchanged, _⟩⟩
    · rw [unchanged]
      exact ⟨fun _ held => held, fun _ held => Or.inl held⟩
    · have members := @Table.mem_insert? _ _ _ _ _ _ _ inserted
      refine ⟨fun row held => members.2 (Or.inl held), fun row held => ?_⟩
      rcases members.1 held with old | rfl
      · exact Or.inl old
      · exact Or.inr ⟨_, rfl⟩
    · rw [unchanged]
      exact ⟨fun _ held => held, fun _ held => Or.inl held⟩

/-- The loop inserts an alert of each threshold that is reached, unless its key is taken. -/
theorem enqueueBudgetThresholds_spec {monthKey : String} {costUsd : Decimal}
    {thresholds : List Decimal} {operatorUserId : Int} {created n : Nat}
    (enqueued : thresholds.foldlM (enqueueThreshold monthKey costUsd operatorUserId now)
      (created, s) = .ok (n, u)) :
    u.conditions = s.conditions ∧ (∀ row ∈ s.alerts, row ∈ u.alerts) ∧
      (∀ row ∈ u.alerts, row ∈ s.alerts ∨ ∃ threshold ∈ thresholds,
        threshold.value ≤ costUsd.value ∧ row.deduplicationKey = budgetKey monthKey threshold) ∧
      ∀ threshold ∈ thresholds, threshold.value ≤ costUsd.value →
        ∃ row ∈ u.alerts, row.deduplicationKey = budgetKey monthKey threshold := by
  induction thresholds generalizing created s with
  | nil =>
      cases enqueued
      exact ⟨rfl, fun _ held => held, fun _ held => Or.inl held,
        fun _ held => absurd held List.not_mem_nil⟩
  | cons first thresholds ih =>
      rw [List.foldlM_cons, Except.bind_eq_ok_iff] at enqueued
      rcases enqueued with ⟨⟨m, t⟩, one, rest⟩
      rcases ih rest with ⟨conditions, kept, from_calls, each⟩
      have step : t.conditions = s.conditions ∧ (∀ row ∈ s.alerts, row ∈ t.alerts) ∧
          (∀ row ∈ t.alerts, row ∈ s.alerts ∨ first.value ≤ costUsd.value ∧
            row.deduplicationKey = budgetKey monthKey first) ∧
          (first.value ≤ costUsd.value →
            ∃ row ∈ t.alerts, row.deduplicationKey = budgetKey monthKey first) := by
        unfold enqueueThreshold at one
        split at one
        · rename_i below
          cases one
          exact ⟨rfl, fun _ held => held, fun _ held => Or.inl held,
            fun reached => absurd below (not_lt.2 reached)⟩
        · rename_i reached
          have reached : first.value ≤ costUsd.value := not_lt.1 reached
          rcases Except.map_eq_ok_iff.1 one with ⟨⟨inserted, v⟩, inserting, same⟩
          cases same
          rcases insertAlert_cases inserting with ⟨same, ⟨_, accepted⟩ | ⟨_, rfl, taken⟩⟩
          · have members := @Table.mem_insert? _ _ _ _ _ _ _ accepted
            refine ⟨same, fun row held => members.2 (Or.inl held), fun row held => ?_,
              fun _ => ⟨_, members.2 (Or.inr rfl), rfl⟩⟩
            rcases members.1 held with old | rfl
            · exact Or.inl old
            · exact Or.inr ⟨reached, rfl⟩
          · exact ⟨rfl, fun _ held => held, fun _ held => Or.inl held, fun _ => taken⟩
      rcases step with ⟨conditions', kept', from_call, own⟩
      refine ⟨conditions.trans conditions', fun row held => kept row (kept' row held), ?_, ?_⟩
      · intro row held
        rcases from_calls row held with before | ⟨threshold, listed, reached, same⟩
        · rcases from_call row before with old | ⟨reached, same⟩
          · exact Or.inl old
          · exact Or.inr ⟨first, List.mem_cons_self, reached, same⟩
        · exact Or.inr ⟨threshold, List.mem_cons_of_mem _ listed, reached, same⟩
      · intro threshold listed reached
        rcases List.mem_cons.1 listed with rfl | later
        · rcases own reached with ⟨row, held, same⟩
          exact ⟨row, kept row held, same⟩
        · exact each threshold later reached

end Specs

/-! ### Deduplication keys -/

section Keys

variable {key key' : String} {a b : Time} {d e : Decimal}

/-- A text before the last parts of a key, which are told apart by the number of their colons. -/
theorem append_colon_inj {m m' x y pre : String} (count : x.toList.count ':' = y.toList.count ':')
    (same : pre ++ m ++ ":" ++ x = pre ++ m' ++ ":" ++ y) : m = m' ∧ x = y := by
  have texts := congrArg String.toList same
  simp only [String.toList_append, List.append_assoc] at texts
  rcases Numeral.append_cons_inj_of_count count (List.append_cancel_left texts) with
    ⟨before, after⟩
  exact ⟨String.toList_inj.1 before, String.toList_inj.1 after⟩

/-- The key of a failure determines the condition, and how the start of the failure is written. -/
theorem failureKey_parts (same : failureKey key a = failureKey key' b) :
    key = key' ∧ Calendar.isoformat a = Calendar.isoformat b :=
  append_colon_inj (Calendar.count_colon_isoformat.trans Calendar.count_colon_isoformat.symm) same

theorem failureKey_inj (valid : Calendar.representable a = true)
    (valid' : Calendar.representable b = true) (same : failureKey key a = failureKey key' b) :
    key = key' ∧ a = b :=
  ⟨(failureKey_parts same).1, Calendar.isoformat_inj valid valid' (failureKey_parts same).2⟩

/-- The key of a threshold determines the month, and how the threshold is written. -/
theorem budgetKey_inj (same : budgetKey key d = budgetKey key' e) : key = key' ∧ d.str = e.str :=
  append_colon_inj (Decimal.count_colon_str.trans Decimal.count_colon_str.symm) same

theorem failureKey_ne_budgetKey : failureKey key a ≠ budgetKey key' d := by
  intro same
  have texts := congrArg String.toList same
  unfold failureKey budgetKey at texts
  simp only [String.toList_append, List.append_assoc] at texts
  have first : some 'f' = some 'b' := congrArg List.head? texts
  cases first

end Keys

end OperationalAlertRepository

end LeadAssistant
