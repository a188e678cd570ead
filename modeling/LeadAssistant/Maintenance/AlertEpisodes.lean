/-
Module: LeadAssistant.Maintenance.AlertEpisodes
Layer: Maintenance
Purpose: The alerts of a history of calls. The observations of a condition fall into episodes, its
  maximal runs of consecutive failures, and each episode has at most one alert, at the observation
  that first comes as long after its start as its threshold. A budget threshold has one alert for
  each way in which it is written, so one alert exactly if it is always written alike.
Trusted boundary: human-reviewed spec
Main exports: AlertCall, step, episodesOf, alertOf, EpisodesAlerted, BudgetAlerted, WrittenAlike,
  Tracks, alerts_once_iff, MaintenanceScheduler.alertCalls
-/
import LeadAssistant.Library.Episodes
import LeadAssistant.Library.Transition
import LeadAssistant.Repositories.OperationalAlerts

namespace LeadAssistant.MaintenanceAlerts

open Relational Transition OperationalAlertRepository

/-- A call of the alert repository. -/
inductive AlertCall where
  | enqueueBudgetThresholds (monthKey : String) (costUsd : Decimal) (thresholds : List Decimal)
      (operatorUserId : Int) (now : Time)
  | observeCondition (o : Observation)

/-- The number of alerts a call creates, and what it leaves. -/
def AlertCall.perform (call : AlertCall) (store : AlertStore) :
    Except HandlerError (Nat × AlertStore) :=
  match call with
  | .enqueueBudgetThresholds monthKey costUsd thresholds operatorUserId now =>
      OperationalAlertRepository.enqueueBudgetThresholds monthKey costUsd thresholds operatorUserId
        now store
  | .observeCondition o =>
      (OperationalAlertRepository.observeCondition o store).map
        (fun (raised, store) => (raised.toNat, store))

/-- A call that returns. One that raises is rolled back with its transaction. -/
def step (store : AlertStore) (call : AlertCall) : Option AlertStore :=
  match call.perform store with
  | .ok (_, store) => some store
  | .error _ => none

/-- The observations of a history. -/
def observations (calls : List AlertCall) : List Observation :=
  calls.filterMap (fun call =>
    match call with
    | .observeCondition o => some o
    | .enqueueBudgetThresholds .. => none)

/-- The observations of one condition. -/
def observationsOf (key : String) (calls : List AlertCall) : List Observation :=
  (observations calls).filter (fun o => o.conditionKey = key)

/-- Its maximal runs of consecutive failing observations. -/
def episodesOf (key : String) (calls : List AlertCall) : List (List Observation) :=
  Episodes.of (fun o => o.failing) (observationsOf key calls)

/-- An observation comes at least its threshold after the first one of its episode. -/
def reaches (first o : Observation) : Bool := first.now + o.threshold ≤ o.now

/-- When an episode has started, as the given observation sees it. -/
def startOf (episode : List Observation) (o : Observation) : Time := (episode.head?.getD o).now

/-- The alert of an episode, at the first observation that reaches its threshold. -/
def alertOf (episode : List Observation) : Option OperationalAlert :=
  (Episodes.firstAfter reaches episode).map (fun o => failureAlert o (startOf episode o))

/-- An alert for a failure of a condition. -/
def FailureOf (key : String) (alert : OperationalAlert) : Prop :=
  ∃ since, Calendar.representable since = true ∧ alert.deduplicationKey = failureKey key since

/-- The alerts of a condition are those of its episodes, and no two episodes share one. -/
structure EpisodesAlerted (key : String) (calls : List AlertCall) (s : AlertStore) : Prop where
  alerts : ∀ row, (row ∈ s.alerts ∧ FailureOf key row) ↔
    row ∈ (episodesOf key calls).filterMap alertOf
  once : ((episodesOf key calls).filterMap alertOf).Nodup

/-- A threshold was reached by a reported cost of a month. -/
def Reached (calls : List AlertCall) (monthKey : String) (threshold : Decimal) : Prop :=
  ∃ costUsd thresholds operatorUserId now,
    .enqueueBudgetThresholds monthKey costUsd thresholds operatorUserId now ∈ calls ∧
    threshold ∈ thresholds ∧ threshold.value ≤ costUsd.value

/-- An alert for an amount and a month. -/
def BudgetAlertOf (monthKey : String) (amount : ℚ) (alert : OperationalAlert) : Prop :=
  ∃ threshold : Decimal, threshold.value = amount ∧
    alert.deduplicationKey = budgetKey monthKey threshold

/-- There is exactly one alert for each month and threshold that was reached, and no other. -/
structure BudgetAlerted (calls : List AlertCall) (s : AlertStore) : Prop where
  reached : ∀ monthKey threshold, Reached calls monthKey threshold →
    ∃! alert, alert ∈ s.alerts ∧ BudgetAlertOf monthKey threshold.value alert
  others : ∀ monthKey amount, ∀ alert ∈ s.alerts, BudgetAlertOf monthKey amount alert →
    ∃ threshold, Reached calls monthKey threshold ∧ threshold.value = amount

/-- Equal thresholds that a month has reached are written alike. -/
def WrittenAlike (calls : List AlertCall) : Prop :=
  ∀ monthKey d e, Reached calls monthKey d → Reached calls monthKey e → d.value = e.value →
    d.str = e.str

/-- Each condition is observed at strictly increasing times. -/
def Increasing (calls : List AlertCall) : Prop :=
  ∀ key, (observationsOf key calls).Pairwise (fun a b => a.now < b.now)

section Observing

variable {key : String} {calls : List AlertCall} {call : AlertCall} {o : Observation}
  {s u : AlertStore} {episode : List Observation} {row : OperationalAlert}

theorem observationsOf_append {later : List AlertCall} :
    observationsOf key (calls ++ later) = observationsOf key calls ++ observationsOf key later := by
  unfold observationsOf observations
  rw [List.filterMap_append, List.filter_append]

theorem observationsOf_snoc_own (own : o.conditionKey = key) :
    observationsOf key (calls ++ [.observeCondition o]) = observationsOf key calls ++ [o] := by
  rw [observationsOf_append]
  simp [observationsOf, observations, own]

theorem observationsOf_snoc_other (other : ∀ o, call = .observeCondition o → o.conditionKey ≠ key) :
    observationsOf key (calls ++ [call]) = observationsOf key calls := by
  rw [observationsOf_append]
  cases call with
  | enqueueBudgetThresholds => exact List.append_nil _
  | observeCondition o => simp [observationsOf, observations, other o rfl]

theorem conditionKey_of_mem (held : o ∈ observationsOf key calls) : o.conditionKey = key := by
  simpa using (List.mem_filter.1 held).2

/-- What the rows say of one condition: since when its last episode has lasted, and which of its
episodes have an alert. -/
structure Tracks (key : String) (calls : List AlertCall) (s : AlertStore) : Prop where
  open_episode : ∀ earlier current, episodesOf key calls = earlier ++ [current] →
    (s.conditions.get? key).map (fun state => state.failingSince) =
      current.head?.map (fun first => first.now)
  valid : ∀ o ∈ observationsOf key calls, Calendar.representable o.now = true
  alerted : EpisodesAlerted key calls s

/-- The alert of an episode names the condition and the start of the episode. -/
theorem alertOf_key (own : ∀ o ∈ episode, o.conditionKey = key) (found : alertOf episode = some row) :
    ∃ first, episode.head? = some first ∧ row.deduplicationKey = failureKey key first.now := by
  rcases Option.map_eq_some_iff.1 found with ⟨o, first, rfl⟩
  have held := Episodes.mem_of_firstAfter first
  cases episode with
  | nil => cases held
  | cons start rest =>
      refine ⟨start, rfl, ?_⟩
      show failureKey o.conditionKey start.now = _
      rw [own o held]

/-- One more failing observation gives an episode its alert when it has none yet. -/
theorem alertOf_snoc : alertOf (episode ++ [o]) = (alertOf episode).or
    (if reaches (episode.head?.getD o) o then some (failureAlert o (startOf episode o)) else none) := by
  have start : ∀ x, startOf (episode ++ [o]) x = (episode.head?.getD o).now := by
    intro x
    unfold startOf
    cases episode <;> rfl
  have start' : ∀ x, Episodes.firstAfter reaches episode = some x →
      startOf episode x = (episode.head?.getD o).now := by
    intro x found
    unfold startOf
    cases episode with
    | nil => cases found
    | cons => rfl
  unfold alertOf
  rw [Episodes.firstAfter_snoc]
  cases found : Episodes.firstAfter reaches episode with
  | some x =>
      simp only [Option.some_or, Option.map_some]
      rw [start, start' x found]
  | none =>
      simp only [Option.none_or, Option.map_none]
      split
      · rw [Option.map_some, start]
        rfl
      · rfl

/-- An episode holds observations of its condition. -/
theorem mem_of_episode (listed : episode ∈ episodesOf key calls) (held : o ∈ episode) :
    o ∈ observationsOf key calls := by
  have failing : o ∈ (observationsOf key calls).filter (fun o => o.failing) := by
    rw [← Episodes.flatten_of]
    exact List.mem_flatten.2 ⟨episode, listed, held⟩
  exact (List.mem_filter.1 failing).1

/-- Nothing of the condition has changed. -/
theorem EpisodesAlerted.kept {later : List AlertCall} (alerted : EpisodesAlerted key calls s)
    (same : (episodesOf key later).filterMap alertOf = (episodesOf key calls).filterMap alertOf)
    (rows : ∀ row, FailureOf key row → (row ∈ u.alerts ↔ row ∈ s.alerts)) :
    EpisodesAlerted key later u := by
  refine ⟨fun row => ?_, same ▸ alerted.once⟩
  rw [same, ← alerted.alerts row]
  exact and_congr_left (rows row)

/-- The last episode has been given an alert. -/
theorem EpisodesAlerted.raised {later : List AlertCall} (alerted : EpisodesAlerted key calls s)
    (more : (episodesOf key later).filterMap alertOf =
      (episodesOf key calls).filterMap alertOf ++ [row])
    (inserted : s.alerts.insert? row = some u.alerts) (own : FailureOf key row) :
    EpisodesAlerted key later u := by
  constructor
  · intro other
    rw [more, List.mem_append, List.mem_singleton, ← alerted.alerts other, Table.mem_insert? inserted]
    constructor
    · rintro ⟨old | rfl, failure⟩
      · exact Or.inl ⟨old, failure⟩
      · exact Or.inr rfl
    · rintro (⟨old, failure⟩ | rfl)
      · exact ⟨Or.inl old, failure⟩
      · exact ⟨Or.inr rfl, own⟩
  · have fresh : row ∉ (episodesOf key calls).filterMap alertOf := fun held =>
      Table.fresh_of_insert? inserted row ((alerted.alerts row).2 held).1 rfl
    rw [more]
    exact List.nodup_append.2 ⟨alerted.once, List.nodup_singleton row, fun a held b last same =>
      fresh (List.mem_singleton.1 last ▸ same ▸ held)⟩

/-- A success closes the last episode. -/
theorem Tracks.succeed (tracks : Tracks key calls s) (own : o.conditionKey = key)
    (succeeded : o.failing = false) (valid : Calendar.representable o.now = true) :
    Tracks key (calls ++ [.observeCondition o])
      { s with conditions := s.conditions.erase o.conditionKey } := by
  have episodes : episodesOf key (calls ++ [.observeCondition o]) = episodesOf key calls ++ [[]] := by
    unfold episodesOf
    rw [observationsOf_snoc_own own, Episodes.of_snoc_success succeeded]
  refine ⟨fun earlier current split => ?_, ?_, tracks.alerted.kept ?_ (fun _ _ => Iff.rfl)⟩
  · rw [episodes] at split
    rcases List.append_inj' split rfl with ⟨_, last⟩
    cases last
    dsimp only
    rw [Table.get?_erase, if_pos own.symm]
    rfl
  · rw [observationsOf_snoc_own own, List.forall_mem_append, List.forall_mem_singleton]
    exact ⟨tracks.valid, valid⟩
  · rw [episodes, List.filterMap_append]
    exact List.append_nil _

/-- A failing observation of a condition prolongs its last episode. -/
structure Prolongs (key : String) (calls : List AlertCall) (o : Observation)
    (earlier : List (List Observation)) (current : List Observation) : Prop where
  own : o.conditionKey = key
  before : episodesOf key calls = earlier ++ [current]
  after : episodesOf key (calls ++ [.observeCondition o]) = earlier ++ [current ++ [o]]

section Prolonging

variable {earlier : List (List Observation)} {current : List Observation}

theorem exists_prolongs (own : o.conditionKey = key) (failed : o.failing = true) :
    ∃ earlier current, Prolongs key calls o earlier current := by
  rcases @Episodes.of_snoc_failure _ (fun o => o.failing) (observationsOf key calls) o failed with
    ⟨earlier, current, before, after⟩
  refine ⟨earlier, current, own, before, ?_⟩
  unfold episodesOf
  rw [observationsOf_snoc_own own, after]

theorem startOf_snoc : (current ++ [o]).head?.map (fun first => first.now) =
    some (startOf current o) := by
  unfold startOf
  cases current <;> rfl

/-- The row of the condition remembers the start of its last episode. -/
theorem Prolongs.failingSince (prolongs : Prolongs key calls o earlier current)
    (tracks : Tracks key calls s) :
    OperationalAlertRepository.failingSince s key o.now = startOf current o := by
  unfold OperationalAlertRepository.failingSince startOf
  rw [tracks.open_episode earlier current prolongs.before]
  cases current <;> rfl

theorem Prolongs.start_valid (prolongs : Prolongs key calls o earlier current)
    (valid : ∀ x ∈ observationsOf key (calls ++ [.observeCondition o]),
      Calendar.representable x.now = true) :
    Calendar.representable (startOf current o) = true := by
  have started : current.head?.getD o ∈ current ++ [o] := by
    cases current with
    | nil => exact List.mem_cons_self
    | cons first rest => exact List.mem_cons_self
  have listed : current ++ [o] ∈ episodesOf key (calls ++ [.observeCondition o]) := by
    rw [prolongs.after]
    exact List.mem_append_right _ List.mem_cons_self
  exact valid _ (mem_of_episode listed started)

/-- No earlier episode holds an observation as late as the start of the last one. -/
theorem Prolongs.later (prolongs : Prolongs key calls o earlier current)
    (ordered : (observationsOf key (calls ++ [.observeCondition o])).Pairwise
      (fun a b => a.now < b.now)) :
    ∀ episode ∈ earlier, ∀ x ∈ episode, x.now < startOf current o := by
  intro episode listed x held
  have inner : ((episodesOf key (calls ++ [.observeCondition o])).flatten).Pairwise
      (fun a b => a.now < b.now) := by
    unfold episodesOf
    rw [Episodes.flatten_of]
    exact ordered.sublist List.filter_sublist
  rw [prolongs.after, List.flatten_append, List.pairwise_append] at inner
  refine inner.2.2 x (List.mem_flatten.2 ⟨episode, listed, held⟩) (current.head?.getD o) ?_
  cases current <;> simp

theorem filterMap_alertOf_singleton : [episode].filterMap alertOf = (alertOf episode).toList := by
  cases alert : alertOf episode <;> simp [alert]

/-- The alerts of the episodes grow when the last one reaches its threshold for the first time. -/
theorem Prolongs.alerts (prolongs : Prolongs key calls o earlier current) :
    (episodesOf key (calls ++ [.observeCondition o])).filterMap alertOf =
      (episodesOf key calls).filterMap alertOf ++
        if alertOf current = none ∧ o.threshold ≤ o.now - startOf current o then
          [failureAlert o (startOf current o)] else [] := by
  have reached : reaches (current.head?.getD o) o = true ↔
      o.threshold ≤ o.now - startOf current o := by
    unfold reaches startOf
    rw [decide_eq_true_eq]
    exact ⟨Int.le_sub_left_of_add_le, Int.add_le_of_le_sub_left⟩
  rw [prolongs.before, prolongs.after, List.filterMap_append, List.filterMap_append,
    List.append_assoc]
  congr 1
  rw [filterMap_alertOf_singleton, filterMap_alertOf_singleton, alertOf_snoc]
  cases alert : alertOf current with
  | some row => simp
  | none =>
      by_cases late : o.threshold ≤ o.now - startOf current o
      · simp [late, reached.2 late]
      · have unreached : ¬ reaches (current.head?.getD o) o = true :=
          fun reach => late (reached.1 reach)
        simp [late, unreached]

/-- The alert of the last episode has the key of the next one. -/
theorem Prolongs.taken (prolongs : Prolongs key calls o earlier current)
    (tracks : Tracks key calls s) (alert : alertOf current = some row) :
    row ∈ s.alerts ∧
      row.deduplicationKey = (failureAlert o (startOf current o)).deduplicationKey := by
  have listed : current ∈ episodesOf key calls := by
    rw [prolongs.before]
    exact List.mem_append_right _ List.mem_cons_self
  constructor
  · exact ((tracks.alerted.alerts row).2 (List.mem_filterMap.2 ⟨current, listed, alert⟩)).1
  · have members : ∀ x ∈ current, x.conditionKey = key :=
      fun x held => conditionKey_of_mem (mem_of_episode listed held)
    rcases alertOf_key members alert with ⟨first, head, named⟩
    rw [named]
    unfold failureAlert startOf
    rw [head, prolongs.own]
    rfl

/-- The key of the next alert is free while the last episode has none: the alerts of the earlier
episodes name earlier starts. -/
theorem Prolongs.untaken (prolongs : Prolongs key calls o earlier current)
    (tracks : Tracks key calls s) (start_valid : Calendar.representable (startOf current o) = true)
    (later : ∀ episode ∈ earlier, ∀ x ∈ episode, x.now < startOf current o)
    (alert : alertOf current = none) (held : row ∈ s.alerts) :
    row.deduplicationKey ≠ failureKey key (startOf current o) := by
  intro taken
  have known := (tracks.alerted.alerts row).1 ⟨held, _, start_valid, taken⟩
  rw [prolongs.before, List.filterMap_append, filterMap_alertOf_singleton, alert,
    Option.toList_none, List.append_nil] at known
  rcases List.mem_filterMap.1 known with ⟨episode, listed, named⟩
  have inside : ∀ x ∈ episode, x ∈ observationsOf key calls := by
    refine fun x held => mem_of_episode ?_ held
    rw [prolongs.before]
    exact List.mem_append_left _ listed
  rcases alertOf_key (fun x held => conditionKey_of_mem (inside x held)) named with
    ⟨first, head, key_of_first⟩
  have first_held : first ∈ episode := List.mem_of_mem_head? head
  have same := (failureKey_inj (tracks.valid first (inside first first_held)) start_valid
    (key_of_first.symm.trans taken)).2
  have earlier_start := later episode listed first first_held
  rw [same] at earlier_start
  exact lt_irrefl _ earlier_start

end Prolonging

/-- A failure prolongs the last episode, whose start the row of the condition remembers. -/
theorem Tracks.fail (tracks : Tracks key calls s) (own : o.conditionKey = key)
    (failed : o.failing = true) (valid : Calendar.representable o.now = true)
    (ordered : (observationsOf key (calls ++ [.observeCondition o])).Pairwise
      (fun a b => a.now < b.now))
    (conditions : ∀ k, u.conditions.get? k = if k = key then
      some ⟨key, failingSince s key o.now, o.now⟩ else s.conditions.get? k)
    (alerts : o.now - failingSince s key o.now < o.threshold ∧ u.alerts = s.alerts ∨
      o.threshold ≤ o.now - failingSince s key o.now ∧
        (s.alerts.insert? (failureAlert o (failingSince s key o.now)) = some u.alerts ∨
          u.alerts = s.alerts ∧ ∃ row ∈ s.alerts, row.deduplicationKey =
            failureKey key (failingSince s key o.now))) :
    Tracks key (calls ++ [.observeCondition o]) u := by
  rcases @exists_prolongs key calls o own failed with ⟨earlier, current, prolongs⟩
  have observed : ∀ x ∈ observationsOf key (calls ++ [.observeCondition o]),
      Calendar.representable x.now = true := by
    rw [observationsOf_snoc_own own, List.forall_mem_append, List.forall_mem_singleton]
    exact ⟨tracks.valid, valid⟩
  have start_valid := prolongs.start_valid observed
  rw [prolongs.failingSince tracks] at conditions alerts
  refine ⟨fun others last split => ?_, observed, ?_⟩
  · rw [prolongs.after] at split
    rcases List.append_inj' split rfl with ⟨_, same⟩
    cases same
    rw [conditions key, if_pos rfl, startOf_snoc]
    rfl
  · have grown := prolongs.alerts
    cases alert : alertOf current with
    | some row =>
        -- The episode has its alert, whose key refuses another one.
        rcases prolongs.taken tracks alert with ⟨there, taken⟩
        have unchanged : u.alerts = s.alerts := by
          rcases alerts with ⟨_, unchanged⟩ | ⟨_, inserted | ⟨unchanged, _⟩⟩
          · exact unchanged
          · exact absurd taken (Table.fresh_of_insert? inserted row there)
          · exact unchanged
        rw [if_neg (fun both => by simp [alert] at both), List.append_nil] at grown
        exact tracks.alerted.kept grown (fun _ _ => by rw [unchanged])
    | none =>
        rcases alerts with ⟨early, unchanged⟩ | ⟨late, inserted | ⟨_, row, held, taken⟩⟩
        · rw [if_neg (fun both => Int.not_le.2 early both.2), List.append_nil] at grown
          exact tracks.alerted.kept grown (fun _ _ => by rw [unchanged])
        · rw [if_pos ⟨alert, late⟩] at grown
          exact tracks.alerted.raised grown inserted ⟨_, start_valid, by rw [← own]; rfl⟩
        · exact absurd taken
            (prolongs.untaken tracks start_valid (prolongs.later ordered) alert held)

/-- A call about something else. -/
theorem Tracks.other (tracks : Tracks key calls s)
    (other : ∀ o, call = .observeCondition o → o.conditionKey ≠ key)
    (conditions : u.conditions.get? key = s.conditions.get? key)
    (rows : ∀ row, FailureOf key row → (row ∈ u.alerts ↔ row ∈ s.alerts)) :
    Tracks key (calls ++ [call]) u := by
  have same : observationsOf key (calls ++ [call]) = observationsOf key calls :=
    observationsOf_snoc_other other
  have episodes : episodesOf key (calls ++ [call]) = episodesOf key calls := by
    unfold episodesOf
    rw [same]
  constructor
  · rw [episodes, conditions]
    exact tracks.open_episode
  · rw [same]
    exact tracks.valid
  · exact tracks.alerted.kept (by rw [episodes]) rows

/-- Every call that returns. -/
theorem Tracks.step (tracks : Tracks key calls s)
    (ordered : (observationsOf key (calls ++ [call])).Pairwise (fun a b => a.now < b.now))
    (next : step s call = some u) : Tracks key (calls ++ [call]) u := by
  unfold MaintenanceAlerts.step at next
  split at next
  · rename_i n v performed
    cases next
    cases call with
    | enqueueBudgetThresholds monthKey costUsd thresholds operatorUserId now =>
        rcases enqueueBudgetThresholds_spec performed with ⟨conditions, kept, from_call, _⟩
        refine tracks.other (fun _ => AlertCall.noConfusion) (by rw [conditions]) (fun row failure => ?_)
        refine ⟨fun held => ?_, kept row⟩
        rcases from_call row held with old | ⟨threshold, _, _, budget⟩
        · exact old
        · rcases failure with ⟨since, _, named⟩
          exact absurd (named.symm.trans budget) failureKey_ne_budgetKey
    | observeCondition o =>
        rcases Except.map_eq_ok_iff.1 performed with ⟨⟨raised, w⟩, observed, same⟩
        cases same
        rcases observeCondition_cases observed with ⟨valid, cases⟩
        by_cases own : o.conditionKey = key
        · subst own
          rcases cases with ⟨succeeded, _, rfl⟩ | ⟨failed, conditions, alerts⟩
          · exact tracks.succeed rfl succeeded valid
          · refine tracks.fail rfl failed valid ordered conditions ?_
            rcases alerts with ⟨early, _, unchanged⟩ | ⟨late, ⟨_, inserted⟩ | ⟨_, unchanged, taken⟩⟩
            · exact Or.inl ⟨early, unchanged⟩
            · exact Or.inr ⟨late, Or.inl inserted⟩
            · exact Or.inr ⟨late, Or.inr ⟨unchanged, taken⟩⟩
        · have absent : ¬ key = o.conditionKey := fun same => own same.symm
          rcases observeCondition_alerts observed with ⟨kept, from_call⟩
          refine tracks.other (fun x same => ?_) ?_ (fun row failure => ⟨fun held => ?_, kept row⟩)
          · cases same
            exact own
          · rcases cases with ⟨_, _, rfl⟩ | ⟨_, conditions, _⟩
            · dsimp only
              rw [Table.get?_erase, if_neg absent]
            · rw [conditions, if_neg absent]
          · rcases from_call row held with old | ⟨since, named⟩
            · exact old
            · rcases failure with ⟨since', _, named'⟩
              exact absurd (failureKey_parts (named.symm.trans named')).1 own
  · cases next

end Observing

section Histories

variable {calls : List AlertCall} {call : AlertCall} {s u : AlertStore} {monthKey : String}
  {d : Decimal}

theorem reached_snoc : Reached (calls ++ [call]) monthKey d ↔ Reached calls monthKey d ∨
    ∃ costUsd thresholds operatorUserId now,
      call = .enqueueBudgetThresholds monthKey costUsd thresholds operatorUserId now ∧
      d ∈ thresholds ∧ d.value ≤ costUsd.value := by
  unfold Reached
  constructor
  · rintro ⟨costUsd, thresholds, operatorUserId, now, held, listed, reached⟩
    rcases List.mem_append.1 held with before | last
    · exact Or.inl ⟨costUsd, thresholds, operatorUserId, now, before, listed, reached⟩
    · exact Or.inr ⟨costUsd, thresholds, operatorUserId, now, (List.mem_singleton.1 last).symm,
        listed, reached⟩
  · rintro (⟨costUsd, thresholds, operatorUserId, now, before, listed, reached⟩ |
      ⟨costUsd, thresholds, operatorUserId, now, rfl, listed, reached⟩)
    · exact ⟨costUsd, thresholds, operatorUserId, now, List.mem_append_left _ before, listed, reached⟩
    · exact ⟨costUsd, thresholds, operatorUserId, now,
        List.mem_append_right _ List.mem_cons_self, listed, reached⟩

/-- The budget keys of the alerts are those of the thresholds that were reached. -/
def BudgetTracks (calls : List AlertCall) (s : AlertStore) : Prop :=
  ∀ monthKey d, (∃ row ∈ s.alerts, row.deduplicationKey = budgetKey monthKey d) ↔
    ∃ e, Reached calls monthKey e ∧ e.str = d.str

theorem budgetKey_congr {e : Decimal} (same : d.str = e.str) :
    budgetKey monthKey d = budgetKey monthKey e := by
  unfold budgetKey
  rw [same]

theorem BudgetTracks.step (tracks : BudgetTracks calls s) (next : step s call = some u) :
    BudgetTracks (calls ++ [call]) u := by
  unfold MaintenanceAlerts.step at next
  split at next
  · rename_i n v performed
    cases next
    intro monthKey d
    cases call with
    | enqueueBudgetThresholds reported costUsd thresholds operatorUserId now =>
        rcases enqueueBudgetThresholds_spec performed with ⟨_, kept, from_call, each⟩
        constructor
        · rintro ⟨row, held, named⟩
          rcases from_call row held with old | ⟨threshold, listed, reached, named'⟩
          · rcases (tracks monthKey d).1 ⟨row, old, named⟩ with ⟨e, before, written⟩
            exact ⟨e, reached_snoc.2 (Or.inl before), written⟩
          · rcases budgetKey_inj (named.symm.trans named') with ⟨rfl, written⟩
            exact ⟨threshold, reached_snoc.2 (Or.inr ⟨_, _, _, _, rfl, listed, reached⟩),
              written.symm⟩
        · rintro ⟨e, reached, written⟩
          rw [← budgetKey_congr written]
          rcases reached_snoc.1 reached with before | ⟨_, _, _, _, same, listed, enough⟩
          · rcases (tracks monthKey e).2 ⟨e, before, rfl⟩ with ⟨row, held, named⟩
            exact ⟨row, kept row held, named⟩
          · cases same
            exact each e listed enough
    | observeCondition o =>
        rcases Except.map_eq_ok_iff.1 performed with ⟨⟨raised, w⟩, observed, same⟩
        cases same
        rcases observeCondition_alerts observed with ⟨kept, from_call⟩
        have unreached : ∀ e, Reached (calls ++ [.observeCondition o]) monthKey e ↔
            Reached calls monthKey e := by
          intro e
          rw [reached_snoc]
          refine ⟨fun reached => reached.elim id ?_, Or.inl⟩
          rintro ⟨_, _, _, _, same, _⟩
          cases same
        simp only [unreached]
        rw [← tracks monthKey d]
        constructor
        · rintro ⟨row, held, named⟩
          rcases from_call row held with old | ⟨since, named'⟩
          · exact ⟨row, old, named⟩
          · exact absurd (named'.symm.trans named) failureKey_ne_budgetKey
        · rintro ⟨row, held, named⟩
          exact ⟨row, kept row held, named⟩
  · cases next

theorem increasing_of_snoc (increasing : Increasing (calls ++ [call])) : Increasing calls := by
  intro key
  have ordered := increasing key
  rw [observationsOf_append] at ordered
  exact (List.pairwise_append.1 ordered).1

/-- Every history of calls. -/
theorem tracks_of_run (run : Run step anyEvent {} calls s) (increasing : Increasing calls) :
    (∀ key, Tracks key calls s) ∧ BudgetTracks calls s := by
  induction run with
  | nil =>
      constructor
      · intro key
        refine ⟨fun earlier current split => ?_, fun o held => absurd held List.not_mem_nil, ?_⟩
        · have split : [] ++ [[]] = earlier ++ [current] := split
          rcases List.append_inj' split rfl with ⟨_, last⟩
          cases last
          rfl
        · exact ⟨fun row => ⟨fun held => absurd held.1 (Table.not_mem_empty row),
            fun held => absurd held List.not_mem_nil⟩, List.nodup_nil⟩
      · intro monthKey d
        constructor
        · rintro ⟨row, held, _⟩
          exact absurd held (Table.not_mem_empty row)
        · rintro ⟨e, ⟨_, _, _, _, held, _⟩, _⟩
          exact absurd held List.not_mem_nil
  | snoc _ _ next ih =>
      rcases ih (increasing_of_snoc increasing) with ⟨tracks, budget⟩
      exact ⟨fun key => (tracks key).step (increasing key) next, budget.step next⟩

/-- One alert for each spelling is one alert for each amount when amounts are written alike. -/
theorem budgetAlerted_iff (tracks : BudgetTracks calls s) :
    BudgetAlerted calls s ↔ WrittenAlike calls := by
  constructor
  · intro alerted monthKey d e reached reached' same
    rcases (tracks monthKey d).2 ⟨d, reached, rfl⟩ with ⟨row, held, named⟩
    rcases (tracks monthKey e).2 ⟨e, reached', rfl⟩ with ⟨row', held', named'⟩
    have one := (alerted.reached monthKey d reached).unique ⟨held, d, rfl, named⟩
      ⟨held', e, same.symm, named'⟩
    subst one
    exact (budgetKey_inj (named.symm.trans named')).2
  · intro alike
    have only : ∀ monthKey d e row, Reached calls monthKey d → row ∈ s.alerts → e.value = d.value →
        row.deduplicationKey = budgetKey monthKey e →
        row.deduplicationKey = budgetKey monthKey d := by
      intro monthKey d e row reached held same named
      rcases (tracks monthKey e).1 ⟨row, held, named⟩ with ⟨other, reached', written⟩
      have equal : d.value = other.value := same.symm.trans (Decimal.str_value written).symm
      rw [named]
      exact budgetKey_congr (written.symm.trans (alike monthKey d other reached reached' equal).symm)
    constructor
    · intro monthKey d reached
      rcases (tracks monthKey d).2 ⟨d, reached, rfl⟩ with ⟨row, held, named⟩
      refine ⟨row, ⟨held, d, rfl, named⟩, ?_⟩
      rintro row' ⟨held', e, same, named'⟩
      have named' := only monthKey d e row' reached held' same named'
      exact Table.eq_of_key_eq held' held (named'.trans named.symm)
    · rintro monthKey amount row held ⟨e, same, named⟩
      rcases (tracks monthKey e).1 ⟨row, held, named⟩ with ⟨d, reached, written⟩
      exact ⟨d, reached, (Decimal.str_value written).trans same⟩

/-- Observations at strictly increasing times, whatever they observe. -/
theorem increasing_of_times
    (increasing : (observations calls).Pairwise (fun a b => a.now < b.now)) : Increasing calls :=
  fun _ => increasing.filter _

/-- In every history of calls the alerts are created exactly once, for each episode of a condition
and for each threshold that a month has reached, if and only if equal thresholds that a month has
reached are written alike. The alerts of the conditions need no such condition. -/
theorem alerts_once_iff (run : Run step anyEvent {} calls s) (increasing : Increasing calls) :
    (∀ key, EpisodesAlerted key calls s) ∧
      ((∀ key, EpisodesAlerted key calls s) ∧ BudgetAlerted calls s ↔ WrittenAlike calls) := by
  rcases tracks_of_run run increasing with ⟨tracks, budget⟩
  have alerted : ∀ key, EpisodesAlerted key calls s := fun key => (tracks key).alerted
  refine ⟨alerted, ?_⟩
  rw [← budgetAlerted_iff budget]
  exact and_iff_right alerted

/-- A translator that fails twice, the first time for long enough, and a month over two
thresholds. -/
def sampleCalls : List AlertCall :=
  let observe (failing : Bool) (now : Time) : AlertCall :=
    .observeCondition ⟨"translator", failing, minutes 15, "translator_unavailable", 77, [], now⟩
  [observe true 0, .enqueueBudgetThresholds "2026-01" ⟨false, 850, -2⟩
      [⟨false, 5, 0⟩, ⟨false, 8, 0⟩, ⟨false, 10, 0⟩] 77 0,
    observe true (minutes 16), observe true (minutes 17), observe false (minutes 18),
    observe true (minutes 19)]

/-- The threshold of five dollars, written in two ways. -/
def respelledCalls : List AlertCall :=
  [.enqueueBudgetThresholds "2026-01" ⟨false, 6, 0⟩ [⟨false, 5, 0⟩] 77 0,
    .enqueueBudgetThresholds "2026-01" ⟨false, 6, 0⟩ [⟨false, 50, -1⟩] 77 1]

theorem respelled_threshold_alerted_twice : ∃ s, Run step anyEvent {} respelledCalls s ∧
    Increasing respelledCalls ∧
    s.alerts.rows.map (fun row => row.deduplicationKey) =
      ["budget:2026-01:5", "budget:2026-01:5.0"] ∧
    ¬ BudgetAlerted respelledCalls s := by
  have computed : (exec step anyEvent {} respelledCalls).map
      (fun s => s.alerts.rows.map (fun row => row.deduplicationKey)) =
      some ["budget:2026-01:5", "budget:2026-01:5.0"] := by decide +kernel
  rcases Run.exists_of_exec computed with ⟨s, run, keys⟩
  have increasing : Increasing respelledCalls := increasing_of_times List.Pairwise.nil
  have reached : Reached respelledCalls "2026-01" ⟨false, 5, 0⟩ :=
    ⟨_, _, _, _, List.mem_cons_self, List.mem_cons_self, by decide +kernel⟩
  have reached' : Reached respelledCalls "2026-01" ⟨false, 50, -1⟩ :=
    ⟨_, _, _, _, List.mem_cons_of_mem _ List.mem_cons_self, List.mem_cons_self, by decide +kernel⟩
  refine ⟨s, run, increasing, keys, fun alerted => ?_⟩
  have alike := (budgetAlerted_iff (tracks_of_run run increasing).2).1 alerted
  exact absurd (alike "2026-01" _ _ reached reached' (by decide +kernel)) (by decide +kernel)

/-- The translator has one alert for its two failures, and the month has two. -/
theorem alerts_once_iff_sample : ∃ s, (∀ key, EpisodesAlerted key sampleCalls s) ∧
    BudgetAlerted sampleCalls s ∧ s.alerts.rows.map (fun row => row.deduplicationKey) =
      ["budget:2026-01:5", "budget:2026-01:8", "failure:translator:1970-01-01T00:00:00+00:00"] := by
  have computed : (exec step anyEvent {} sampleCalls).map
      (fun s => s.alerts.rows.map (fun row => row.deduplicationKey)) =
      some ["budget:2026-01:5", "budget:2026-01:8",
        "failure:translator:1970-01-01T00:00:00+00:00"] := by decide +kernel
  rcases Run.exists_of_exec computed with ⟨s, run, keys⟩
  have increasing : Increasing sampleCalls := increasing_of_times (by decide +kernel)
  have alike : WrittenAlike sampleCalls := by
    have listed : ∀ monthKey d, Reached sampleCalls monthKey d →
        d ∈ [⟨false, 5, 0⟩, ⟨false, 8, 0⟩, ⟨false, 10, 0⟩] := by
      rintro monthKey d ⟨costUsd, thresholds, operatorUserId, now, held, listed, _⟩
      simp [sampleCalls] at held
      exact held.2.2.1 ▸ listed
    have distinct : ∀ d ∈ [Decimal.mk false 5 0, ⟨false, 8, 0⟩, ⟨false, 10, 0⟩],
        ∀ e ∈ [Decimal.mk false 5 0, ⟨false, 8, 0⟩, ⟨false, 10, 0⟩], d.value = e.value →
          d.str = e.str := by decide +kernel
    exact fun monthKey d e reached reached' =>
      distinct d (listed monthKey d reached) e (listed monthKey e reached')
  rcases alerts_once_iff run increasing with ⟨_, once⟩
  exact ⟨s, (once.2 alike).1, (once.2 alike).2, keys⟩

end Histories

/-! ### The scheduler -/

/-- What `run_once` reads of a status snapshot; an age is in microseconds. -/
structure StatusSnapshot where
  mtprotoHealthy : Bool
  translatorHealthy : Bool
  oldestJobAge : Int
  apiCostMonthUsd : Decimal
  mtprotoHeartbeatAge : Option Int

namespace MaintenanceScheduler

/-- The settings of the alerts. -/
structure Settings where
  operatorUserId : Int
  budgetThresholds : List Decimal
  mtprotoAlertAfter : Int := minutes 5
  queueDelayAlertAfter : Int := minutes 10
  translatorAlertAfter : Int := minutes 15

/-- `strftime("%Y-%m")`. -/
def monthKey (now : Time) : String :=
  let date := Calendar.ofOrdinal (Calendar.ordinalOf now).toNat
  String.ofList (Nat.toDigits 10 date.year ++ '-' :: Numeral.pad 2 date.month)

/-- The calls of one maintenance transaction. A heartbeat that is older than the threshold has
already lasted for it. -/
def alertCalls (settings : Settings) (snapshot : StatusSnapshot) (now : Time) : List AlertCall :=
  let observe (conditionKey : String) (failing : Bool) (threshold : Int) (alertType : String) :=
    AlertCall.observeCondition
      ⟨conditionKey, failing, threshold, alertType, settings.operatorUserId, [], now⟩
  [.enqueueBudgetThresholds (monthKey now) snapshot.apiCostMonthUsd settings.budgetThresholds
      settings.operatorUserId now,
    observe "mtproto" (!snapshot.mtprotoHealthy)
      (if snapshot.mtprotoHeartbeatAge.any (fun age => settings.mtprotoAlertAfter < age) then 0
        else settings.mtprotoAlertAfter) "mtproto_disconnected",
    observe "queue_delay" (settings.queueDelayAlertAfter < snapshot.oldestJobAge) 0
      "queue_delayed",
    observe "translator" (!snapshot.translatorHealthy) settings.translatorAlertAfter
      "translator_unavailable"]

/-- Perform some calls and count the alerts. -/
def raiseAlerts (calls : List AlertCall) (store : AlertStore) :
    Except HandlerError (Nat × AlertStore) :=
  calls.foldlM (fun created call => (call.perform created.2).map
    (fun (n, store) => (created.1 + n, store))) (0, store)

/-- A transaction that commits is a run of its calls. -/
theorem raiseAlerts_is_run {calls : List AlertCall} {s u : AlertStore} {n : Nat}
    (raised : raiseAlerts calls s = .ok (n, u)) : Run step anyEvent s calls u := by
  unfold raiseAlerts at raised
  generalize 0 = created at raised
  induction calls generalizing s created with
  | nil =>
      cases raised
      exact .nil
  | cons call calls ih =>
      rw [List.foldlM_cons, Except.bind_eq_ok_iff] at raised
      rcases raised with ⟨⟨m, t⟩, one, rest⟩
      rcases Except.map_eq_ok_iff.1 one with ⟨⟨k, _⟩, performed, same⟩
      cases same
      have next : step s call = some t := by
        unfold step
        rw [performed]
      exact .cons trivial next (ih _ rest)

/-- The observations of a transaction: each has its own condition, and all have its time. -/
theorem observations_alertCalls {settings : Settings} {snapshot : StatusSnapshot} {now : Time} :
    (observations (alertCalls settings snapshot now)).Pairwise
        (fun a b => a.conditionKey ≠ b.conditionKey) ∧
      ∀ o ∈ observations (alertCalls settings snapshot now), o.now = now := by
  constructor
  · simp [observations, alertCalls]
  · intro o held
    simp only [observations, alertCalls, List.filterMap_cons, List.filterMap_nil, List.mem_cons,
      List.not_mem_nil, or_false] at held
    rcases held with rfl | rfl | rfl
    · rfl
    · rfl
    · rfl

/-- Each transaction observes each of its conditions once, so transactions that start later observe
it later. -/
theorem alertCalls_increasing {settings : Settings} {iterations : List (StatusSnapshot × Time)}
    (later : iterations.Pairwise (fun a b => a.2 < b.2)) :
    Increasing (iterations.flatMap (fun iteration =>
      alertCalls settings iteration.1 iteration.2)) := by
  intro key
  unfold observationsOf observations
  rw [List.filterMap_flatMap, List.filter_flatMap, List.pairwise_flatMap]
  constructor
  · intro iteration _
    rw [List.pairwise_filter]
    refine (@observations_alertCalls settings iteration.1 iteration.2).1.imp ?_
    intro a b ne own own'
    exact absurd ((of_decide_eq_true own).trans (of_decide_eq_true own').symm) ne
  · refine later.imp ?_
    intro a b before x held y held'
    rw [observations_alertCalls.2 x (List.mem_filter.1 held).1,
      observations_alertCalls.2 y (List.mem_filter.1 held').1]
    exact before

end MaintenanceScheduler

end LeadAssistant.MaintenanceAlerts
