/-
Module: LeadAssistant.Classifier.UsageLedger
Layer: Classifier
Purpose: `classification_runs` and `api_usage_daily` under concurrent `record_stage` transactions. A
  transaction inserts its run, adds it to the row of its day, and commits or is rolled back; what it
  has written is seen by nobody before. An `INSERT ... ON CONFLICT` waits while an open transaction
  holds the key, which is all that is assumed of PostgreSQL. The committed rows of the days are then
  the aggregate of the committed runs.
Trusted boundary: human-reviewed spec
Main exports: StageCall, Ledger, LedgerEvent, step, UsageAgrees, usage_agrees, commit_enabled,
  recordStage_is_run
-/
import LeadAssistant.Classifier.Usage
import LeadAssistant.Library.Aggregate
import LeadAssistant.Library.Fallible
import LeadAssistant.Library.Transition

namespace LeadAssistant.UsageLedger

open Relational Transition UsageRepository

/-- The arguments of one `record_stage` call. -/
structure StageCall where
  telegramChatId : Int
  telegramMessageId : Int
  stage : Nat
  queuedAt : Time
  model : String
  response : ClassificationResponse
  pricing : ClassificationPricing

/-- How far a transaction has come. -/
inductive Phase where
  | begun
  | repeated
  | inserted
  | counted (row : ApiUsageDaily)

/-- An open transaction around one call. -/
structure StageTransaction where
  id : Nat
  call : StageCall
  now : Time
  phase : Phase

namespace StageTransaction

/-- The row that the call inserts. -/
def run (t : StageTransaction) : ClassificationRun :=
  newRun t.call.telegramChatId t.call.telegramMessageId t.call.stage t.call.queuedAt t.call.model
    t.call.response t.call.pricing t.now

/-- The key of its daily row. -/
def day (t : StageTransaction) : Int × String := (currentDate t.now, t.call.model)

/-- Its run is inserted and not yet committed. -/
def holdsRun (t : StageTransaction) : Bool :=
  match t.phase with
  | .inserted | .counted _ => true
  | _ => false

/-- Its daily row is written and not yet committed. -/
def holdsDay (t : StageTransaction) : Bool :=
  match t.phase with
  | .counted _ => true
  | _ => false

end StageTransaction

/-- The committed contents and the open transactions. -/
structure Ledger where
  db : Database
  transactions : Table StageTransaction.id := ∅

inductive LedgerEvent where
  | begin (id : Nat) (call : StageCall) (now : Time)
  | insertRun (id : Nat)
  | addUsage (id : Nat)
  | commit (id : Nat)
  | rollback (id : Nat)

namespace Ledger

/-- The transaction is over. -/
def close (s : Ledger) (id : Nat) : Ledger := { s with transactions := s.transactions.erase id }

def setPhase (s : Ledger) (id : Nat) (phase : Phase) : Ledger :=
  { s with transactions := s.transactions.update id (fun t => { t with phase := phase }) }

/-- An open transaction holds the key of this run. -/
def runLocked (s : Ledger) (t : StageTransaction) : Bool :=
  s.transactions.rows.any (fun other => other.holdsRun && other.run.key = t.run.key)

/-- An open transaction holds the daily row. -/
def dayLocked (s : Ledger) (t : StageTransaction) : Bool :=
  s.transactions.rows.any (fun other => other.holdsDay && other.day = t.day)

/-- `INSERT INTO classification_runs ... ON CONFLICT DO NOTHING`; a value that does not fit its
column raises, which ends the transaction. -/
def insertRun (s : Ledger) (t : StageTransaction) : Ledger :=
  if !t.run.storable then s.close t.id
  else if (s.db.classificationRuns.get? t.run.key).isSome then s.setPhase t.id .repeated
  else s.setPhase t.id .inserted

/-- `INSERT INTO api_usage_daily ... ON CONFLICT DO UPDATE`. -/
def addUsage (s : Ledger) (t : StageTransaction) : Ledger :=
  let row := usageRow t.run t.now s.db.apiUsageDaily
  if !row.storable then s.close t.id else s.setPhase t.id (.counted row)

/-- The commit of an inserted run with its daily row. -/
def commit (s : Ledger) (t : StageTransaction) (row : ApiUsageDaily) : Option Ledger :=
  (s.db.classificationRuns.insert? t.run).map (fun runs =>
    { s.close t.id with
      db := { s.db with
        classificationRuns := runs, apiUsageDaily := s.db.apiUsageDaily.upsert row } })

end Ledger

/-- One statement, or the end, of one transaction. A statement that has to wait is not enabled. -/
def step (s : Ledger) : LedgerEvent → Option Ledger
  | .begin id call now =>
      (s.transactions.insert? (StageTransaction.mk id call now .begun)).map
        (fun transactions => { s with transactions := transactions })
  | .insertRun id =>
      match s.transactions.get? id with
      | some ⟨id, call, now, .begun⟩ =>
          let t := StageTransaction.mk id call now .begun
          if s.runLocked t then none else some (s.insertRun t)
      | _ => none
  | .addUsage id =>
      match s.transactions.get? id with
      | some ⟨id, call, now, .inserted⟩ =>
          let t := StageTransaction.mk id call now .inserted
          if s.dayLocked t then none else some (s.addUsage t)
      | _ => none
  | .commit id =>
      match s.transactions.get? id with
      | some ⟨id, call, now, .counted row⟩ => s.commit ⟨id, call, now, .counted row⟩ row
      | some ⟨id, _, _, .repeated⟩ => some (s.close id)
      | _ => none
  | .rollback id =>
      match s.transactions.get? id with
      | some t => some (s.close t.id)
      | none => none

/-- The daily usage as an aggregate of the runs. -/
def dailyUsage : Aggregation ClassificationRun (Int × String) ApiUsageDaily where
  group run := (currentDate run.createdAt, run.model)
  first run := firstUsage run run.createdAt
  plus := ApiUsageDaily.plus

/-- The number of some runs and the sums over them. -/
def total (date : Int) (model : String) (runs : List ClassificationRun) : ApiUsageDaily where
  usageDate := date
  model := model
  requestCount := runs.length
  inputTokens := (runs.map (fun run => run.inputTokens)).sum
  outputTokens := (runs.map (fun run => run.outputTokens)).sum
  estimatedCostUsd := (runs.map (fun run => run.estimatedCostUsd)).sum

/-- The runs of a model that were created on a day. -/
def runsOn (date : Int) (model : String) (runs : List ClassificationRun) :
    List ClassificationRun :=
  runs.filter (fun run => currentDate run.createdAt = date ∧ run.model = model)

/-- What `api_usage_daily` is to hold for a day and a model. -/
def usageOf (runs : List ClassificationRun) (date : Int) (model : String) : Option ApiUsageDaily :=
  if runsOn date model runs = [] then none else some (total date model (runsOn date model runs))

/-- The two tables agree on every day and model. -/
def UsageAgrees (db : Database) : Prop :=
  ∀ date model, db.apiUsageDaily.get? (date, model) =
    usageOf db.classificationRuns.rows date model

theorem total_snoc {date : Int} {model : String} {runs : List ClassificationRun}
    {run : ClassificationRun} :
    (total date model runs).plus run = total date model (runs ++ [run]) := by
  simp [ApiUsageDaily.plus, total]

/-- The aggregate has the number of the runs and the sums over them. -/
theorem dailyUsage_of {runs : List ClassificationRun} {date : Int} {model : String} :
    dailyUsage.of runs (date, model) = usageOf runs date model := by
  have same : dailyUsage.rowsOf runs (date, model) = runsOn date model runs := by
    unfold Aggregation.rowsOf runsOn dailyUsage
    simp only [Prod.mk.injEq]
  have totals := @Aggregation.of_induction _ _ _ _ dailyUsage (date, model)
    (fun own row => row = total date model own)
    (fun run own => by
      simp only [dailyUsage, Prod.mk.injEq] at own
      simp [dailyUsage, firstUsage, total, own.1, own.2])
    (fun own run row _ held => by rw [held]; exact total_snoc) runs
  unfold usageOf
  rw [same] at totals
  rcases totals with ⟨empty, absent⟩ | ⟨row, found, nonempty, held⟩
  · rw [absent, if_pos empty]
  · rw [found, if_neg nonempty, held]

/-- The upsert writes the next aggregate. -/
theorem usageRow_eq {run : ClassificationRun} {now : Time} {rows : Table ApiUsageDaily.key}
    (created : run.createdAt = now) :
    usageRow run now rows = dailyUsage.absorb (rows.get? (currentDate now, run.model)) run := by
  subst created
  unfold usageRow Aggregation.absorb
  cases rows.get? (currentDate run.createdAt, run.model) <;> rfl

theorem usageRow_key {run : ClassificationRun} {now : Time} {rows : Table ApiUsageDaily.key} :
    (usageRow run now rows).key = (currentDate now, run.model) := by
  unfold usageRow
  cases found : rows.get? (currentDate now, run.model) with
  | none => rfl
  | some row => exact (row.plus_key run).trans (Table.key_of_get? found)

/-- The upsert reads one daily row. -/
theorem usageRow_congr {run : ClassificationRun} {now : Time} {rows later : Table ApiUsageDaily.key}
    (same : later.get? (currentDate now, run.model) = rows.get? (currentDate now, run.model)) :
    usageRow run now later = usageRow run now rows := by
  unfold usageRow
  rw [same]

section Statements

variable {s u : Ledger} {t : StageTransaction} {db : Database}

/-- What is known of an open transaction: its run is not committed yet, and the daily row it has
written is the next aggregate of the committed one. -/
structure Holds (db : Database) (t : StageTransaction) : Prop where
  free : t.holdsRun = true → ∀ run ∈ db.classificationRuns, run.key ≠ t.run.key
  counted : ∀ row, t.phase = .counted row → row = usageRow t.run t.now db.apiUsageDaily

/-- Two transactions hold different rows. -/
structure Apart (t u : StageTransaction) : Prop where
  runs : t.holdsRun = true → u.holdsRun = true → t.run.key ≠ u.run.key
  days : t.holdsDay = true → u.holdsDay = true → t.day ≠ u.day

theorem Apart.symm {t u : StageTransaction} (apart : Apart t u) : Apart u t :=
  ⟨fun held held' same => apart.runs held' held same.symm,
    fun held held' same => apart.days held' held same.symm⟩

/-- The committed rows of the days are the aggregate of the committed runs, and the open
transactions hold different rows. -/
structure Sound (s : Ledger) : Prop where
  agrees : ∀ k, s.db.apiUsageDaily.get? k = dailyUsage.of s.db.classificationRuns.rows k
  holds : ∀ t ∈ s.transactions, Holds s.db t
  apart : ∀ t ∈ s.transactions, ∀ u ∈ s.transactions, t.id ≠ u.id → Apart t u

/-- A transaction that has come one statement further. -/
theorem Sound.advance (sound : Sound s) {after : StageTransaction}
    (transactions : ∀ x, x ∈ u.transactions ↔
      (x ∈ s.transactions ∧ x.id ≠ after.id) ∨ x = after)
    (db : u.db = s.db) (holds : Holds s.db after)
    (apart : ∀ other ∈ s.transactions, other.id ≠ after.id → Apart after other) : Sound u := by
  constructor
  · rw [db]
    exact sound.agrees
  · rw [db]
    intro x held
    rcases (transactions x).1 held with ⟨before, _⟩ | rfl
    · exact sound.holds x before
    · exact holds
  · intro x held y held' ne
    rcases (transactions x).1 held with ⟨before, other⟩ | rfl
    · rcases (transactions y).1 held' with ⟨before', _⟩ | rfl
      · exact sound.apart x before y before' ne
      · exact (apart x before other).symm
    · rcases (transactions y).1 held' with ⟨before', other'⟩ | rfl
      · exact apart y before' other'
      · exact absurd rfl ne

theorem Sound.close (sound : Sound s) {id : Nat} : Sound (s.close id) where
  agrees := sound.agrees
  holds t held := sound.holds t (Table.mem_erase.1 held).1
  apart t held u held' := sound.apart t (Table.mem_erase.1 held).1 u (Table.mem_erase.1 held').1

theorem Sound.setPhase (sound : Sound s) {phase : Phase}
    (found : s.transactions.get? t.id = some t) (holds : Holds s.db { t with phase := phase })
    (apart : ∀ other ∈ s.transactions, other.id ≠ t.id → Apart { t with phase := phase } other) :
    Sound (s.setPhase t.id phase) := by
  refine sound.advance (fun x => ?_) rfl holds apart
  unfold Ledger.setPhase
  dsimp only
  rw [Table.mem_update]
  constructor
  · rintro (kept | ⟨old, held, own, rfl⟩)
    · exact Or.inl kept
    · rw [Table.eq_of_key_eq held (Table.mem_of_get? found) own]
      exact Or.inr rfl
  · rintro (kept | rfl)
    · exact Or.inl kept
    · exact Or.inr ⟨t, Table.mem_of_get? found, rfl, rfl⟩

/-- Nothing is known of a transaction that holds nothing. -/
theorem holds_of_idle (noRun : t.holdsRun = false) (noRow : ∀ row, t.phase ≠ .counted row) :
    Holds db t :=
  ⟨fun held => absurd held (by simp [noRun]), fun row counted => absurd counted (noRow row)⟩

theorem apart_of_idle (noRun : t.holdsRun = false) (noDay : t.holdsDay = false)
    {other : StageTransaction} : Apart t other :=
  ⟨fun held => absurd held (by simp [noRun]), fun held => absurd held (by simp [noDay])⟩

theorem Sound.insertRun (sound : Sound s) (found : s.transactions.get? t.id = some t)
    (unlocked : ¬ s.runLocked t = true) : Sound (s.insertRun t) := by
  unfold Ledger.insertRun
  split
  · exact sound.close
  · split
    · exact sound.setPhase found (holds_of_idle rfl (fun _ => Phase.noConfusion))
        (fun _ _ _ => apart_of_idle rfl rfl)
    · rename_i absent
      rw [Bool.not_eq_true, Option.isSome_eq_false_iff, Option.isNone_iff_eq_none,
        Table.get?_eq_none_iff] at absent
      refine sound.setPhase found ⟨fun _ => absent, fun _ => Phase.noConfusion⟩ ?_
      intro other held _
      refine ⟨fun _ holds same => unlocked ?_, fun day => by cases day⟩
      have same : t.run.key = other.run.key := same
      rw [Ledger.runLocked, List.any_eq_true]
      exact ⟨other, held, by simp [holds, same]⟩

theorem Sound.addUsage (sound : Sound s) (found : s.transactions.get? t.id = some t)
    (inserted : t.phase = .inserted) (unlocked : ¬ s.dayLocked t = true) :
    Sound (s.addUsage t) := by
  have held := Table.mem_of_get? found
  have holdsRun : t.holdsRun = true := by
    unfold StageTransaction.holdsRun
    rw [inserted]
  unfold Ledger.addUsage
  dsimp only
  split
  · exact sound.close
  · refine sound.setPhase found ⟨fun _ => (sound.holds t held).free holdsRun, ?_⟩ ?_
    · intro row counted
      cases counted
      rfl
    · intro other there ne
      refine ⟨fun _ => (sound.apart t held other there ne.symm).runs holdsRun,
        fun _ holds same => unlocked ?_⟩
      have same : t.day = other.day := same
      rw [Ledger.dayLocked, List.any_eq_true]
      exact ⟨other, there, by simp [holds, same]⟩

/-- A commit puts the run at the end of the log and writes the aggregate of its group. -/
theorem Sound.commit (sound : Sound s) {row : ApiUsageDaily}
    (found : s.transactions.get? t.id = some t) (counted : t.phase = .counted row)
    (next : s.commit t row = some u) : Sound u := by
  have held := Table.mem_of_get? found
  have holdsRun : t.holdsRun = true := by
    unfold StageTransaction.holdsRun
    rw [counted]
  have holdsDay : t.holdsDay = true := by
    unfold StageTransaction.holdsDay
    rw [counted]
  have written := (sound.holds t held).counted row counted
  have key : row.key = t.day := written ▸ usageRow_key
  rcases Option.map_eq_some_iff.1 next with ⟨runs, inserted, rfl⟩
  have others : ∀ other ∈ s.transactions.erase t.id,
      other ∈ s.transactions ∧ Apart t other := by
    intro other there
    rcases Table.mem_erase.1 there with ⟨before, ne⟩
    exact ⟨before, sound.apart t held other before ne.symm⟩
  constructor
  · intro k
    dsimp only
    rw [Table.get?_upsert, Table.rows_insert? inserted, Aggregation.of_snoc, key]
    have group : dailyUsage.group t.run = t.day := rfl
    rw [group, sound.agrees k]
    by_cases own : k = t.day
    · rw [if_pos own, if_pos own, own, ← sound.agrees, written]
      exact congrArg some (usageRow_eq rfl)
    · rw [if_neg own, if_neg own]
  · intro other there
    rcases others other there with ⟨before, apart⟩
    constructor
    · intro holds run stored
      rcases (Table.mem_insert? inserted).1 stored with old | rfl
      · exact (sound.holds other before).free holds run old
      · exact apart.runs holdsRun holds
    · intro otherRow otherCounted
      have otherDay : other.holdsDay = true := by
        unfold StageTransaction.holdsDay
        rw [otherCounted]
      have ne : other.day ≠ row.key := fun same => apart.days holdsDay otherDay (key ▸ same.symm)
      have kept : (s.db.apiUsageDaily.upsert row).get? other.day =
          s.db.apiUsageDaily.get? other.day := Table.get?_upsert.trans (if_neg ne)
      rw [(sound.holds other before).counted otherRow otherCounted]
      exact (usageRow_congr kept).symm
  · intro x there y there' ne
    exact sound.apart x (others x there).1 y (others y there').1 ne

theorem Sound.begin (sound : Sound s) {id : Nat} {call : StageCall} {now : Time}
    (next : step s (.begin id call now) = some u) : Sound u := by
  rcases Option.map_eq_some_iff.1 next with ⟨transactions, inserted, rfl⟩
  let after : StageTransaction := ⟨id, call, now, .begun⟩
  have holds : Holds s.db after := holds_of_idle rfl (fun _ => Phase.noConfusion)
  refine sound.advance (fun x => ?_) rfl holds (fun _ _ _ => apart_of_idle rfl rfl)
  dsimp only
  rw [Table.mem_insert? inserted]
  constructor
  · rintro (before | rfl)
    · exact Or.inl ⟨before, Table.fresh_of_insert? inserted x before⟩
    · exact Or.inr rfl
  · rintro (⟨before, _⟩ | rfl)
    · exact Or.inl before
    · exact Or.inr rfl

theorem Sound.step {e : LedgerEvent} (sound : Sound s) (next : step s e = some u) : Sound u := by
  cases e with
  | begin id call now => exact sound.begin next
  | insertRun id =>
      simp only [UsageLedger.step] at next
      split at next
      · rename_i own call now found
        cases Table.key_of_get? found
        split at next
        · cases next
        · rename_i unlocked
          cases next
          exact sound.insertRun found unlocked
      · cases next
  | addUsage id =>
      simp only [UsageLedger.step] at next
      split at next
      · rename_i own call now found
        cases Table.key_of_get? found
        split at next
        · cases next
        · rename_i unlocked
          cases next
          exact sound.addUsage found rfl unlocked
      · cases next
  | commit id =>
      simp only [UsageLedger.step] at next
      split at next
      · rename_i own call now row found
        cases Table.key_of_get? found
        exact sound.commit found rfl next
      · cases next
        exact sound.close
      · cases next
  | rollback id =>
      simp only [UsageLedger.step] at next
      split at next
      · cases next
        exact sound.close
      · cases next

/-- A transaction that has run both statements can commit. -/
theorem Sound.commit_enabled (sound : Sound s) {row : ApiUsageDaily}
    (found : s.transactions.get? t.id = some t) (counted : t.phase = .counted row) :
    ∃ u, UsageLedger.step s (.commit t.id) = some u := by
  rcases t with ⟨id, call, now, phase⟩
  cases counted
  have free := (sound.holds _ (Table.mem_of_get? found)).free rfl
  rcases Table.exists_insert? free with ⟨runs, inserted⟩
  simp only [UsageLedger.step, found, Ledger.commit, inserted, Option.map_some]
  exact ⟨_, rfl⟩

end Statements

/-- Two empty tables agree. -/
theorem usageAgrees_empty {db : Database} (noRun : db.classificationRuns = ∅)
    (noUsage : db.apiUsageDaily = ∅) : UsageAgrees db := by
  intro date model
  rw [noRun, noUsage]
  rfl

/-- Whatever the interleaving of the transactions, the committed rows of the days hold the number
and the sums of the committed runs, each message and stage being counted once. -/
theorem usage_agrees {db : Database} {es : List LedgerEvent} {s : Ledger} (start : UsageAgrees db)
    (run : Run step anyEvent ⟨db, ∅⟩ es s) :
    UsageAgrees s.db ∧ ∀ date model,
      ((runsOn date model s.db.classificationRuns.rows).map ClassificationRun.key).Nodup := by
  have sound : Sound s := by
    refine run.invariant ⟨?_, ?_, ?_⟩ (fun _ _ _ sound _ next => sound.step next)
    · rintro ⟨date, model⟩
      rw [dailyUsage_of]
      exact start date model
    · exact fun t held => absurd held (Table.not_mem_empty t)
    · exact fun t held => absurd held (Table.not_mem_empty t)
  constructor
  · intro date model
    rw [sound.agrees, dailyUsage_of]
  · intro date model
    exact s.db.classificationRuns.keysNodup.sublist (List.filter_sublist.map _)

/-- A call for one message of a chat. -/
def sampleStage (telegramMessageId : Int) : StageCall where
  telegramChatId := -100
  telegramMessageId := telegramMessageId
  stage := 1
  queuedAt := 0
  model := "small"
  response := ⟨⟨true, .technical, 1, false, .technicalProblem⟩, ⟨100, 20⟩⟩
  pricing := ⟨1, 2⟩

/-- Two messages are recorded at once, one of them twice, and a third call is rolled back. -/
def sampleLedger : List LedgerEvent :=
  [.begin 1 (sampleStage 40) 5, .begin 2 (sampleStage 41) 6, .insertRun 1, .insertRun 2,
    .addUsage 1, .commit 1, .begin 3 (sampleStage 40) 7, .addUsage 2, .insertRun 3, .commit 3,
    .commit 2, .begin 4 (sampleStage 42) 8, .insertRun 4, .addUsage 4, .rollback 4]

theorem usage_agrees_sample : ∃ s : Ledger, UsageAgrees s.db ∧
    s.db.apiUsageDaily.rows = [⟨0, "small", 2, 200, 40, 280⟩] := by
  have computed : (exec step anyEvent ⟨{}, ∅⟩ sampleLedger).map (fun s => s.db.apiUsageDaily.rows) =
      some [⟨0, "small", 2, 200, 40, 280⟩] := by decide +kernel
  rcases Run.exists_of_exec computed with ⟨s, run, value⟩
  exact ⟨s, (usage_agrees (usageAgrees_empty rfl rfl) run).1, value⟩

section Alone

variable {db u : Database} {t : StageTransaction} {phase : Phase}

/-- A ledger with one open transaction. -/
def alone (db : Database) (t : StageTransaction) : Ledger := ⟨db, ⟨[t], List.nodup_singleton _⟩⟩

theorem get?_alone : (alone db t).transactions.get? t.id = some t := by
  simp [alone, Table.get?]

theorem setPhase_alone : (alone db t).setPhase t.id phase = alone db { t with phase := phase } := by
  simp [alone, Ledger.setPhase, Table.update, Table.updateWhere]

theorem begin_alone {id : Nat} {call : StageCall} {now : Time} :
    step ⟨db, ∅⟩ (.begin id call now) = some (alone db ⟨id, call, now, .begun⟩) := by
  rfl

/-- The first statement of a lone transaction. -/
theorem insertRun_alone (begun : t.phase = .begun) (fits : t.run.storable = true) :
    step (alone db t) (.insertRun t.id) = some (alone db { t with
      phase := if (db.classificationRuns.get? t.run.key).isSome then .repeated
        else .inserted }) := by
  rcases t with ⟨id, call, now, phase⟩
  cases begun
  have unlocked : ¬ (alone db ⟨id, call, now, .begun⟩).runLocked ⟨id, call, now, .begun⟩ = true := by
    simp [alone, Ledger.runLocked, StageTransaction.holdsRun]
  have found := @get?_alone db ⟨id, call, now, .begun⟩
  have free : ¬ (!(StageTransaction.mk id call now .begun).run.storable) = true := by simp [fits]
  simp only [step, found]
  rw [if_neg unlocked]
  unfold Ledger.insertRun
  rw [if_neg free]
  split
  · rename_i taken
    have taken : (db.classificationRuns.get?
      (StageTransaction.mk id call now .begun).run.key).isSome = true := taken
    rw [if_pos taken, setPhase_alone]
  · rename_i absent
    have absent : ¬ (db.classificationRuns.get?
      (StageTransaction.mk id call now .begun).run.key).isSome = true := absent
    rw [if_neg absent, setPhase_alone]

/-- The second statement. -/
theorem addUsage_alone (inserted : t.phase = .inserted)
    (fits : (usageRow t.run t.now db.apiUsageDaily).storable = true) :
    step (alone db t) (.addUsage t.id) =
      some (alone db { t with phase := .counted (usageRow t.run t.now db.apiUsageDaily) }) := by
  rcases t with ⟨id, call, now, phase⟩
  cases inserted
  have unlocked : ¬ (alone db ⟨id, call, now, .inserted⟩).dayLocked
      ⟨id, call, now, .inserted⟩ = true := by
    simp [alone, Ledger.dayLocked, StageTransaction.holdsDay]
  have found := @get?_alone db ⟨id, call, now, .inserted⟩
  have free : ¬ (!(usageRow (StageTransaction.mk id call now .inserted).run now
      db.apiUsageDaily).storable) = true := by simp [fits]
  simp only [step, found]
  rw [if_neg unlocked]
  unfold Ledger.addUsage
  exact congrArg some ((if_neg free).trans setPhase_alone)

/-- The commit. -/
theorem commit_alone {row : ApiUsageDaily} {runs : Table ClassificationRun.key}
    (counted : t.phase = .counted row) (accepted : db.classificationRuns.insert? t.run = some runs) :
    step (alone db t) (.commit t.id) = some { (alone db t).close t.id with
      db := { db with
        classificationRuns := runs, apiUsageDaily := db.apiUsageDaily.upsert row } } := by
  rcases t with ⟨id, call, now, phase⟩
  cases counted
  simp only [step, @get?_alone db ⟨id, call, now, .counted row⟩]
  exact congrArg (Option.map _) accepted

/-- A call that nobody disturbs commits what `record_stage` leaves of the two tables. -/
theorem recordStage_is_run {id : Nat} {call : StageCall} {now : Time} {inserted : Bool}
    (recorded : recordStage call.telegramChatId call.telegramMessageId call.stage call.queuedAt
      call.model call.response call.pricing now db = .ok (inserted, u)) :
    ∃ es s, Run step anyEvent ⟨db, ∅⟩ es s ∧
      s.db.classificationRuns = u.classificationRuns ∧
      ∀ k, s.db.apiUsageDaily.get? k = u.apiUsageDaily.get? k := by
  let t : StageTransaction := ⟨id, call, now, .begun⟩
  have begun : Run step anyEvent ⟨db, ∅⟩ [.begin id call now] (alone db t) :=
    .snoc .nil trivial begin_alone
  have own : t.run = newRun call.telegramChatId call.telegramMessageId call.stage call.queuedAt
      call.model call.response call.pricing now := rfl
  rcases recordStage_cases own recorded with
    ⟨storable, ⟨taken, _, rfl⟩ | ⟨_, accepted, _, fits, daily⟩⟩
  · have first := @insertRun_alone u t rfl storable
    rw [if_pos taken] at first
    have second : step (alone u { t with phase := .repeated }) (.commit id) =
        some ((alone u { t with phase := .repeated }).close id) := by
      simp only [step, show (alone u { t with phase := .repeated }).transactions.get? id =
        some ⟨id, call, now, .repeated⟩ from get?_alone]
    exact ⟨_, _, (begun.snoc trivial first).snoc trivial second, rfl, fun _ => rfl⟩
  · have absent : ¬ (db.classificationRuns.get? t.run.key).isSome = true := by
      rw [Table.get?_eq_none_iff.2 (Table.fresh_of_insert? accepted)]
      exact Bool.false_ne_true
    have first := @insertRun_alone db t rfl storable
    rw [if_neg absent] at first
    have second := @addUsage_alone db { t with phase := .inserted } rfl fits
    have third := @commit_alone db { t with phase := .counted (usageRow t.run now db.apiUsageDaily) }
      _ _ rfl accepted
    refine ⟨_, _, ((begun.snoc trivial first).snoc trivial second).snoc trivial third, rfl,
      fun k => ?_⟩
    have key : (usageRow t.run now db.apiUsageDaily).key = (currentDate now, t.run.model) :=
      usageRow_key
    rw [daily, ← key]
    exact Table.get?_upsert

end Alone

end LeadAssistant.UsageLedger
