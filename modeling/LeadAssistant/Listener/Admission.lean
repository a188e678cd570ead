/-
Module: LeadAssistant.Listener.Admission
Layer: Listener
Purpose: Which interleavings of `persist` calls admit a fingerprint once. The statement decides on
  the sighting in its own snapshot, so a transaction that waits for another one's row still admits
  its message after the other has committed. Everything else admits once.
Trusted boundary: human-reviewed spec
Main exports: Change, step_change, AdmittedOnce, NotOvertaken, admitted_once,
  admitted_twice_after_wait
-/
import LeadAssistant.Listener.Ingestion

namespace LeadAssistant.Ingestion

open Relational Transition

section Changes

variable (messageFingerprint : String → String) (window : Int)

/-- A statement of an open transaction that leaves it open, by the phases before and after it. -/
inductive Advance (s : Intake) (persist : Persist) : Phase → Phase → Prop where
  | chatRead (monitoredChatId : UUID) : Advance s persist .begun (.active monitoredChatId)
  | statementStarted (monitoredChatId : UUID) : Advance s persist (.active monitoredChatId)
      (.registering monitoredChatId (s.lastSeen (persist.key messageFingerprint)))
  | rowWritten (monitoredChatId : UUID) (prior : Option Time) :
      Advance s persist (.registering monitoredChatId prior)
        (.registered monitoredChatId prior (JobRepository.admits window s.clock prior))
  | jobInserted (monitoredChatId : UUID) (prior : Option Time) (newId : UUID) :
      Advance s persist (.registered monitoredChatId prior true)
        (.enqueued monitoredChatId prior newId)

/-- The commit of an open transaction. -/
inductive Commit (s : Intake) (persist : Persist) : Intake → Prop where
  | suppressed (monitoredChatId : UUID) (prior : Option Time)
      (phase : persist.phase = .registered monitoredChatId prior false) :
      Commit s persist ((s.close persist.id (persist.sighted messageFingerprint s.db)).answer
        persist.message .duplicateSuppressed false)
  | admitted (monitoredChatId : UUID) (prior : Option Time) (newId jobId : UUID) (db : Database)
      (created : Bool) (phase : persist.phase = .enqueued monitoredChatId prior newId)
      (enqueued : JobRepository.enqueue (newJob persist.message persist.text monitoredChatId) newId
        persist.startedAt (persist.sighted messageFingerprint s.db) = .ok (jobId, db)) :
      Commit s persist ((s.close persist.id db).answer persist.message .enqueued created)

/-- What one step does. -/
inductive Change (s : Intake) (e : Event) : Intake → Prop where
  | time (now : Time) (forward : s.clock ≤ now) : Change s e { s with clock := now }
  | textless (message : IncomingMessage) (empty : message.text = none) :
      Change s e (s.answer message .inactiveChat false)
  | opened (persist : Persist) (opened : Table Persist.id)
      (inserted : s.opened.insert? persist = some opened) (now : persist.startedAt = s.clock)
      (phase : persist.phase = .begun) : Change s e { s with opened := opened }
  | inactive (persist : Persist) (held : persist ∈ s.opened)
      (absent : MonitoredChatRepository.activeId? persist.message.telegramChatId s.db = none) :
      Change s e ((s.close persist.id s.db).answer persist.message .inactiveChat false)
  | advanced (persist : Persist) (held : persist ∈ s.opened) (phase : Phase)
      (advance : Advance messageFingerprint window s persist persist.phase phase) :
      Change s e (s.setPhase persist.id phase)
  | committed (persist : Persist) (held : persist ∈ s.opened) (event : e = .commit persist.id)
      (u : Intake) (commit : Commit messageFingerprint s persist u) : Change s e u
  | rolledBack (persist : Persist) (held : persist ∈ s.opened) : Change s e (s.close persist.id s.db)

variable {messageFingerprint window} {s u : Intake} {e : Event}

theorem step_commit {id : Nat} (next : step messageFingerprint window s (.commit id) = some u) :
    ∃ persist ∈ s.opened, persist.id = id ∧ Commit messageFingerprint s persist u := by
  simp only [step] at next
  split at next
  · rename_i found
    have held := Table.mem_of_get? found
    cases Table.key_of_get? found
    cases next
    exact ⟨_, held, rfl, .suppressed _ _ rfl⟩
  · rename_i found
    have held := Table.mem_of_get? found
    cases Table.key_of_get? found
    split at next
    · simp at next
    · rename_i enqueued
      cases next
      exact ⟨_, held, rfl, .admitted _ _ _ _ _ _ rfl enqueued⟩
  · simp at next

theorem step_change (next : step messageFingerprint window s e = some u) :
    Change messageFingerprint window s e u := by
  cases e with
  | tick now =>
      simp only [step] at next
      split at next
      · rename_i forward
        cases next
        exact .time now forward
      · simp at next
  | begin id message =>
      simp only [step] at next
      split at next
      · rename_i empty
        cases next
        exact .textless message empty
      · rcases Option.map_eq_some_iff.1 next with ⟨opened, inserted, rfl⟩
        exact .opened _ opened inserted rfl rfl
  | readChat id =>
      simp only [step] at next
      split at next
      · rename_i found
        have held := Table.mem_of_get? found
        cases Table.key_of_get? found
        split at next
        · rename_i absent
          cases next
          exact .inactive _ held absent
        · cases next
          exact .advanced _ held _ (.chatRead _)
      · simp at next
  | startRegister id =>
      simp only [step] at next
      split at next
      · rename_i found
        have held := Table.mem_of_get? found
        cases Table.key_of_get? found
        cases next
        exact .advanced _ held _ (.statementStarted _)
      · simp at next
  | write id =>
      simp only [step] at next
      split at next
      · rename_i found
        have held := Table.mem_of_get? found
        cases Table.key_of_get? found
        split at next
        · simp at next
        · cases next
          exact .advanced _ held _ (.rowWritten _ _)
      · simp at next
  | enqueue id newId =>
      simp only [step] at next
      split at next
      · rename_i found
        have held := Table.mem_of_get? found
        cases Table.key_of_get? found
        split at next
        · cases next
          exact .rolledBack _ held
        · cases next
          exact .advanced _ held _ (.jobInserted _ _ _)
      · simp at next
  | commit id =>
      rcases step_commit next with ⟨persist, held, rfl, commit⟩
      exact .committed persist held rfl u commit
  | rollback id =>
      simp only [step] at next
      split at next
      · rename_i found
        have held := Table.mem_of_get? found
        cases Table.key_of_get? found
        cases next
        exact .rolledBack _ held
      · simp at next

end Changes

section Once

variable (messageFingerprint : String → String) (window : Int) (key : Int × String)

/-- The call was for a message with the key. -/
def Outcome.isFor (outcome : Outcome) : Bool :=
  outcome.message.text.any
    (fun text => (outcome.message.telegramChatId, messageFingerprint text) = key)

/-- The number of calls for the key that returned `ENQUEUED`. -/
def Intake.admissions (s : Intake) : Nat :=
  s.outcomes.countP (fun outcome => outcome.isFor messageFingerprint key &&
    outcome.result = .enqueued)

/-- At most one call for the key has returned `ENQUEUED`, every other one `DUPLICATE_SUPPRESSED`,
and only a call that returned `ENQUEUED` has created a job. -/
structure AdmittedOnce (s : Intake) : Prop where
  once : s.admissions messageFingerprint key ≤ 1
  others : ∀ outcome ∈ s.outcomes, outcome.isFor messageFingerprint key = true →
    outcome.result = .enqueued ∨ outcome.result = .duplicateSuppressed
  creates : ∀ outcome ∈ s.outcomes, outcome.created = true → outcome.result = .enqueued

/-- A transaction for the key that commits on a sighting outside the window, or on none, is the
first to commit one since its statement started. -/
def NotOvertaken (s : Intake) (e : Event) : Prop :=
  match e with
  | .commit id => ∀ persist ∈ s.opened.get? id, persist.key messageFingerprint = key →
      ∀ prior ∈ persist.phase.prior?, JobRepository.admits window s.clock prior = true →
        s.lastSeen key = prior
  | _ => True

/-- The start: the chat is monitored, no transaction is open, and the key has no sighting inside
the window. -/
structure Start (s : Intake) : Prop where
  active : (MonitoredChatRepository.activeId? key.1 s.db).isSome
  idle : ∀ persist, persist ∉ s.opened
  silent : s.outcomes = []
  unseen : ∀ t ∈ s.lastSeen key, t ≤ s.clock - window

/-- A sighting outside the window that begins at `origin`, or none. -/
def Old (origin : Time) (prior : Option Time) : Prop :=
  ∀ t ∈ prior, t ≤ origin - window

/-- A sighting of the run that begins at `origin`. -/
def Recent (origin : Time) (prior : Option Time) : Prop :=
  ∃ t ∈ prior, origin ≤ t

/-- What a transaction of the run has read, and decided from it. -/
def Phase.Sound (origin : Time) : Phase → Prop
  | .begun | .active _ => True
  | .registering _ prior => Old window origin prior ∨ Recent origin prior
  | .registered _ prior true | .enqueued _ prior _ => Old window origin prior
  | .registered _ prior false => Recent origin prior

/-- Before the first commit of a sighting all transactions have read the same; after it exactly one
message has been admitted. -/
structure Sound (origin : Time) (s : Intake) : Prop where
  clock : origin ≤ s.clock
  active : (MonitoredChatRepository.activeId? key.1 s.db).isSome
  opened : ∀ persist ∈ s.opened, persist.key messageFingerprint = key →
    origin ≤ persist.startedAt ∧ persist.phase.Sound window origin
  others : ∀ outcome ∈ s.outcomes, outcome.isFor messageFingerprint key = true →
    outcome.result = .enqueued ∨ outcome.result = .duplicateSuppressed
  creates : ∀ outcome ∈ s.outcomes, outcome.created = true → outcome.result = .enqueued
  stage : (s.admissions messageFingerprint key = 0 ∧ Old window origin (s.lastSeen key) ∧
      ∀ persist ∈ s.opened, persist.key messageFingerprint = key →
        ∀ prior ∈ persist.phase.prior?, prior = s.lastSeen key) ∨
    (s.admissions messageFingerprint key = 1 ∧ Recent origin (s.lastSeen key))

variable {messageFingerprint window key} {origin : Time} {s u : Intake} {e : Event}

theorem admits_of_old {prior : Option Time} {now : Time} (old : Old window origin prior)
    (after : origin ≤ now) : JobRepository.admits window now prior = true := by
  unfold JobRepository.admits
  cases prior with
  | none => rfl
  | some t =>
      have outside := old t rfl
      simp only [Option.all_some, decide_eq_true_eq]
      exact outside.trans (Int.sub_le_sub_right after window)

theorem not_admits_of_recent {prior : Option Time} {now : Time} (recent : Recent origin prior)
    (short : now < origin + window) : JobRepository.admits window now prior = false := by
  rcases recent with ⟨t, rfl, inside⟩
  unfold JobRepository.admits
  simp only [Option.all_some, decide_eq_false_iff_not, not_le]
  exact (Int.sub_right_lt_of_lt_add short).trans_le inside

theorem not_recent_of_old {prior : Option Time} (positive : 0 < window)
    (old : Old window origin prior) : ¬ Recent origin prior := by
  rintro ⟨t, read, inside⟩
  have before : origin - window < origin := Int.sub_lt_self origin positive
  exact absurd ((inside.trans (old t read)).trans_lt before) (lt_irrefl origin)

theorem admissions_answer {message : IncomingMessage} {result : PersistOutcome} {created : Bool} :
    (s.answer message result created).admissions messageFingerprint key =
      s.admissions messageFingerprint key +
        if Outcome.isFor messageFingerprint key ⟨message, result, created⟩ = true ∧
          result = .enqueued then 1 else 0 := by
  unfold Intake.admissions Intake.answer
  rw [List.countP_append, List.countP_singleton]
  simp only [Bool.and_eq_true, decide_eq_true_eq]

theorem Persist.isFor_iff {persist : Persist} {result : PersistOutcome} {created : Bool} :
    Outcome.isFor messageFingerprint key ⟨persist.message, result, created⟩ = true ↔
      persist.key messageFingerprint = key := by
  simp [Outcome.isFor, persist.hasText, Persist.key]

theorem admissions_commit {persist : Persist} {db : Database} {result : PersistOutcome}
    {created : Bool} :
    ((s.close persist.id db).answer persist.message result created).admissions
        messageFingerprint key =
      s.admissions messageFingerprint key +
        if persist.key messageFingerprint = key ∧ result = .enqueued then 1 else 0 := by
  have counted : (s.close persist.id db).admissions messageFingerprint key =
      s.admissions messageFingerprint key := rfl
  rw [admissions_answer, counted]
  simp only [Persist.isFor_iff]

/-- A transaction's sighting changes the row of its own key alone. -/
theorem lastSeen_sighted {persist : Persist} {db : Database}
    (table : db.recentMessageFingerprints =
      (persist.sighted messageFingerprint s.db).recentMessageFingerprints) :
    (s.close persist.id db).lastSeen key =
      if key = persist.key messageFingerprint then some persist.startedAt else s.lastSeen key := by
  unfold Intake.lastSeen Intake.close
  dsimp only
  rw [table]
  exact JobRepository.existing_recordSighting

/-- Opening, advancing and closing transactions keeps soundness when each transaction that is open
afterwards has read what one before had read, or what is committed. -/
theorem Sound.reopen {opened : Table Persist.id}
    (sound : Sound messageFingerprint window key origin s)
    (kept : ∀ persist ∈ opened, persist.key messageFingerprint = key →
      origin ≤ persist.startedAt ∧ persist.phase.Sound window origin ∧
        ∀ prior ∈ persist.phase.prior?, prior = s.lastSeen key ∨ ∃ before ∈ s.opened,
          before.key messageFingerprint = key ∧ prior ∈ before.phase.prior?) :
    Sound messageFingerprint window key origin { s with opened := opened } where
  clock := sound.clock
  active := sound.active
  opened := fun persist held own => ⟨(kept persist held own).1, (kept persist held own).2.1⟩
  others := sound.others
  creates := sound.creates
  stage := by
    rcases sound.stage with ⟨none_yet, old, same⟩ | one
    · left
      refine ⟨none_yet, old, ?_⟩
      intro persist held own prior read
      rcases (kept persist held own).2.2 prior read with current | ⟨before, held', own', read'⟩
      · exact current
      · exact same before held' own' prior read'
    · right
      exact one

/-- A transaction that ends without a commit. -/
theorem Sound.closed {id : Nat} (sound : Sound messageFingerprint window key origin s) :
    Sound messageFingerprint window key origin (s.close id s.db) := by
  apply sound.reopen
  intro persist held own
  have before := (Table.mem_erase.1 held).1
  rcases sound.opened persist before own with ⟨started, phase⟩
  exact ⟨started, phase, fun prior read => Or.inr ⟨persist, before, own, read⟩⟩

/-- A call about another key returns. -/
theorem Sound.answered {message : IncomingMessage} {result : PersistOutcome}
    (sound : Sound messageFingerprint window key origin s)
    (other : Outcome.isFor messageFingerprint key ⟨message, result, false⟩ = false) :
    Sound messageFingerprint window key origin (s.answer message result false) where
  clock := sound.clock
  active := sound.active
  opened := sound.opened
  others := by
    intro outcome made own
    rcases List.mem_append.1 made with before | this
    · exact sound.others outcome before own
    · rw [List.mem_singleton.1 this, other] at own
      exact absurd own Bool.false_ne_true
  creates := by
    intro outcome made created
    rcases List.mem_append.1 made with before | this
    · exact sound.creates outcome before created
    · rw [List.mem_singleton.1 this] at created
      exact absurd created Bool.false_ne_true
  stage := by
    have same : (s.answer message result false).admissions messageFingerprint key =
        s.admissions messageFingerprint key := by
      rw [admissions_answer, other]
      simp
    rw [same]
    exact sound.stage

theorem Sound.advanced {persist : Persist} {phase : Phase}
    (sound : Sound messageFingerprint window key origin s) (short : s.clock < origin + window)
    (held : persist ∈ s.opened)
    (advance : Advance messageFingerprint window s persist persist.phase phase) :
    Sound messageFingerprint window key origin (s.setPhase persist.id phase) := by
  apply sound.reopen
  intro after held' own
  rcases Table.mem_update.1 held' with ⟨same, _⟩ | ⟨before, held_before, same_id, rfl⟩
  · rcases sound.opened after same own with ⟨started, phase_sound⟩
    exact ⟨started, phase_sound, fun prior read => Or.inr ⟨after, same, own, read⟩⟩
  · have is_persist : before = persist := Table.eq_of_key_eq held_before held same_id
    subst is_persist
    rcases sound.opened before held own with ⟨started, phase_sound⟩
    have read_before : ∀ prior ∈ before.phase.prior?, prior = s.lastSeen key ∨
        ∃ other ∈ s.opened, other.key messageFingerprint = key ∧ prior ∈ other.phase.prior? :=
      fun prior read => Or.inr ⟨before, held, own, read⟩
    refine ⟨started, ?_⟩
    generalize phase_eq : before.phase = current at advance phase_sound read_before
    cases advance with
    | chatRead monitoredChatId => exact ⟨trivial, fun prior read => by simp [Phase.prior?] at read⟩
    | statementStarted monitoredChatId =>
        have own' : before.key messageFingerprint = key := own
        constructor
        · show Old window origin _ ∨ Recent origin _
          rw [own']
          rcases sound.stage with ⟨_, old, _⟩ | ⟨_, recent⟩
          · exact Or.inl old
          · exact Or.inr recent
        · intro prior read
          simp only [Phase.prior?, Option.mem_def, Option.some.injEq] at read
          left
          rw [← read, own']
    | rowWritten monitoredChatId prior =>
        constructor
        · rcases phase_sound with old | recent
          · rw [admits_of_old old sound.clock]
            exact old
          · rw [not_admits_of_recent recent short]
            exact recent
        · exact read_before
    | jobInserted monitoredChatId prior newId => exact ⟨phase_sound, read_before⟩

/-- A commit keeps soundness when, for the key, it is the one that makes a single admission. -/
theorem Sound.commits {persist : Persist} {db : Database} {result : PersistOutcome} {created : Bool}
    (sound : Sound messageFingerprint window key origin s) (held : persist ∈ s.opened)
    (table : db.recentMessageFingerprints =
      (persist.sighted messageFingerprint s.db).recentMessageFingerprints)
    (chats : db.monitoredChats = s.db.monitoredChats)
    (decided : result = .enqueued ∨ result = .duplicateSuppressed)
    (creates : created = true → result = .enqueued)
    (single : persist.key messageFingerprint = key →
      s.admissions messageFingerprint key + (if result = .enqueued then 1 else 0) = 1) :
    Sound messageFingerprint window key origin
      ((s.close persist.id db).answer persist.message result created) where
  clock := sound.clock
  active := by
    have same : MonitoredChatRepository.activeId? key.1 db =
        MonitoredChatRepository.activeId? key.1 s.db := by
      unfold MonitoredChatRepository.activeId?
      rw [chats]
    show (MonitoredChatRepository.activeId? key.1 db).isSome
    rw [same]
    exact sound.active
  opened := fun other open_ own => sound.opened other (Table.mem_erase.1 open_).1 own
  others := by
    intro outcome made own
    rcases List.mem_append.1 made with before | this
    · exact sound.others outcome before own
    · rw [List.mem_singleton.1 this]
      exact decided
  creates := by
    intro outcome made inserted
    rcases List.mem_append.1 made with before | this
    · exact sound.creates outcome before inserted
    · rw [List.mem_singleton.1 this] at inserted ⊢
      exact creates inserted
  stage := by
    have seen : ((s.close persist.id db).answer persist.message result created).lastSeen key =
        if key = persist.key messageFingerprint then some persist.startedAt else s.lastSeen key :=
      lastSeen_sighted table
    rw [seen, admissions_commit]
    by_cases own : persist.key messageFingerprint = key
    · right
      simp only [own, true_and, if_true]
      exact ⟨single own, persist.startedAt, rfl, (sound.opened persist held own).1⟩
    · rw [if_neg (Ne.symm own), if_neg (fun both => own both.1)]
      rcases sound.stage with ⟨none_yet, old, same⟩ | one
      · left
        exact ⟨none_yet, old, fun other open_ => same other (Table.mem_erase.1 open_).1⟩
      · right
        exact one

theorem Sound.committed {persist : Persist} (positive : 0 < window)
    (sound : Sound messageFingerprint window key origin s) (held : persist ∈ s.opened)
    (allowed : persist.key messageFingerprint = key → ∀ prior ∈ persist.phase.prior?,
      JobRepository.admits window s.clock prior = true → s.lastSeen key = prior)
    (commit : Commit messageFingerprint s persist u) :
    Sound messageFingerprint window key origin u := by
  cases commit with
  | suppressed monitoredChatId prior phase =>
      apply sound.commits held rfl rfl (Or.inr rfl) (fun created => by simp at created)
      intro own
      have recent : Recent origin prior := by
        have phase_sound := (sound.opened persist held own).2
        rw [phase] at phase_sound
        exact phase_sound
      rcases sound.stage with ⟨_, old, same⟩ | one
      · have read := same persist held own prior (by rw [phase]; rfl)
        exact absurd (read ▸ recent) (not_recent_of_old positive old)
      · rw [one.1]
        simp
  | admitted monitoredChatId prior newId jobId db created phase enqueued =>
      rcases JobRepository.enqueue_jobs enqueued with ⟨jobs, written⟩
      apply sound.commits held (by rw [written]; rfl) (by rw [written]; rfl) (Or.inl rfl)
        (fun _ => rfl)
      intro own
      have old : Old window origin prior := by
        have phase_sound := (sound.opened persist held own).2
        rw [phase] at phase_sound
        exact phase_sound
      rcases sound.stage with ⟨none_yet, _⟩ | ⟨_, recent⟩
      · rw [none_yet]
        rfl
      · -- Another sighting is committed, yet it would have to be the one that was read.
        have read := allowed own prior (by rw [phase]; rfl) (admits_of_old old sound.clock)
        exact absurd (read ▸ recent) (not_recent_of_old positive old)

theorem sound_step (positive : 0 < window)
    (sound : Sound messageFingerprint window key origin s) (short : s.clock < origin + window)
    (allowed : NotOvertaken messageFingerprint window key s e)
    (next : step messageFingerprint window s e = some u) :
    Sound messageFingerprint window key origin u := by
  cases step_change next with
  | time now forward => exact { sound with clock := sound.clock.trans forward }
  | textless message empty =>
      apply sound.answered
      simp [Outcome.isFor, empty]
  | opened persist opened inserted now phase =>
      apply sound.reopen
      intro other held own
      rcases (Table.mem_insert? inserted).1 held with before | rfl
      · rcases sound.opened other before own with ⟨started, phase_sound⟩
        exact ⟨started, phase_sound, fun prior read => Or.inr ⟨other, before, own, read⟩⟩
      · rw [now, phase]
        exact ⟨sound.clock, trivial, fun prior read => by simp [Phase.prior?] at read⟩
  | inactive persist held absent =>
      apply sound.closed.answered
      rw [Bool.eq_false_iff]
      intro own
      have chat : persist.message.telegramChatId = key.1 :=
        congrArg Prod.fst (Persist.isFor_iff.1 own)
      have active := sound.active
      rw [← chat, absent] at active
      exact absurd active Bool.false_ne_true
  | advanced persist held phase advance => exact sound.advanced short held advance
  | committed persist held event _ commit =>
      subst event
      exact sound.committed positive held (allowed persist (Table.get?_of_mem held)) commit
  | rolledBack persist held => exact sound.closed

theorem clock_step (next : step messageFingerprint window s e = some u) : s.clock ≤ u.clock := by
  cases step_change next with
  | time now forward => exact forward
  | committed persist held event _ commit => cases commit <;> exact le_refl _
  | _ => exact le_refl _

theorem sound_run {t : Intake} {es : List Event} (positive : 0 < window)
    (start : Start window key s)
    (run : Run (step messageFingerprint window) (NotOvertaken messageFingerprint window key) s es t)
    (short : t.clock < s.clock + window) :
    Sound messageFingerprint window key s.clock t := by
  induction run with
  | nil =>
      constructor
      · exact le_refl _
      · exact start.active
      · exact fun persist held => absurd held (start.idle persist)
      · simp [start.silent]
      · simp [start.silent]
      · left
        refine ⟨?_, start.unseen, fun persist held => absurd held (start.idle persist)⟩
        simp [Intake.admissions, start.silent]
  | snoc before allowed next ih =>
      have earlier := (clock_step next).trans_lt short
      exact sound_step positive (ih earlier) earlier allowed next

/-- A transaction for the key commits as a single admission exactly when it is not overtaken. -/
theorem committed_once_iff {id : Nat} (positive : 0 < window)
    (sound : Sound messageFingerprint window key origin s) (short : s.clock < origin + window)
    (next : step messageFingerprint window s (.commit id) = some u) :
    AdmittedOnce messageFingerprint key u ↔
      NotOvertaken messageFingerprint window key s (.commit id) := by
  constructor
  · intro once persist found own prior read admits
    have held := Table.mem_of_get? found
    rcases step_commit next with ⟨other, held', same_id, commit⟩
    have is_persist : other = persist :=
      Table.eq_of_key_eq held' held (same_id.trans (Table.key_of_get? found).symm)
    subst is_persist
    have phase_sound := (sound.opened other held own).2
    rcases sound.stage with ⟨_, _, same⟩ | ⟨one, _⟩
    · exact (same other held own prior read).symm
    · cases commit with
      | suppressed monitoredChatId prior' phase =>
          rw [phase] at phase_sound read
          simp only [Phase.prior?, Option.mem_def, Option.some.injEq] at read
          rw [← read, not_admits_of_recent phase_sound short] at admits
          exact absurd admits Bool.false_ne_true
      | admitted monitoredChatId prior' newId jobId db created phase enqueued =>
          have counted := once.once
          rw [admissions_commit, if_pos ⟨own, rfl⟩] at counted
          omega
  · intro allowed
    have after := sound_step positive sound short allowed next
    constructor
    · rcases after.stage with ⟨none_yet, _⟩ | ⟨one, _⟩ <;> omega
    · exact after.others
    · exact after.creates

end Once

/-- In every run shorter than the window in which no committing transaction is overtaken, at most
one call for the key is admitted and all others are suppressed. In a state so reached, a commit
keeps this exactly when its transaction is not overtaken. -/
theorem admitted_once {messageFingerprint : String → String} {window : Int} {key : Int × String}
    {s t : Intake} {es : List Event} (positive : 0 < window) (start : Start window key s)
    (run : Run (step messageFingerprint window) (NotOvertaken messageFingerprint window key) s es t)
    (short : t.clock < s.clock + window) :
    AdmittedOnce messageFingerprint key t ∧ ∀ id u,
      step messageFingerprint window t (.commit id) = some u →
        (AdmittedOnce messageFingerprint key u ↔
          NotOvertaken messageFingerprint window key t (.commit id)) := by
  have sound := sound_run positive start run short
  constructor
  · constructor
    · rcases sound.stage with ⟨none_yet, _⟩ | ⟨one, _⟩ <;> omega
    · exact sound.others
    · exact sound.creates
  · intro id u next
    exact committed_once_iff positive sound short next

/-- A monitored chat whose last sighting of the text `a` lies outside a window of ten. -/
def sampleIntake : Intake where
  db := {
    monitoredChats := ⟨[⟨1, -100, "Support", none, .supergroup, .active, none, 0, 0, none, none⟩],
      by decide⟩
    recentMessageFingerprints := ⟨[⟨-100, "a", 3⟩], by decide⟩ }
  clock := 20

def samplePost (messageId : Int) : IncomingMessage :=
  ⟨-100, messageId, none, none, none, some "a", 20⟩

theorem sampleIntake_start : Start 10 (-100, "a") sampleIntake where
  active := rfl
  idle := Table.not_mem_empty
  silent := rfl
  unseen := by decide

instance (messageFingerprint : String → String) (window : Int) (key : Int × String) (s : Intake)
    (e : Event) : Decidable (NotOvertaken messageFingerprint window key s e) := by
  unfold NotOvertaken
  cases e <;> dsimp only <;> infer_instance

/-- Two overlapping transactions, the second of which starts its statement after the first one has
committed. -/
theorem admitted_once_sample : ∃ t : Intake, AdmittedOnce id (-100, "a") t ∧
    t.outcomes = [⟨samplePost 41, .enqueued, true⟩,
      ⟨samplePost 42, .duplicateSuppressed, false⟩] := by
  have computed : (exec (step id 10) (NotOvertaken id 10 (-100, "a")) sampleIntake
      [.begin 1 (samplePost 41), .begin 2 (samplePost 42), .readChat 1, .readChat 2,
        .startRegister 1, .write 1, .enqueue 1 7, .commit 1, .startRegister 2, .write 2,
        .commit 2]).map (fun t => (t.outcomes, t.clock)) =
      some ([⟨samplePost 41, .enqueued, true⟩, ⟨samplePost 42, .duplicateSuppressed, false⟩], 20) := by
    decide +kernel
  rcases Run.exists_of_exec computed with ⟨t, run, value⟩
  simp only [Prod.mk.injEq] at value
  have short : t.clock < sampleIntake.clock + 10 := by
    rw [value.2]
    decide
  exact ⟨t, (admitted_once (by decide) sampleIntake_start run short).1, value.1⟩

/-- The second statement starts before the first transaction commits, waits for its row, and still
decides on the sighting it read before. -/
theorem admitted_twice_after_wait : ∃ t : Intake,
    Run (step id 10) anyEvent sampleIntake
      [.begin 1 (samplePost 41), .begin 2 (samplePost 42), .readChat 1, .readChat 2,
        .startRegister 1, .startRegister 2, .write 1, .enqueue 1 7, .commit 1, .write 2,
        .enqueue 2 8, .commit 2] t ∧
    t.outcomes = [⟨samplePost 41, .enqueued, true⟩, ⟨samplePost 42, .enqueued, true⟩] ∧
    ¬ AdmittedOnce id (-100, "a") t := by
  have computed : (exec (step id 10) anyEvent sampleIntake
      [.begin 1 (samplePost 41), .begin 2 (samplePost 42), .readChat 1, .readChat 2,
        .startRegister 1, .startRegister 2, .write 1, .enqueue 1 7, .commit 1, .write 2,
        .enqueue 2 8, .commit 2]).map (fun t => t.outcomes) =
      some [⟨samplePost 41, .enqueued, true⟩, ⟨samplePost 42, .enqueued, true⟩] := by
    decide +kernel
  rcases Run.exists_of_exec computed with ⟨t, run, outcomes⟩
  refine ⟨t, run, outcomes, ?_⟩
  intro once
  have counted := once.once
  unfold Intake.admissions at counted
  rw [outcomes] at counted
  exact absurd counted (by decide)

end LeadAssistant.Ingestion
