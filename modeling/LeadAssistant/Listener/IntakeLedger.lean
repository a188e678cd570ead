/-
Module: LeadAssistant.Listener.IntakeLedger
Layer: Listener
Purpose: What holds of the listener's intake over whole runs. The allow-list is what the refresh that
  was published last found active; a job is inserted by the commit of a call that an update from a
  chat on the list has opened, passed by the prefilter, and that has found the chat active itself; and
  every received message is accounted for by the metrics, an inactive chat or a call that has not
  ended or was cut off.
Trusted boundary: human-reviewed spec
Main exports: Listener.Balanced, Listener.balanced_of_run, Listener.Snapshot,
  Listener.snapshot_of_run, Listener.Handles, Listener.Provenance, Listener.jobs_admitted
-/
import LeadAssistant.Listener.IngestionHandler

namespace LeadAssistant

open Relational Transition

namespace Listener

variable {u : UnicodeData} {messageFingerprint : String → String} {window : Int}
  {s t r : Listener} {es : List ListenerEvent} {e : ListenerEvent}

/-! ### The metrics -/

/-- Every received message is counted once more, or its chat was inactive, or its call was cancelled,
cut off or is still open; and the counters of answers are those of the calls. -/
structure Balanced (s : Listener) : Prop where
  received : s.metrics.count .received =
    s.metrics.countP Metric.isFiltered + s.metrics.count .created +
      s.metrics.count .duplicatePrevented + s.metrics.count .failed +
      s.intake.outcomes.countP (fun outcome => outcome.result = .inactiveChat) + s.cancelled +
      s.intake.opened.rows.length
  created : s.metrics.count .created =
    s.intake.outcomes.countP (fun outcome => outcome.result = .enqueued)
  duplicates : s.metrics.count .duplicatePrevented =
    s.intake.outcomes.countP (fun outcome => outcome.result = .duplicateSuppressed)

theorem Balanced.fresh (intake : Ingestion.Intake) (idle : intake.opened.rows = [])
    (silent : intake.outcomes = []) : Balanced { intake := intake } where
  received := by simp [idle, silent]
  created := by simp [silent]
  duplicates := by simp [silent]

/-- What is counted at the end of a statement. -/
theorem settled_open {before after : Ingestion.Intake} {id : Nat}
    (held : (after.opened.get? id).isSome) : settled before after id = [] := by
  rw [settled, if_pos held]

theorem get?_close (intake : Ingestion.Intake) (id : Nat) (db : Database) :
    (intake.close id db).opened.get? id = none := by
  unfold Ingestion.Intake.close
  rw [Table.get?_erase, if_pos rfl]

theorem Balanced.statement {e : Ingestion.Event} {persist : Ingestion.Persist}
    {intake : Ingestion.Intake} (balanced : Balanced s) (held : persist ∈ s.intake.opened)
    (progress : Ingestion.Progress s.intake e persist intake) :
    Balanced { s with
      intake := intake, metrics := s.metrics ++ settled s.intake intake persist.id } := by
  obtain ⟨received, created, duplicates⟩ := balanced
  have one := Table.length_erase held
  cases progress with
  | advanced phase chats =>
      have kept : ((s.intake.setPhase persist.id phase).opened.get? persist.id).isSome := by
        unfold Ingestion.Intake.setPhase
        rw [Table.get?_update, Table.get?_of_mem held]
        simp
      rw [settled_open kept, List.append_nil]
      refine ⟨?_, created, duplicates⟩
      rw [received]
      simp [Ingestion.Intake.setPhase, Table.update, Table.updateWhere]
  | answered db result made jobs =>
      have gone := get?_close s.intake persist.id db
      have counted : settled s.intake
          ((s.intake.close persist.id db).answer persist.message result made) persist.id =
            answered result := by
        unfold settled Ingestion.Intake.answer
        rw [gone, if_neg (by simp)]
        simp [Ingestion.Intake.close]
      rw [counted]
      cases result with
      | enqueued | duplicateSuppressed | inactiveChat =>
          refine ⟨?_, ?_, ?_⟩
          all_goals simp [answered, Ingestion.Intake.answer, Ingestion.Intake.close,
            Metric.isFiltered] at *
          all_goals omega
  | raised =>
      have counted : settled s.intake (s.intake.close persist.id s.intake.db) persist.id =
          [.failed] := by
        unfold settled
        rw [get?_close, if_neg (by simp)]
        simp [Ingestion.Intake.close]
      rw [counted]
      refine ⟨?_, ?_, ?_⟩
      all_goals simp [Ingestion.Intake.close, Metric.isFiltered] at *
      all_goals omega

/-- One event of the listener keeps the books. -/
theorem Balanced.step (balanced : Balanced s)
    (next : step u messageFingerprint window s e = some t) : Balanced t := by
  cases e with
  | tick now =>
      obtain ⟨intake, moved, rfl⟩ := Option.map_eq_some_iff.1 next
      simp only [Ingestion.step] at moved
      split at moved
      · cases moved
        exact ⟨balanced.received, balanced.created, balanced.duplicates⟩
      · simp at moved
  | load | abandon =>
      cases next
      exact ⟨balanced.received, balanced.created, balanced.duplicates⟩
  | publish =>
      obtain ⟨chatIds, -, rfl⟩ := Option.map_eq_some_iff.1 next
      exact ⟨balanced.received, balanced.created, balanced.duplicates⟩
  | others db =>
      simp only [Listener.step] at next
      split at next
      · cases next
        exact ⟨balanced.received, balanced.created, balanced.duplicates⟩
      · simp at next
  | update id event =>
      obtain ⟨received, created, duplicates⟩ := balanced
      cases receive_cases next with
      | ignored => exact ⟨received, created, duplicates⟩
      | filtered reason =>
          refine ⟨?_, ?_, ?_⟩
          all_goals simp [Metric.isFiltered] at *
          all_goals omega
      | opened chatId persist opened admits own message begun inserted =>
          refine ⟨?_, ?_, ?_⟩
          all_goals simp [Table.rows_insert? inserted, Metric.isFiltered] at *
          all_goals omega
  | statement e =>
      simp only [Listener.step] at next
      split at next
      · simp at next
      · rename_i id call
        obtain ⟨intake, moved, rfl⟩ := Option.map_eq_some_iff.1 next
        obtain ⟨persist, held, rfl, progress⟩ := Ingestion.statement_progress call moved
        exact balanced.statement held progress
  | cancel id =>
      obtain ⟨intake, moved, rfl⟩ := Option.map_eq_some_iff.1 next
      simp only [Ingestion.step] at moved
      split at moved
      · rename_i found
        cases moved
        have one := Table.length_erase (Table.mem_of_get? found)
        rw [Table.key_of_get? found] at one
        obtain ⟨received, created, duplicates⟩ := balanced
        refine ⟨?_, created, duplicates⟩
        simp only [Ingestion.Intake.close]
        omega
      · simp at moved
  | restart =>
      cases next
      obtain ⟨received, created, duplicates⟩ := balanced
      have none_open : (∅ : Table Ingestion.Persist.id).rows.length = 0 := rfl
      refine ⟨?_, created, duplicates⟩
      dsimp only
      omega

/-- The books are balanced in every state, however often the process ends and starts again. -/
theorem balanced_of_run {intake : Ingestion.Intake} (idle : intake.opened.rows = [])
    (silent : intake.outcomes = [])
    (run : Run (step u messageFingerprint window) anyEvent { intake := intake } es t) :
    Balanced t := by
  apply run.invariant (Balanced.fresh intake idle silent)
  intro s e t balanced _ next
  exact balanced.step next

/-! ### The allow-list -/

/-- A chat that is monitored and active. -/
def ActiveIn (db : Database) (chatId : Int) : Prop :=
  ∃ chat ∈ db.monitoredChats, chat.telegramChatId = chatId ∧ chat.status = .active

theorem mem_listActive {db : Database} {chatId : Int} :
    chatId ∈ MonitoredChatRepository.listActiveTelegramChatIds db ↔ ActiveIn db chatId := by
  unfold MonitoredChatRepository.listActiveTelegramChatIds ActiveIn
  simp only [List.mem_map, List.mem_filter, decide_eq_true_eq, Table.mem_rows]
  constructor
  · rintro ⟨chat, ⟨held, active⟩, same⟩
    exact ⟨chat, held, same, active⟩
  · rintro ⟨chat, held, same, active⟩
    exact ⟨chat, ⟨held, active⟩, same⟩

section Lists

variable (u : UnicodeData) (messageFingerprint : String → String) (window : Int) (s : Listener)
  (es : List ListenerEvent)

/-- A refresh has loaded what is active, and is still under way. -/
def Loaded (t : Listener) (P : Listener → Prop) : Prop :=
  Since (step u messageFingerprint window) anyEvent
    (fun _ e => e ≠ .load ∧ e ≠ .publish ∧ e ≠ .abandon ∧ e ≠ .restart) s es t
    (fun _ v e => e = .load ∧ P v)

/-- A refresh was published, and none since. -/
def Published (t : Listener) (P : Listener → Prop) : Prop :=
  Since (step u messageFingerprint window) anyEvent (fun _ e => e ≠ .publish ∧ e ≠ .restart) s es t
    (fun front v e => e = .publish ∧ Loaded u messageFingerprint window s front v P)

/-- The list is empty, or it is what the refresh that was published last found active, and likewise
the answer in hand. -/
structure Snapshot (t : Listener) : Prop where
  published : t.chatIds = [] ∨ Published u messageFingerprint window s es t
    (fun v => ∀ chatId, chatId ∈ t.chatIds ↔ ActiveIn v.intake.db chatId)
  loaded : ∀ chatIds, t.loaded = some chatIds → Loaded u messageFingerprint window s es t
    (fun v => ∀ chatId, chatId ∈ chatIds ↔ ActiveIn v.intake.db chatId)

variable {u messageFingerprint window s es} {P : Listener → Prop}

/-- Only a refresh and a restart change the list and the answer in hand. -/
theorem lists_step (next : step u messageFingerprint window s e = some t)
    (other : e ≠ .load ∧ e ≠ .publish ∧ e ≠ .abandon ∧ e ≠ .restart) :
    t.chatIds = s.chatIds ∧ t.loaded = s.loaded := by
  obtain ⟨unloaded, unpublished, unabandoned, unended⟩ := other
  cases e with
  | load => exact absurd rfl unloaded
  | publish => exact absurd rfl unpublished
  | abandon => exact absurd rfl unabandoned
  | restart => exact absurd rfl unended
  | tick now =>
      obtain ⟨intake, moved, rfl⟩ := Option.map_eq_some_iff.1 next
      exact ⟨rfl, rfl⟩
  | others db =>
      simp only [step] at next
      split at next
      · cases next
        exact ⟨rfl, rfl⟩
      · simp at next
  | update id event =>
      cases receive_cases next with
      | ignored => exact ⟨rfl, rfl⟩
      | filtered reason => exact ⟨rfl, rfl⟩
      | opened chatId persist opened admits own message begun inserted => exact ⟨rfl, rfl⟩
  | statement e =>
      simp only [step] at next
      split at next
      · simp at next
      · obtain ⟨intake, moved, rfl⟩ := Option.map_eq_some_iff.1 next
        exact ⟨rfl, rfl⟩
  | cancel id =>
      obtain ⟨intake, moved, rfl⟩ := Option.map_eq_some_iff.1 next
      exact ⟨rfl, rfl⟩

theorem Snapshot.step {v : Listener} (snapshot : Snapshot u messageFingerprint window s es v)
    (before : Run (step u messageFingerprint window) anyEvent s es v)
    (next : Listener.step u messageFingerprint window v e = some t) :
    Snapshot u messageFingerprint window s (es ++ [e]) t := by
  by_cases other : e ≠ .load ∧ e ≠ .publish ∧ e ≠ .abandon ∧ e ≠ .restart
  · obtain ⟨chatIds, loaded⟩ := lists_step next other
    constructor
    · rw [chatIds]
      exact snapshot.published.imp_right fun published =>
        published.snoc ⟨other.2.1, other.2.2.2⟩ next
    · rw [loaded]
      exact fun chatIds answer => (snapshot.loaded chatIds answer).snoc other next
  · cases e with
    | load =>
        have moved := next
        cases next
        constructor
        · exact snapshot.published.imp_right fun published => published.snoc (by simp) moved
        · intro chatIds answer
          cases answer
          exact Since.last before ⟨rfl, fun _ => mem_listActive⟩ moved
    | publish =>
        have moved := next
        obtain ⟨chatIds, answer, rfl⟩ := Option.map_eq_some_iff.1 next
        constructor
        · exact Or.inr (Since.last before ⟨rfl, snapshot.loaded chatIds answer⟩ moved)
        · exact fun chatIds answer => by cases answer
    | abandon =>
        have moved := next
        cases next
        constructor
        · exact snapshot.published.imp_right fun published => published.snoc (by simp) moved
        · exact fun chatIds answer => by cases answer
    | restart =>
        cases next
        exact ⟨Or.inl rfl, fun chatIds answer => by cases answer⟩
    | _ => simp at other

theorem snapshot_of_run (unlisted : s.chatIds = []) (unloaded : s.loaded = none)
    (run : Run (step u messageFingerprint window) anyEvent s es t) :
    Snapshot u messageFingerprint window s es t := by
  induction run with
  | nil => exact ⟨Or.inl unlisted, fun chatIds answer => by rw [unloaded] at answer; cases answer⟩
  | snoc before _ next ih => exact ih.step before next

theorem Published.imp {Q : Listener → Prop} (published : Published u messageFingerprint window s es t P)
    (each : ∀ v, P v → Q v) : Published u messageFingerprint window s es t Q :=
  Since.imp published fun _ _ _ _ ⟨same, loaded⟩ =>
    ⟨same, Since.imp loaded fun _ v _ _ ⟨load, holds⟩ => ⟨load, each v holds⟩⟩

end Lists

/-! ### Where jobs come from -/

/-- What a step does to the open calls and to the jobs: an update that is let through opens a call,
the query of a call may find its chat active, and the commit of a call inserts its job. -/
structure Handles (u : UnicodeData) (s : Listener) (e : ListenerEvent) (t : Listener) : Prop where
  calls : ∀ persist ∈ t.intake.opened,
    (∃ own ∈ s.intake.opened, own.id = persist.id ∧ own.message = persist.message ∧
      ∀ chat, persist.phase.chat? = some chat → own.phase.chat? = some chat ∨
        e = .statement (.readChat persist.id) ∧
          MonitoredChatRepository.activeId? persist.message.telegramChatId s.intake.db = some chat) ∨
    ∃ event chatId, e = .update persist.id event ∧ Admits u s event chatId ∧
      persist.message = (mapped event chatId).toIncomingMessage ∧ persist.phase.chat? = none
  jobs : ∀ job ∈ t.intake.db.processingJobs,
    (∃ old ∈ s.intake.db.processingJobs, old.id = job.id ∧ old.asNew = job.asNew) ∨
    ∃ persist ∈ s.intake.opened, ∃ chat, e = .statement (.commit persist.id) ∧
      persist.phase.chat? = some chat ∧ (∀ old ∈ s.intake.db.processingJobs, old.id ≠ job.id) ∧
      job.asNew = Ingestion.newJob persist.message persist.text chat

/-- Nothing but the calls that are gone has changed. -/
theorem Handles.of_kept (calls : ∀ persist ∈ t.intake.opened, persist ∈ s.intake.opened)
    (jobs : t.intake.db.processingJobs = s.intake.db.processingJobs) : Handles u s e t where
  calls persist held := Or.inl ⟨persist, calls persist held, rfl, rfl, fun _ named => Or.inl named⟩
  jobs job held := Or.inl ⟨job, jobs ▸ held, rfl, rfl⟩

theorem mem_setPhase {intake : Ingestion.Intake} {id : Nat} {phase : Ingestion.Phase}
    {other : Ingestion.Persist} (there : other ∈ (intake.setPhase id phase).opened) :
    other ∈ intake.opened ∨
      ∃ own ∈ intake.opened, own.id = id ∧ other = { own with phase := phase } := by
  simp only [Ingestion.Intake.setPhase, Table.mem_update] at there
  rcases there with ⟨old, _⟩ | changed
  · exact Or.inl old
  · exact Or.inr changed

theorem Handles.statement {d : Ingestion.Event} {persist : Ingestion.Persist}
    {intake : Ingestion.Intake} {metrics : List Metric} (held : persist ∈ s.intake.opened)
    (progress : Ingestion.Progress s.intake d persist intake) :
    Handles u s (.statement d) { s with intake := intake, metrics := metrics } := by
  cases progress with
  | advanced phase chats =>
      refine ⟨fun other there => Or.inl ?_, fun job there => Or.inl ⟨job, there, rfl, rfl⟩⟩
      rcases mem_setPhase there with old | ⟨own, mine, same, rfl⟩
      · exact ⟨other, old, rfl, rfl, fun _ named => Or.inl named⟩
      · obtain rfl := Table.eq_of_key_eq mine held same
        refine ⟨own, mine, rfl, rfl, fun chat named => (chats chat named).imp_right ?_⟩
        rintro ⟨rfl, active⟩
        exact ⟨rfl, active⟩
  | answered db result created jobs =>
      refine ⟨fun other there => Or.inl ?_, fun job there => ?_⟩
      · exact ⟨other, (Table.mem_erase.1 there).1, rfl, rfl, fun _ named => Or.inl named⟩
      · rcases jobs job there with old | ⟨chat, rfl, named, fresh, row⟩
        · exact Or.inl ⟨job, old, rfl, rfl⟩
        · exact Or.inr ⟨persist, held, chat, rfl, named, fresh, row⟩
  | raised => exact .of_kept (fun other there => (Table.mem_erase.1 there).1) rfl

theorem step_handles (next : step u messageFingerprint window s e = some t) : Handles u s e t := by
  cases e with
  | tick now =>
      obtain ⟨intake, moved, rfl⟩ := Option.map_eq_some_iff.1 next
      simp only [Ingestion.step] at moved
      split at moved
      · cases moved
        exact .of_kept (fun _ held => held) rfl
      · simp at moved
  | load | abandon =>
      cases next
      exact .of_kept (fun _ held => held) rfl
  | publish =>
      obtain ⟨chatIds, -, rfl⟩ := Option.map_eq_some_iff.1 next
      exact .of_kept (fun _ held => held) rfl
  | others db =>
      simp only [step] at next
      split at next
      · rename_i allowed
        cases next
        refine ⟨fun other there => Or.inl ⟨other, there, rfl, rfl, fun _ named => Or.inl named⟩, ?_⟩
        intro job held
        obtain ⟨old, there, same⟩ := List.any_eq_true.1 (List.all_eq_true.1 allowed job held)
        rw [Bool.and_eq_true, decide_eq_true_eq, decide_eq_true_eq] at same
        exact Or.inl ⟨old, there, same.1, same.2⟩
      · simp at next
  | update id event =>
      cases receive_cases next with
      | ignored => exact .of_kept (fun _ held => held) rfl
      | filtered reason => exact .of_kept (fun _ held => held) rfl
      | opened chatId persist opened admits own message begun inserted =>
          subst own
          refine ⟨fun other there => ?_, fun job there => Or.inl ⟨job, there, rfl, rfl⟩⟩
          rcases (Table.mem_insert? inserted).1 there with old | rfl
          · exact Or.inl ⟨other, old, rfl, rfl, fun _ named => Or.inl named⟩
          · exact Or.inr ⟨event, chatId, rfl, admits, message, by rw [begun]; rfl⟩
  | statement d =>
      simp only [step] at next
      split at next
      · simp at next
      · rename_i id call
        obtain ⟨intake, moved, rfl⟩ := Option.map_eq_some_iff.1 next
        obtain ⟨persist, held, rfl, progress⟩ := Ingestion.statement_progress call moved
        exact .statement held progress
  | cancel id =>
      obtain ⟨intake, moved, rfl⟩ := Option.map_eq_some_iff.1 next
      simp only [Ingestion.step] at moved
      split at moved
      · cases moved
        exact .of_kept (fun other there => (Table.mem_erase.1 there).1) rfl
      · simp at moved
  | restart =>
      cases next
      exact .of_kept (fun other there => absurd there (Table.not_mem_empty other)) rfl

section Origin

variable (u : UnicodeData) (messageFingerprint : String → String) (window : Int) (s : Listener)
  (es : List ListenerEvent)

/-- The call of this id is open, with this message. -/
def Holds (id : Nat) (message : IncomingMessage) (v : Listener) (_ : ListenerEvent) : Prop :=
  ∃ persist ∈ v.intake.opened, persist.id = id ∧ persist.message = message

/-- An update with this message was taken in a state with a property, and has opened the call that is
open since. -/
def Opened (t : Listener) (id : Nat) (event : TelethonMessageEvent) (chatId : Int)
    (P : List ListenerEvent → Listener → Prop) : Prop :=
  Since (step u messageFingerprint window) anyEvent
    (Holds id (mapped event chatId).toIncomingMessage) s es t
    (fun front v e => e = .update id event ∧ P front v)

/-- The query of the call has found this chat active, and the call is open since. -/
def Checked (t : Listener) (id : Nat) (event : TelethonMessageEvent) (chatId : Int) (chat : UUID)
    (P : List ListenerEvent → Listener → Prop) : Prop :=
  Since (step u messageFingerprint window) anyEvent
    (Holds id (mapped event chatId).toIncomingMessage) s es t
    (fun front v e => e = .statement (.readChat id) ∧
      MonitoredChatRepository.activeId? chatId v.intake.db = some chat ∧
      Opened u messageFingerprint window s front v id event chatId P)

/-- The commit of a call has inserted the job of its message, with the chat that its own query had
found active, after an update in a state with a property had opened it. -/
def Inserted (jobId : UUID) (new : NewJob)
    (P : TelethonMessageEvent → Int → List ListenerEvent → Listener → Prop) : Prop :=
  Caused (step u messageFingerprint window) anyEvent s es (fun front v e =>
    ∃ event chatId id text chat, e = .statement (.commit id) ∧
      (∀ old ∈ v.intake.db.processingJobs, old.id ≠ jobId) ∧
      (mapped event chatId).text = some text ∧
      new = Ingestion.newJob (mapped event chatId).toIncomingMessage text chat ∧
      Checked u messageFingerprint window s front v id event chatId chat (P event chatId))

/-- The open calls and the jobs have their origins in the run. -/
structure Traced (t : Listener) : Prop where
  calls : ∀ persist ∈ t.intake.opened, ∃ event chatId,
    persist.message = (mapped event chatId).toIncomingMessage ∧
    Opened u messageFingerprint window s es t persist.id event chatId
      (fun _ v => Admits u v event chatId) ∧
    ∀ chat, persist.phase.chat? = some chat →
      Checked u messageFingerprint window s es t persist.id event chatId chat
        (fun _ v => Admits u v event chatId)
  jobs : ∀ job ∈ t.intake.db.processingJobs, (∃ old ∈ s.intake.db.processingJobs, old.id = job.id) ∨
    Inserted u messageFingerprint window s es job.id job.asNew
      (fun event chatId _ v => Admits u v event chatId)

variable {u messageFingerprint window s es}

theorem Traced.step {v : Listener} (traced : Traced u messageFingerprint window s es v)
    (before : Run (step u messageFingerprint window) anyEvent s es v)
    (next : Listener.step u messageFingerprint window v e = some t) :
    Traced u messageFingerprint window s (es ++ [e]) t := by
  have handles := step_handles next
  constructor
  · intro persist held
    rcases handles.calls persist held with
      ⟨own, there, same, message, chats⟩ | ⟨event, chatId, rfl, admits, message, begun⟩
    · obtain ⟨event, chatId, known, opened, checked⟩ := traced.calls own there
      rw [same] at opened checked
      have holds : Holds persist.id (mapped event chatId).toIncomingMessage v e :=
        ⟨own, there, same, known⟩
      refine ⟨event, chatId, message.symm.trans known, opened.snoc holds next, fun chat named => ?_⟩
      rcases chats chat named with old | ⟨rfl, active⟩
      · exact (checked chat old).snoc holds next
      · rw [← message, known] at active
        exact Since.last before ⟨rfl, active, opened⟩ next
    · refine ⟨event, chatId, message, Since.last before ⟨rfl, admits⟩ next, fun chat named => ?_⟩
      cases begun.symm.trans named
  · intro job held
    rcases handles.jobs job held with
      ⟨old, there, same, row⟩ | ⟨persist, open_, chat, rfl, named, fresh, row⟩
    · rcases traced.jobs old there with ⟨first, start, equal⟩ | inserted
      · exact Or.inl ⟨first, start, equal.trans same⟩
      · rw [same, row] at inserted
        exact Or.inr (Caused.snoc inserted e)
    · obtain ⟨event, chatId, known, -, checked⟩ := traced.calls persist open_
      have text := persist.hasText
      rw [known] at text row
      exact Or.inr (Caused.last before
        ⟨event, chatId, persist.id, persist.text, chat, rfl, fresh, text, row, checked chat named⟩)

theorem traced_of_run (idle : s.intake.opened.rows = [])
    (run : Run (step u messageFingerprint window) anyEvent s es t) :
    Traced u messageFingerprint window s es t := by
  induction run with
  | nil =>
      constructor
      · intro persist held
        have listed : persist ∈ s.intake.opened.rows := held
        simp [idle] at listed
      · exact fun job held => Or.inl ⟨job, held, rfl⟩
  | snoc before _ next traced => exact traced.step before next

/-- What is inserted is the message of an update that has opened a call. -/
theorem Inserted.opened {jobId : UUID} {new : NewJob}
    {P : TelethonMessageEvent → Int → Listener → Prop}
    (inserted : Inserted u messageFingerprint window s es jobId new (fun event chatId _ v =>
      P event chatId v)) :
    ∃ event chatId id text chat, (mapped event chatId).text = some text ∧
      new = Ingestion.newJob (mapped event chatId).toIncomingMessage text chat ∧
      Caused (step u messageFingerprint window) anyEvent s es
        (fun _ v e => e = .update id event ∧ P event chatId v) := by
  obtain ⟨front, e, back, v, rfl, -, event, chatId, id, text, chat, -, -, known, row, checked⟩ :=
    inserted
  have opened : Caused (step u messageFingerprint window) anyEvent s front
      (fun _ v e => e = .update id event ∧ P event chatId v) :=
    (checked.caused.imp fun _ _ _ ⟨_, _, opened⟩ => opened.caused).earlier
  exact ⟨event, chatId, id, text, chat, known, row, opened.append (e :: back)⟩

theorem Inserted.imp {jobId : UUID} {new : NewJob}
    {P Q : TelethonMessageEvent → Int → List ListenerEvent → Listener → Prop}
    (inserted : Inserted u messageFingerprint window s es jobId new P)
    (each : ∀ event chatId front v, Run (Listener.step u messageFingerprint window) anyEvent s front v →
      P event chatId front v → Q event chatId front v) :
    Inserted u messageFingerprint window s es jobId new Q := by
  refine Caused.imp inserted fun front v e caused => ?_
  obtain ⟨event, chatId, id, text, chat, commit, fresh, known, row, checked⟩ := caused
  refine ⟨event, chatId, id, text, chat, commit, fresh, known, row, ?_⟩
  refine Since.imp checked fun front v e before ⟨read, active, opened⟩ => ⟨read, active, ?_⟩
  exact Since.imp opened fun front v e reached ⟨update, holds⟩ =>
    ⟨update, each event chatId front v reached holds⟩

variable (u messageFingerprint window s es)

/-- The commit of a call has inserted the job. The call was opened by an update which the prefilter
passed, from a chat that the refresh published last before it had found active, and has found the chat
active itself, before its commit. -/
def Provenance (job : ProcessingJob) : Prop :=
  Inserted u messageFingerprint window s es job.id job.asNew (fun event chatId front v =>
    (Prefilter.prefilterMessage u (mapped event chatId)).shouldClassify = true ∧
    Published u messageFingerprint window s front v (fun w => ActiveIn w.intake.db chatId))

variable {u messageFingerprint window s es}

/-- Intake is fail-closed: every job that was not there at the start has its provenance. -/
theorem jobs_admitted (idle : s.intake.opened.rows = []) (unlisted : s.chatIds = [])
    (unloaded : s.loaded = none) (run : Run (step u messageFingerprint window) anyEvent s es t)
    {job : ProcessingJob} (held : job ∈ t.intake.db.processingJobs)
    (new : ∀ old ∈ s.intake.db.processingJobs, old.id ≠ job.id) :
    Provenance u messageFingerprint window s es job := by
  rcases (traced_of_run idle run).jobs job held with ⟨old, there, same⟩ | inserted
  · exact absurd same (new old there)
  · refine Inserted.imp inserted fun event chatId front v before admits => ⟨admits.passed, ?_⟩
    rcases (snapshot_of_run unlisted unloaded before).published with empty | published
    · have listed := admits.listed
      simp [empty] at listed
    · exact published.imp fun w exactly => (exactly chatId).1 admits.listed

end Origin

/-! ### One message -/

/-- A listener beside one active and one paused chat. -/
def sampleListener : Listener where
  intake :=
    { db := { monitoredChats := ⟨[
          { id := 61, telegramChatId := -200, title := "bots", username := none,
            chatType := .supergroup, status := .active, lastVerifiedAt := none,
            nextVerificationAt := 0, consecutiveAccessFailures := 0, accessLostAt := none,
            lastErrorCode := none },
          { id := 62, telegramChatId := -300, title := "paused", username := none,
            chatType := .supergroup, status := .disabled, lastVerifiedAt := none,
            nextVerificationAt := 0, consecutiveAccessFailures := 0, accessLostAt := none,
            lastErrorCode := none }], by decide⟩ }
      clock := 5 }

/-- A request in a chat. -/
def sampleEvent (chatId : Int) : TelethonMessageEvent where
  chatId := some chatId
  message :=
    { id := 9, peerId := chatId, replyTo := none, rawText := some "need dev for api" }
  out := false
  hasAction := false
  hasSticker := false
  creates created := absurd created Bool.false_ne_true

/-- The list is loaded, a second refresh fails, both chats post the request, and the one call that
opens is carried out. -/
def sampleEvents : List ListenerEvent :=
  [.load, .publish, .load, .abandon, .update 1 (sampleEvent (-300)), .update 1 (sampleEvent (-200)),
    .statement (.readChat 1), .statement (.startRegister 1), .statement (.write 1),
    .statement (.enqueue 1 77), .statement (.commit 1)]

theorem sample_run : ∃ t, Run (step sampleUnicode id 10) anyEvent sampleListener sampleEvents t ∧
    (t.intake.db.processingJobs.rows.map ProcessingJob.asNew, t.metrics) =
      ([Ingestion.newJob (mapped (sampleEvent (-200)) (-200)).toIncomingMessage
          "need dev for api" 61],
        [.received, .created]) := by
  apply Run.exists_of_exec
  decide +kernel

/-- The message is counted as received and as created. -/
theorem balanced_sample : ∃ t, Run (step sampleUnicode id 10) anyEvent sampleListener sampleEvents t ∧
    Balanced t ∧ t.metrics.count .received = 1 := by
  obtain ⟨t, run, ends⟩ := sample_run
  obtain ⟨-, metrics⟩ := Prod.mk.inj ends
  exact ⟨t, run, balanced_of_run rfl rfl run, by rw [metrics]; decide⟩

/-- The job of the run has its provenance. -/
theorem jobs_admitted_sample : ∃ t, ∃ job ∈ t.intake.db.processingJobs,
    Run (step sampleUnicode id 10) anyEvent sampleListener sampleEvents t ∧
      job.messageText = "need dev for api" ∧ job.telegramChatId = -200 ∧
      Provenance sampleUnicode id 10 sampleListener sampleEvents job := by
  obtain ⟨t, run, ends⟩ := sample_run
  obtain ⟨rows, -⟩ := Prod.mk.inj ends
  obtain ⟨job, held, row⟩ := List.mem_map.1 (rows ▸ List.mem_singleton_self _)
  refine ⟨t, job, held, run, congrArg NewJob.messageText row, congrArg NewJob.telegramChatId row, ?_⟩
  exact jobs_admitted rfl rfl rfl run held fun old there => absurd there (Table.not_mem_empty old)

end Listener

end LeadAssistant
