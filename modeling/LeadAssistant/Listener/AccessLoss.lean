/-
Module: LeadAssistant.Listener.AccessLoss
Layer: Listener
Purpose: What `access_lost_at` dates. A loss of access is confirmed by the second loss since the
  evidence started anew. The column agrees with the log as long as no chat is resumed that was
  paused during a confirmed loss: `resume` sets the counter back and leaves the date.
Trusted boundary: human-reviewed spec
Main exports: confirmedAt, Dated, Monitor.CleanResume, access_lost_at_dated
-/
import LeadAssistant.Listener.AccessEvidence

namespace LeadAssistant.AccessEvidence

open Relational Transition MonitoredChatRepository

/-- The losses since the latest event that resets, newest first. -/
def lossEntries (log : List Entry) : List Entry :=
  (log.takeWhile (fun entry => !entry.event.resets)).filter (fun entry => entry.event.isLoss)

/-- When the second loss of the current episode was applied. -/
def confirmedAt (log : List Entry) : Option Time :=
  (lossEntries log).reverse[1]?.map (fun entry => entry.time)

/-- The loss of access to an enabled chat is dated, and nothing else is. -/
def Dated (log : List Entry) (chat : MonitoredChat) : Prop :=
  chat.status ≠ .disabled →
    (chat.accessLostAt.isSome ↔ chat.status = .accessLost) ∧
    (chat.status = .accessLost → chat.accessLostAt = confirmedAt log)

/-- Every stored chat is dated. -/
def Monitor.Dated (m : Monitor) : Prop :=
  ∀ chat ∈ m.db.monitoredChats, AccessEvidence.Dated (m.log chat.id) chat

/-- A disabled chat that is resumed holds no date of a loss. -/
def Monitor.CleanResume (m : Monitor) (e : ChatCall × Time) : Prop :=
  match e.1 with
  | .resume chatId =>
      ∀ chat ∈ m.db.monitoredChats.rows, isDisabled chatId chat = true → chat.accessLostAt = none
  | _ => True

instance (m : Monitor) (e : ChatCall × Time) : Decidable (m.CleanResume e) := by
  unfold Monitor.CleanResume
  split <;> infer_instance

theorem length_lossEntries {log : List Entry} : (lossEntries log).length = losses log :=
  List.countP_eq_length_filter.symm

theorem lossEntries_cons {entry : Entry} {log : List Entry} :
    lossEntries (entry :: log) =
      if entry.event.resets then []
      else if entry.event.isLoss then entry :: lossEntries log else lossEntries log := by
  unfold lossEntries
  cases resets : entry.event.resets with
  | true => rw [List.takeWhile_cons_of_neg (by simp [resets]), if_pos rfl, List.filter_nil]
  | false =>
      rw [List.takeWhile_cons_of_pos (by simp [resets]), List.filter_cons]
      rfl

theorem isSome_confirmedAt {log : List Entry} : (confirmedAt log).isSome ↔ 2 ≤ losses log := by
  unfold confirmedAt
  rw [Option.isSome_map, Option.isSome_iff_ne_none, ne_eq, List.getElem?_eq_none_iff,
    List.length_reverse, length_lossEntries]
  omega

theorem confirmedAt_of_resets {entry : Entry} {log : List Entry}
    (resets : entry.event.resets = true) : confirmedAt (entry :: log) = none := by
  unfold confirmedAt
  rw [lossEntries_cons, if_pos resets]
  rfl

theorem confirmedAt_of_neutral {entry : Entry} {log : List Entry}
    (kept : entry.event.resets = false) (noLoss : entry.event.isLoss = false) :
    confirmedAt (entry :: log) = confirmedAt log := by
  unfold confirmedAt
  rw [lossEntries_cons, kept, noLoss]
  rfl

/-- A further loss confirms the first one, and leaves the date of a confirmed one. -/
theorem confirmedAt_of_isLoss {entry : Entry} {log : List Entry}
    (kept : entry.event.resets = false) (loss : entry.event.isLoss = true) :
    confirmedAt (entry :: log) =
      if losses log = 0 then none else some ((confirmedAt log).getD entry.time) := by
  have counted : (lossEntries log).reverse.length = losses log := by
    rw [List.length_reverse, length_lossEntries]
  unfold confirmedAt
  rw [lossEntries_cons, kept, loss, if_neg Bool.false_ne_true, if_pos rfl, List.reverse_cons]
  generalize (lossEntries log).reverse = entries at counted
  match entries with
  | [] =>
      have none : losses log = 0 := counted.symm
      rw [if_pos none]
      rfl
  | [first] =>
      have one : losses log = 1 := counted.symm
      rw [if_neg (by omega)]
      rfl
  | first :: second :: rest =>
      have more : losses log = rest.length + 2 := counted.symm
      rw [if_neg (by omega)]
      rfl

section Values

variable {log : List Entry} {chat : MonitoredChat} {result : ChatVerificationResult} {now : Time}

/-- The date agrees with the log, and with the status of an enabled chat. -/
theorem Dated.of_accounted (ok : Accounted log chat) (same : chat.accessLostAt = confirmedAt log) :
    Dated log chat := by
  intro enabled
  refine ⟨?_, fun _ => same⟩
  rw [same, isSome_confirmedAt]
  exact (ok.lost enabled).symm

/-- A result keeps the date in step with the log. -/
theorem accessLostAt_verified (ok : Accounted log chat)
    (same : chat.accessLostAt = confirmedAt log) :
    (verified result now chat).accessLostAt = confirmedAt (⟨.verified result, now⟩ :: log) := by
  by_cases loss : result.outcome = .accessLost
  · have new : confirmedAt (⟨.verified result, now⟩ :: log) = _ :=
      confirmedAt_of_isLoss (by simp [ChatEvent.resets, loss]) (by simp [ChatEvent.isLoss, loss])
    rw [new]
    by_cases first : losses log = 0
    · have unconfirmed : confirmedAt log = none :=
        Option.not_isSome_iff_eq_none.1 (fun dated => by
          have := isSome_confirmedAt.1 dated
          omega)
      simp [verified, loss, ok.failures, first, same, unconfirmed]
    · have later : 1 ≤ losses log := Nat.one_le_iff_ne_zero.2 first
      simp [verified, loss, ok.failures, first, later, same]
  · have new : confirmedAt (⟨.verified result, now⟩ :: log) = none :=
      confirmedAt_of_resets (by simp [ChatEvent.resets, loss])
    rw [new]
    simp [verified, loss]

end Values

section Steps

variable {m t : Monitor} {e : ChatCall × Time}

/-- The date of a loss is the one of the log. -/
def DatedBy (log : List Entry) (chat : MonitoredChat) : Prop :=
  chat.accessLostAt = confirmedAt log

/-- The date of every stored chat agrees with its log. -/
def Monitor.InStep (m : Monitor) : Prop :=
  ∀ chat ∈ m.db.monitoredChats, DatedBy (m.log chat.id) chat

theorem Monitor.InStep.dated (ok : m.Accounted) (same : m.InStep) : m.Dated :=
  fun chat held => .of_accounted (ok chat held) (same chat held)

theorem datedBy_of_neutral {entry : Entry} {log : List Entry} {chat after : MonitoredChat}
    (kept : entry.event.resets = false) (noLoss : entry.event.isLoss = false)
    (dated : DatedBy log chat) (same : after.accessLostAt = chat.accessLostAt) :
    DatedBy (entry :: log) after :=
  same.trans (dated.trans (confirmedAt_of_neutral kept noLoss).symm)

theorem inStep_step (ok : m.Accounted) (same : m.InStep) (clean : m.CleanResume e)
    (next : step m e = some t) : t.InStep := by
  rcases e with ⟨call, now⟩
  cases call with
  | addPending newId new =>
      rcases step_addPending next with rfl | ⟨chats, inserted, rfl⟩
      · exact same
      · exact each_add same inserted (confirmedAt_of_resets rfl).symm
  | applyVerification chatId result =>
      rcases step_applyVerification next with rfl | rfl
      · exact same
      · exact each_touch same (fun chat held _ dated =>
          accessLostAt_verified (ok chat held) dated)
  | deferVerification chatId =>
      cases next
      exact each_touch same (fun _ _ _ dated => datedBy_of_neutral rfl rfl dated rfl)
  | requestVerification telegramChatId =>
      cases next
      exact each_touch same (fun _ _ _ dated => datedBy_of_neutral rfl rfl dated rfl)
  | pause chatId =>
      cases next
      exact each_touch same (fun _ _ _ dated => datedBy_of_neutral rfl rfl dated rfl)
  | resume chatId =>
      cases next
      -- The one call that starts the evidence anew and does not write the date.
      exact each_touch same (fun chat held taken _ =>
        (clean chat held taken).trans (confirmedAt_of_resets rfl).symm)
  | remove chatId =>
      cases next
      exact each_remove same

/-- A resumed chat that holds a date is not dated. -/
theorem cleanResume_of_dated (next : step m e = some t) (dated : t.Dated) : m.CleanResume e := by
  rcases e with ⟨call, now⟩
  cases call with
  | resume chatId =>
      cases next
      intro chat held taken
      have after : resumed now chat ∈ m.db.monitoredChats.updateWhere (isDisabled chatId)
          (resumed now) (fun _ _ => rfl) :=
        Table.mem_updateWhere.2 (Or.inr ⟨chat, held, taken, rfl⟩)
      have enabled : (resumed now chat).status ≠ .disabled := by simp [resumed]
      have undated := (dated _ after enabled).1
      cases date : chat.accessLostAt with
      | none => rfl
      | some time => exact absurd (undated.1 (by simp [resumed, date])) (by simp [resumed])
  | addPending | applyVerification | deferVerification | requestVerification | pause | remove =>
      exact trivial

end Steps

/-- In every run from a table without chats in which no chat is resumed that holds the date of a
loss: the date of every enabled chat is there exactly while its access is lost, and is the time of
the second loss of this episode. The step after such a run keeps this only if it is no such
resumption either. -/
theorem access_lost_at_dated {db : Database} {es : List (ChatCall × Time)} {m : Monitor}
    (empty : db.monitoredChats = ∅)
    (run : Run step Monitor.CleanResume ⟨db, fun _ => []⟩ es m) :
    m.Dated ∧ ∀ e t, step m e = some t → (t.Dated ↔ m.CleanResume e) := by
  have start : Monitor.Accounted ⟨db, fun _ => []⟩ ∧ Monitor.InStep ⟨db, fun _ => []⟩ := by
    constructor
    all_goals
      intro chat held
      rw [empty] at held
      exact absurd held (Table.not_mem_empty chat)
  have kept : ∀ (m : Monitor) e t, m.Accounted ∧ m.InStep → m.CleanResume e →
      step m e = some t → t.Accounted ∧ t.InStep := fun _ _ _ ok clean next =>
    ⟨accounted_step ok.1 next, inStep_step ok.1 ok.2 clean next⟩
  have ok : m.Accounted ∧ m.InStep := run.invariant start kept
  refine ⟨ok.2.dated ok.1, fun e t next => ⟨cleanResume_of_dated next, fun clean => ?_⟩⟩
  exact (inStep_step ok.1 ok.2 clean next).dated (accounted_step ok.1 next)

/-- A loss that is confirmed, found to be over, and a pause afterwards. -/
def sampleRecovery : List (ChatCall × Time) :=
  sampleCalls ++
    [(.applyVerification 1 { outcome := .accessLost, errorCode := some "no_access" }, 50),
      (.applyVerification 1 { outcome := .active, isSupergroup := true }, 60),
      (.pause 1, 70), (.resume 1, 80)]

theorem access_lost_at_dated_sample : ∃ m : Monitor, m.Dated ∧
    m.db.monitoredChats.rows.map (fun chat => (chat.status, chat.accessLostAt)) =
      [(.pendingVerification, none)] := by
  have computed : (exec step Monitor.CleanResume ⟨{}, fun _ => []⟩ sampleRecovery).map (fun m =>
      m.db.monitoredChats.rows.map (fun chat => (chat.status, chat.accessLostAt))) =
      some [(.pendingVerification, none)] := by decide +kernel
  rcases Run.exists_of_exec computed with ⟨m, run, value⟩
  exact ⟨m, (access_lost_at_dated rfl run).1, value⟩

/-- A chat that is paused while its access is lost, and resumed, still holds the date. -/
theorem resumed_chat_keeps_access_lost_at : ∃ m : Monitor,
    Run step anyEvent ⟨{}, fun _ => []⟩ (sampleCalls ++ [(.pause 1, 70), (.resume 1, 80)]) m ∧
    m.db.monitoredChats.rows.map (fun chat => (chat.status, chat.accessLostAt)) =
      [(.pendingVerification, some 40)] ∧ ¬ m.Dated := by
  have computed : (exec step anyEvent ⟨{}, fun _ => []⟩
      (sampleCalls ++ [(.pause 1, 70), (.resume 1, 80)])).map (fun m =>
        m.db.monitoredChats.rows.map (fun chat => (chat.status, chat.accessLostAt))) =
      some [(.pendingVerification, some 40)] := by decide +kernel
  rcases Run.exists_of_exec computed with ⟨m, run, value⟩
  refine ⟨m, run, value, fun dated => ?_⟩
  rcases List.map_eq_cons_iff.1 value with ⟨chat, rest, rows, held, _⟩
  have mem : chat ∈ m.db.monitoredChats := by
    rw [← Table.mem_rows, rows]
    exact List.mem_cons_self
  injection held with status date
  have undated := (dated chat mem (by rw [status]; decide)).1
  rw [date, status] at undated
  exact absurd (undated.1 rfl) (by decide)

end LeadAssistant.AccessEvidence
