/-
Module: LeadAssistant.Listener.AccessEvidence
Layer: Listener
Purpose: The evidence against a chat under any order of the repository's calls. A log keeps, for
  each chat, the calls that took effect on it, newest first; the counter, the status and the next
  check of a stored chat are functions of this log. Every call is one conditional update, so both
  invariants are shown for `touch` once and then for the values that each call writes.
Trusted boundary: human-reviewed spec
Main exports: Entry, losses, dueAt, Monitor, step, Accounted, Lawful, access_evidence,
  verifyDueChatsOnce_is_run
-/
import LeadAssistant.Library.Transition
import LeadAssistant.Repositories.MonitoredChats

namespace LeadAssistant.AccessEvidence

open Relational Transition MonitoredChatRepository

/-- What a call has done to a chat. -/
inductive ChatEvent where
  | added
  | verified (result : ChatVerificationResult)
  | deferred
  | requested
  | paused
  | resumed
  | removed
deriving Repr, DecidableEq

/-- A call that took effect, with the time of its transaction. -/
structure Entry where
  event : ChatEvent
  time : Time
deriving Repr, DecidableEq

/-- A result that speaks against the access of the account. -/
def ChatEvent.isLoss : ChatEvent → Bool
  | .verified result => result.outcome = .accessLost
  | _ => false

/-- An addition, a resumption or any other result, after which the evidence starts anew. -/
def ChatEvent.resets : ChatEvent → Bool
  | .added | .resumed => true
  | .verified result => result.outcome ≠ .accessLost
  | _ => false

/-- The losses since the latest event that resets, in a log whose newest entry is first. -/
def losses (log : List Entry) : Nat :=
  (log.takeWhile (fun entry => !entry.event.resets)).countP (fun entry => entry.event.isLoss)

/-- When the chat is to be checked again. -/
def dueAt : List Entry → Option Time
  | [] => none
  | entry :: older =>
      match entry.event with
      | .verified result =>
          if result.outcome = .accessLost ∧ losses older = 0 then some (entry.time + minutes 5)
          else some (entry.time + days 1)
      | .deferred => some (entry.time + minutes 5)
      | .added | .requested | .resumed => some entry.time
      | .paused => dueAt older
      | .removed => none

theorem losses_cons {entry : Entry} {log : List Entry} :
    losses (entry :: log) =
      if entry.event.resets then 0 else losses log + if entry.event.isLoss then 1 else 0 := by
  unfold losses
  cases resets : entry.event.resets with
  | true => rw [List.takeWhile_cons_of_neg (by simp [resets]), if_pos rfl, List.countP_nil]
  | false =>
      rw [List.takeWhile_cons_of_pos (by simp [resets]), List.countP_cons]
      rfl

theorem losses_of_resets {entry : Entry} {log : List Entry} (resets : entry.event.resets = true) :
    losses (entry :: log) = 0 := by
  rw [losses_cons, if_pos resets]

theorem losses_of_neutral {entry : Entry} {log : List Entry}
    (kept : entry.event.resets = false) (noLoss : entry.event.isLoss = false) :
    losses (entry :: log) = losses log := by
  rw [losses_cons, kept, noLoss]
  rfl

/-- The committed contents, and the log of every chat. -/
structure Monitor where
  db : Database
  log : UUID → List Entry := fun _ => []

inductive ChatCall where
  | addPending (newId : UUID) (chat : NewMonitoredChat)
  | applyVerification (chatId : UUID) (result : ChatVerificationResult)
  | deferVerification (chatId : UUID)
  | requestVerification (telegramChatId : Int)
  | pause (chatId : UUID)
  | resume (chatId : UUID)
  | remove (chatId : UUID)

/-- The log after an event of the chosen chats. -/
def Monitor.record (m : Monitor) (chosen : MonitoredChat → Bool) (event : ChatEvent) (now : Time) :
    UUID → List Entry := fun id =>
  if (m.db.monitoredChats.get? id).any chosen then ⟨event, now⟩ :: m.log id else m.log id

/-- One call in its own transaction. -/
def step (m : Monitor) (e : ChatCall × Time) : Option Monitor :=
  let (call, now) := e
  match call with
  | .addPending newId chat =>
      match addPending newId chat now m.db with
      | (.ok (row, true), db) =>
          some ⟨db, Function.update m.log row.id (⟨.added, now⟩ :: m.log row.id)⟩
      | (_, _) => some m
  | .applyVerification chatId result =>
      match applyVerification chatId result now m.db with
      | (.ok _, db) => some ⟨db, m.record (isEnabled chatId) (.verified result) now⟩
      | (.error _, _) => some m
  | .deferVerification chatId =>
      some ⟨(deferVerification chatId now m.db).2, m.record (isEnabled chatId) .deferred now⟩
  | .requestVerification telegramChatId =>
      some ⟨(requestVerification telegramChatId now m.db).2,
        m.record (isEnabledInTelegram telegramChatId) .requested now⟩
  | .pause chatId => some ⟨(pause chatId m.db).2, m.record (isEnabled chatId) .paused now⟩
  | .resume chatId =>
      some ⟨(resume chatId now m.db).2, m.record (isDisabled chatId) .resumed now⟩
  | .remove chatId =>
      some ⟨remove chatId m.db, m.record (fun chat => chat.id = chatId) .removed now⟩

/-- The row of a chat agrees with its log. -/
structure Accounted (log : List Entry) (chat : MonitoredChat) : Prop where
  failures : chat.consecutiveAccessFailures = losses log
  lost : chat.status ≠ .disabled → (chat.status = .accessLost ↔ 2 ≤ losses log)
  due : dueAt log = some chat.nextVerificationAt

/-- What one step may do to a chat whose log goes from `log` to `log'`. -/
structure Lawful (log : List Entry) (chat : MonitoredChat) (log' : List Entry)
    (after : Option MonitoredChat) : Prop where
  firstLoss : ∀ result now, log' = ⟨.verified result, now⟩ :: log →
    result.outcome = .accessLost → losses log = 0 →
      after.map (fun chat => chat.status) = some chat.status
  deferral : ∀ now, log' = ⟨.deferred, now⟩ :: log →
    after.map (fun chat => chat.status) = some chat.status
  otherResult : ∀ result now, log' = ⟨.verified result, now⟩ :: log →
    (result.outcome = .accessLost → losses log ≠ 0) →
      after.map (fun chat => chat.status) = some result.outcome.status
  disabled : chat.status = .disabled →
    log' = log ∧ after = some chat ∨
    (∃ now, log' = ⟨.removed, now⟩ :: log) ∧ after = none ∨
    (∃ now, log' = ⟨.resumed, now⟩ :: log) ∧ ∃ resumed, after = some resumed ∧
      resumed.status = .pendingVerification ∧ resumed.consecutiveAccessFailures = 0

/-- Every stored chat agrees with its log. -/
def Monitor.Accounted (m : Monitor) : Prop :=
  ∀ chat ∈ m.db.monitoredChats, AccessEvidence.Accounted (m.log chat.id) chat

section Values

variable {log : List Entry} {chat : MonitoredChat} {result : ChatVerificationResult} {now : Time}
  {id : UUID} {telegramChatId : Int}

theorem accounted_verified (enabled : isEnabled id chat = true) (ok : Accounted log chat) :
    Accounted (⟨.verified result, now⟩ :: log) (verified result now chat) := by
  simp only [isEnabled, Bool.and_eq_true, decide_eq_true_eq] at enabled
  have lost := ok.lost (by simpa using enabled.2)
  by_cases loss : result.outcome = .accessLost
  · have counted : losses (⟨.verified result, now⟩ :: log) = losses log + 1 := by
      simp [losses_cons, ChatEvent.resets, ChatEvent.isLoss, loss]
    refine ⟨?_, fun _ => ?_, ?_⟩
    · simp [counted, verified, loss, ok.failures]
    · rw [counted]
      by_cases first : losses log = 0
      · simp [verified, loss, ok.failures, first, lost]
      · have confirmed : 1 ≤ losses log := Nat.one_le_iff_ne_zero.2 first
        simp [verified, loss, ok.failures, confirmed]
    · by_cases first : losses log = 0
      · simp [dueAt, verified, loss, ok.failures, first, CONFIRMATION_INTERVAL]
      · have confirmed : 1 ≤ losses log := Nat.one_le_iff_ne_zero.2 first
        simp [dueAt, verified, loss, ok.failures, first, confirmed, DAILY_INTERVAL]
  · have counted : losses (⟨.verified result, now⟩ :: log) = 0 := by
      simp [losses_cons, ChatEvent.resets, loss]
    refine ⟨?_, fun _ => ?_, ?_⟩
    · simp [counted, verified, loss]
    · rw [counted]
      cases outcome : result.outcome <;> simp_all [verified, ChatVerificationOutcome.status]
    · simp [dueAt, verified, loss, DAILY_INTERVAL]

/-- An event that only moves the next check. -/
theorem accounted_scheduled {event : ChatEvent} {time : Time} (neutral : event.resets = false)
    (noLoss : event.isLoss = false) (due : dueAt (⟨event, now⟩ :: log) = some time)
    (ok : Accounted log chat) : Accounted (⟨event, now⟩ :: log) (scheduled time chat) := by
  have counted : losses (⟨event, now⟩ :: log) = losses log := losses_of_neutral neutral noLoss
  exact ⟨counted ▸ ok.failures, counted ▸ ok.lost, due⟩

theorem accounted_paused (ok : Accounted log chat) :
    Accounted (⟨.paused, now⟩ :: log) (paused chat) := by
  have counted : losses (⟨.paused, now⟩ :: log) = losses log := losses_of_neutral rfl rfl
  exact ⟨ok.failures.trans counted.symm, fun enabled => absurd rfl enabled, ok.due⟩

theorem accounted_resumed : Accounted (⟨.resumed, now⟩ :: log) (resumed now chat) := by
  have counted : losses (⟨.resumed, now⟩ :: log) = 0 := losses_of_resets rfl
  exact ⟨counted.symm, fun _ => by simp [counted, resumed], rfl⟩

theorem accounted_added {newId : UUID} {new : NewMonitoredChat} :
    Accounted (⟨.added, now⟩ :: log) (pendingChat newId new now) := by
  have counted : losses (⟨.added, now⟩ :: log) = 0 := losses_of_resets rfl
  exact ⟨counted.symm, fun _ => by simp [counted, pendingChat], rfl⟩

/-- A chat that no call has touched. -/
theorem Lawful.untouched : Lawful log chat log (some chat) where
  firstLoss _ _ same := absurd same (List.cons_ne_self _ _).symm
  deferral _ same := absurd same (List.cons_ne_self _ _).symm
  otherResult _ _ same := absurd same (List.cons_ne_self _ _).symm
  disabled _ := Or.inl ⟨rfl, rfl⟩

/-- An event of an enabled chat that is neither a result nor a deferral. -/
theorem lawful_of_enabled {event : ChatEvent} {after : Option MonitoredChat}
    (enabled : chat.status ≠ .disabled) (noResult : ∀ result, event ≠ .verified result)
    (noDeferral : event ≠ .deferred) : Lawful log chat (⟨event, now⟩ :: log) after where
  firstLoss result _ same := by
    injection same with same
    injection same with same
    exact absurd same (noResult result)
  deferral _ same := by
    injection same with same
    injection same with same
    exact absurd same noDeferral
  otherResult result _ same := by
    injection same with same
    injection same with same
    exact absurd same (noResult result)
  disabled isDisabled := absurd isDisabled enabled

theorem lawful_deferred (enabled : isEnabled id chat = true) {time : Time} :
    Lawful log chat (⟨.deferred, now⟩ :: log) (some (scheduled time chat)) := by
  simp only [isEnabled, Bool.and_eq_true, decide_eq_true_eq] at enabled
  constructor
  · intro _ _ same
    cases same
  · exact fun _ _ => rfl
  · intro _ _ same
    cases same
  · exact fun isDisabled => absurd isDisabled enabled.2

theorem lawful_verified (enabled : isEnabled id chat = true) (ok : Accounted log chat) :
    Lawful log chat (⟨.verified result, now⟩ :: log) (some (verified result now chat)) := by
  simp only [isEnabled, Bool.and_eq_true, decide_eq_true_eq] at enabled
  constructor
  · intro _ _ same loss first
    cases same
    simp [verified, loss, ok.failures, first]
  · intro _ same
    cases same
  · intro _ _ same later
    cases same
    by_cases loss : result.outcome = .accessLost
    · have confirmed : 1 ≤ losses log := Nat.one_le_iff_ne_zero.2 (later loss)
      simp [verified, loss, ok.failures, confirmed, ChatVerificationOutcome.status]
    · simp [verified, loss]
  · exact fun isDisabled => absurd isDisabled enabled.2

theorem lawful_resumed :
    Lawful log chat (⟨.resumed, now⟩ :: log) (some (resumed now chat)) := by
  constructor
  · intro _ _ same
    cases same
  · intro _ same
    cases same
  · intro _ _ same
    cases same
  · exact fun _ => Or.inr (Or.inr ⟨⟨now, rfl⟩, _, rfl, rfl, rfl⟩)

theorem lawful_removed : Lawful log chat (⟨.removed, now⟩ :: log) none := by
  constructor
  · intro _ _ same
    cases same
  · intro _ same
    cases same
  · intro _ _ same
    cases same
  · exact fun _ => Or.inr (Or.inl ⟨⟨now, rfl⟩, rfl⟩)

end Values

section Steps

variable {m t : Monitor} {chosen : MonitoredChat → Bool} {change : MonitoredChat → MonitoredChat}
  {keeps : ∀ chat, (change chat).id = chat.id} {event : ChatEvent} {now : Time}
  {chat : MonitoredChat}

/-- A call that changes the chosen chats and is recorded for them. -/
def Monitor.touch (m : Monitor) (chosen : MonitoredChat → Bool)
    (change : MonitoredChat → MonitoredChat) (keeps : ∀ chat, (change chat).id = chat.id)
    (event : ChatEvent) (now : Time) : Monitor :=
  ⟨(updateChats chosen change keeps m.db).2, m.record chosen event now⟩

theorem record_of_mem (held : chat ∈ m.db.monitoredChats) :
    m.record chosen event now chat.id =
      if chosen chat then ⟨event, now⟩ :: m.log chat.id else m.log chat.id := by
  unfold Monitor.record
  rw [Table.get?_of_mem held, Option.any_some]

/-- A call that changes chats keeps what it keeps of every chosen chat. -/
theorem each_touch {P : List Entry → MonitoredChat → Prop}
    (ok : ∀ chat ∈ m.db.monitoredChats, P (m.log chat.id) chat)
    (each : ∀ chat ∈ m.db.monitoredChats, chosen chat = true → P (m.log chat.id) chat →
      P (⟨event, now⟩ :: m.log chat.id) (change chat)) :
    ∀ chat ∈ (m.touch chosen change keeps event now).db.monitoredChats,
      P ((m.touch chosen change keeps event now).log chat.id) chat := by
  intro chat held
  have held : chat ∈ m.db.monitoredChats.updateWhere chosen change (fun chat _ => keeps chat) :=
    held
  show P (m.record chosen event now chat.id) chat
  rcases Table.mem_updateWhere.1 held with ⟨before, skipped⟩ | ⟨old, before, taken, rfl⟩
  · rw [record_of_mem before, skipped]
    exact ok chat before
  · rw [keeps old, record_of_mem before, taken]
    exact each old before taken (ok old before)

/-- A new chat leaves the other chats and their logs. -/
theorem each_add {P : List Entry → MonitoredChat → Prop} {newId : UUID} {new : NewMonitoredChat}
    {chats : Table MonitoredChat.id}
    (ok : ∀ chat ∈ m.db.monitoredChats, P (m.log chat.id) chat)
    (inserted : m.db.monitoredChats.insert? (pendingChat newId new now) = some chats)
    (added : P (⟨.added, now⟩ :: m.log newId) (pendingChat newId new now)) :
    ∀ chat ∈ chats, P (Function.update m.log newId (⟨.added, now⟩ :: m.log newId) chat.id) chat := by
  intro chat held
  rcases (Table.mem_insert? inserted).1 held with before | rfl
  · have other : chat.id ≠ newId := Table.fresh_of_insert? inserted chat before
    rw [Function.update_of_ne other]
    exact ok chat before
  · rw [show (pendingChat newId new now).id = newId from rfl, Function.update_self]
    exact added

/-- So does the removal of a chat. -/
theorem each_remove {P : List Entry → MonitoredChat → Prop} {chatId : UUID}
    (ok : ∀ chat ∈ m.db.monitoredChats, P (m.log chat.id) chat) :
    ∀ chat ∈ (remove chatId m.db).monitoredChats,
      P (m.record (fun chat => chat.id = chatId) .removed now chat.id) chat := by
  intro chat held
  rcases Table.mem_erase.1 held with ⟨before, other⟩
  have kept : m.record (fun chat => chat.id = chatId) .removed now chat.id = m.log chat.id :=
    (record_of_mem before).trans (if_neg (by simpa using other))
  rw [kept]
  exact ok chat before

theorem get?_touch (held : chat ∈ m.db.monitoredChats) :
    (m.touch chosen change keeps event now).db.monitoredChats.get? chat.id =
      some (if chosen chat then change chat else chat) := by
  unfold Monitor.touch updateChats Database.setMonitoredChats
  dsimp only
  rw [Table.get?_updateWhere, Table.get?_of_mem held, Option.map_some]

theorem lawful_touch (ok : m.Accounted) (held : chat ∈ m.db.monitoredChats)
    (each : ∀ log, chosen chat = true → Accounted log chat →
      Lawful log chat (⟨event, now⟩ :: log) (some (change chat))) :
    Lawful (m.log chat.id) chat ((m.touch chosen change keeps event now).log chat.id)
      ((m.touch chosen change keeps event now).db.monitoredChats.get? chat.id) := by
  have log : (m.touch chosen change keeps event now).log chat.id = _ := record_of_mem held
  rw [log, get?_touch held]
  cases taken : chosen chat with
  | true => exact each _ taken (ok chat held)
  | false => exact .untouched

/-- What `apply_verification` leaves: the update of the enabled chat, or an exception and nothing. -/
theorem step_applyVerification {chatId : UUID} {result : ChatVerificationResult}
    (next : step m (.applyVerification chatId result, now) = some t) :
    t = m ∨ t = m.touch (isEnabled chatId) (verified result now) (fun _ => rfl)
      (.verified result) now := by
  simp only [step, applyVerification] at next
  split at next
  · rename_i same
    split at same
    · cases same
    · cases same
      exact Or.inr (Option.some.inj next).symm
  · exact Or.inl (Option.some.inj next).symm

/-- What `add_pending` leaves: a new chat, or nothing. -/
theorem step_addPending {newId : UUID} {new : NewMonitoredChat}
    (next : step m (.addPending newId new, now) = some t) :
    t = m ∨ ∃ chats, m.db.monitoredChats.insert? (pendingChat newId new now) = some chats ∧
      t = ⟨m.db.setMonitoredChats chats,
        Function.update m.log newId (⟨.added, now⟩ :: m.log newId)⟩ := by
  simp only [step, addPending] at next
  split at next
  · rename_i row db same
    split at same
    · cases same
    · split at same
      · cases same
      · split at same
        · cases same
        · rename_i chats inserted
          cases same
          exact Or.inr ⟨chats, inserted, (Option.some.inj next).symm⟩
  · exact Or.inl (Option.some.inj next).symm

theorem accounted_step {e : ChatCall × Time} (ok : m.Accounted) (next : step m e = some t) :
    t.Accounted := by
  rcases e with ⟨call, now⟩
  cases call with
  | addPending newId new =>
      rcases step_addPending next with rfl | ⟨chats, inserted, rfl⟩
      · exact ok
      · exact each_add ok inserted accounted_added
  | applyVerification chatId result =>
      rcases step_applyVerification next with rfl | rfl
      · exact ok
      · exact each_touch ok (fun _ _ => accounted_verified)
  | deferVerification chatId =>
      cases next
      exact each_touch ok (fun _ _ _ => accounted_scheduled rfl rfl rfl)
  | requestVerification telegramChatId =>
      cases next
      exact each_touch ok (fun _ _ _ => accounted_scheduled rfl rfl rfl)
  | pause chatId =>
      cases next
      exact each_touch ok (fun _ _ _ => accounted_paused)
  | resume chatId =>
      cases next
      exact each_touch ok (fun _ _ _ _ => accounted_resumed)
  | remove chatId =>
      cases next
      exact each_remove ok

theorem lawful_step {e : ChatCall × Time} (ok : m.Accounted) (next : step m e = some t)
    (held : chat ∈ m.db.monitoredChats) :
    Lawful (m.log chat.id) chat (t.log chat.id) (t.db.monitoredChats.get? chat.id) := by
  have untouched : Lawful (m.log chat.id) chat (m.log chat.id)
      (m.db.monitoredChats.get? chat.id) := by
    rw [Table.get?_of_mem held]
    exact .untouched
  rcases e with ⟨call, now⟩
  cases call with
  | addPending newId new =>
      rcases step_addPending next with rfl | ⟨chats, inserted, rfl⟩
      · exact untouched
      · have other : chat.id ≠ newId := Table.fresh_of_insert? inserted chat held
        have stored : chats.get? chat.id = m.db.monitoredChats.get? chat.id :=
          (Table.get?_insert? inserted).trans (if_neg other)
        dsimp only [Database.setMonitoredChats]
        rw [Function.update_of_ne other, stored]
        exact untouched
  | applyVerification chatId result =>
      rcases step_applyVerification next with rfl | rfl
      · exact untouched
      · exact lawful_touch ok held (fun _ => lawful_verified)
  | deferVerification chatId =>
      cases next
      exact lawful_touch ok held (fun _ enabled _ => lawful_deferred enabled)
  | requestVerification telegramChatId =>
      cases next
      refine lawful_touch ok held (fun _ enabled _ => ?_)
      simp only [isEnabledInTelegram, Bool.and_eq_true, decide_eq_true_eq] at enabled
      exact lawful_of_enabled enabled.2 (fun _ => ChatEvent.noConfusion) ChatEvent.noConfusion
  | pause chatId =>
      cases next
      refine lawful_touch ok held (fun _ enabled _ => ?_)
      simp only [isEnabled, Bool.and_eq_true, decide_eq_true_eq] at enabled
      exact lawful_of_enabled enabled.2 (fun _ => ChatEvent.noConfusion) ChatEvent.noConfusion
  | resume chatId =>
      cases next
      exact lawful_touch ok held (fun _ _ _ => lawful_resumed)
  | remove chatId =>
      cases next
      have log : m.record (fun chat => chat.id = chatId) .removed now chat.id = _ :=
        record_of_mem held
      have stored : (remove chatId m.db).monitoredChats.get? chat.id =
          if chat.id = chatId then none else m.db.monitoredChats.get? chat.id := Table.get?_erase
      dsimp only
      rw [log, stored]
      by_cases own : chat.id = chatId
      · rw [if_pos own, if_pos (by simpa using own)]
        exact lawful_removed
      · rw [if_neg own, if_neg (by simpa using own)]
        exact untouched

end Steps

/-- In every run from a table without chats: the counter, the status and the next check of each
stored chat are what the calls that took effect on it say, and every further call does to it what
it may. -/
theorem access_evidence {db : Database} {es : List (ChatCall × Time)} {m : Monitor}
    (empty : db.monitoredChats = ∅) (run : Run step anyEvent ⟨db, fun _ => []⟩ es m) :
    m.Accounted ∧ ∀ e t, step m e = some t → ∀ chat ∈ m.db.monitoredChats,
      Lawful (m.log chat.id) chat (t.log chat.id) (t.db.monitoredChats.get? chat.id) := by
  have ok : m.Accounted := by
    refine run.invariant ?_ (fun _ _ _ ok _ next => accounted_step ok next)
    intro chat held
    rw [empty] at held
    exact absurd held (Table.not_mem_empty chat)
  exact ⟨ok, fun _ _ next _ held => lawful_step ok next held⟩

/-- A chat of which the account loses sight twice, with a deferral in between. -/
def sampleCalls : List (ChatCall × Time) :=
  [(.addPending 1 ⟨-100, "Support", none⟩, 0),
    (.applyVerification 1 { outcome := .active, isSupergroup := true }, 10),
    (.applyVerification 1 { outcome := .accessLost, errorCode := some "no_access" }, 20),
    (.deferVerification 1, 30),
    (.applyVerification 1 { outcome := .accessLost, errorCode := some "no_access" }, 40)]

theorem access_evidence_sample : ∃ m : Monitor, m.Accounted ∧
    m.db.monitoredChats.rows.map (fun chat =>
      (chat.status, chat.consecutiveAccessFailures, chat.nextVerificationAt)) =
        [(.accessLost, 2, 40 + days 1)] := by
  have computed : (exec step anyEvent ⟨{}, fun _ => []⟩ sampleCalls).map (fun m =>
      m.db.monitoredChats.rows.map (fun chat =>
        (chat.status, chat.consecutiveAccessFailures, chat.nextVerificationAt))) =
      some [(.accessLost, 2, 40 + days 1)] := by decide +kernel
  rcases Run.exists_of_exec computed with ⟨m, run, value⟩
  exact ⟨m, (access_evidence rfl run).1, value⟩

section Verifier

variable {m : Monitor} {client : VerifyChat} {now : Time}

/-- Each chat of a pass is one call. -/
theorem exists_verifyChat {chat : MonitoredChat} :
    ∃ call t, step m (call, now) = some t ∧
      t.db = (verifyChat client now chat m.db).committed m.db := by
  unfold verifyChat
  cases client chat.telegramChatId with
  | none => exact ⟨.deferVerification chat.id, _, rfl, rfl⟩
  | some result =>
      refine ⟨.applyVerification chat.id result, ?_⟩
      simp only [step]
      split
      · rename_i applied
        exact ⟨_, rfl, by rw [applied]; rfl⟩
      · rename_i refused
        exact ⟨_, rfl, by rw [refused]; rfl⟩

/-- A pass of the verifier is a run of calls, one for each due chat up to an exception. -/
theorem verifyDueChatsOnce_is_run : ∃ es t, Run step anyEvent m es t ∧
    t.db = verifyDueChatsOnce client now m.db := by
  unfold verifyDueChatsOnce
  generalize listDueVerification now m.db = due
  induction due generalizing m with
  | nil => exact ⟨[], m, .nil, rfl⟩
  | cons chat due ih =>
      rcases @exists_verifyChat m client now chat with ⟨call, t, next, committed⟩
      unfold verifyChats
      split
      · rename_i failed
        rw [failed] at committed
        exact ⟨_, t, .snoc .nil trivial next, committed⟩
      · rename_i passed
        rw [passed] at committed
        rcases @ih t with ⟨es, u, rest, ends⟩
        exact ⟨_, u, .cons trivial next rest, ends.trans (congrArg _ committed)⟩

end Verifier

end LeadAssistant.AccessEvidence
