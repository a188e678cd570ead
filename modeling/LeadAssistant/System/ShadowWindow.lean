/-
Module: LeadAssistant.System.ShadowWindow
Layer: System
Purpose: What a shadow report says about the run of the services in its window. A report that passes
  means that no message of the chat was sent or edited and no delivery of a notification about it
  was recorded, if its commands were settled before; with the flags that the report asks for, and
  without a new confirmation, it does pass. The figures of a report agree with each other in every
  run.
Trusted boundary: human-reviewed spec
Main exports: Assistant.Within, FeatureFlags.runs, Assistant.shadow_report_sound,
  Assistant.shadow_mode_passes, Assistant.report_adds_up
-/
import LeadAssistant.Rollout.Shadow
import LeadAssistant.System.CommandEffects
import LeadAssistant.System.Notices

namespace LeadAssistant

open Relational Transition ReplyWorkflow ShadowReportRepository BotNotificationWorker

/-- The services that are started with these flags: the listener registers its handler, the bot its
notification worker, and the listener its outbound workers, each behind a flag of its own. -/
def FeatureFlags.runs (flags : FeatureFlags) : ServiceEvent → Bool
  | .listener (.update ..) => flags.monitoringEnabled
  | .notify .. => flags.notificationsEnabled
  | .outbound (.recoverStale _) => true
  | .outbound _ => flags.outboundRepliesEnabled
  | _ => true

/-- The operator confirms a send or an edit. -/
def ServiceEvent.confirms : ServiceEvent → Bool
  | .bot _ call => call.confirmedAt?.isSome
  | _ => false

namespace Assistant

section Window

variable (chatId : Int) (startedAt endedAt : Time)

/-- A question is one of the chat. -/
def inChat (s : Assistant) (questionId : UUID) : Bool :=
  (s.db.placeOf? questionId).any (fun place => place.1 = chatId)

/-- All commands of the chat are settled. -/
def Settled (s : Assistant) : Prop :=
  ∀ command ∈ s.db.outboundCommands, command.telegramChatId = chatId → isSettled command = true

/-- A step in the window: it stamps what it writes with a time of the window, and deletes no question
of the chat. -/
def within (s : Assistant) : ServiceEvent → Bool
  | .bot _ call => call.confirmedAt?.all (between startedAt endedAt)
  | .notify _ _ now _ => between startedAt endedAt now
  | .retention rows _ => rows.questionIds.all (fun questionId => !inChat chatId s questionId)
  | _ => true

/-- The steps that a run takes in the window. -/
abbrev Within (s : Assistant) (e : ServiceEvent) : Prop := within chatId startedAt endedAt s e = true

/-- A command of the chat was created in the window. -/
def Ordered (s : Assistant) : Prop :=
  ∃ command ∈ s.db.outboundCommands,
    command.telegramChatId = chatId ∧ between startedAt endedAt command.createdAt = true

/-- A notification about the chat was marked sent in the window. -/
def Marked (s : Assistant) : Prop :=
  ∃ notification ∈ s.db.botNotifications, inChat chatId s notification.questionId = true ∧
    notification.sentAt.any (between startedAt endedAt) = true

/-- A committed iteration has delivered a notification about the chat: every call was answered. What
Telegram has accepted is not recorded if the last answer or the commit is lost. -/
def Delivers (settings : AppSettings) (s : Assistant) (e : ServiceEvent) : Prop :=
  ∃ locked api now attempt db, e = .notify locked api now .committed ∧
    runOnce {} settings.operatorUserId locked api.toNotificationBot now s.db =
      .ok (some attempt, db) ∧
    attempt.Complete ∧ inChat chatId s attempt.questionId = true

end Window

section Steps

variable {settings : AppSettings} {chatId : Int} {startedAt endedAt : Time} {s t : Assistant}
  {e : ServiceEvent}

theorem inChat_iff {questionId : UUID} : inChat chatId s questionId = true ↔
    ∃ place, s.db.placeOf? questionId = some place ∧ place.1 = chatId := by
  unfold inChat
  cases s.db.placeOf? questionId <;> simp

theorem not_deleted {rows : Expired} {now : Time} {questionId : UUID}
    (inside : Within chatId startedAt endedAt s (.retention rows now))
    (held : inChat chatId s questionId = true) : questionId ∉ rows.questionIds := by
  intro named
  have gone := List.all_eq_true.1 inside questionId named
  simp [held] at gone

/-- The questions of the chat stay in it. -/
theorem inChat_step {questionId : UUID} (sound : Sound s)
    (inside : Within chatId startedAt endedAt s e)
    (next : step settings s e = some t) (held : inChat chatId s questionId = true) :
    inChat chatId t questionId = true := by
  obtain ⟨place, found, chat⟩ := inChat_iff.1 held
  refine inChat_iff.2 ⟨place, ?_, chat⟩
  cases step_served next with
  | heard e l own moved =>
      rw [← found]
      unfold Database.placeOf?
      change Option.map _ (l.intake.db.detectedQuestions.get? _) = _
      rw [(Listener.step_queues own moved).same]
      rfl
  | worked e p own moved =>
      change p.db.placeOf? questionId = some place
      rcases Pipeline.commits_of_step sound.tracked own moved with
        same | ⟨iteration, open_, w, error, db, -, ran, rfl⟩
      · rw [same]
        exact found
      · rcases Pipeline.run_asks ran with same | asks
        · rw [← found]
          unfold Database.placeOf?
          change Option.map _ (db.detectedQuestions.get? _) = _
          rw [same.questions]
          rfl
        · rcases asks.placeOf? questionId with ⟨-, absent, -⟩ | ⟨-, kept⟩
          · cases absent.symm.trans found
          · exact kept.trans found
  | refused => exact found
  | called call w isCall unlocked moved =>
      exact ((step_writes (Or.inl isCall) moved).places questionId).trans found
  | delivered call w outbound moved =>
      exact ((step_writes (Or.inr outbound) moved).places questionId).trans found
  | notified locked api now ended notifications left => exact found
  | written db => exact found
  | retained rows now free due =>
      have kept : questionId ∉ rows.questionIds := not_deleted inside held
      change (RetentionRepository.deleteQuestions rows.questionIds s.db).placeOf? questionId = _
      rw [placeOf?_deleteQuestions, if_neg kept]
      exact found

/-- A command keeps its chat and its time in every step, unless its question is deleted. -/
theorem Ordered.step (sound : Sound s) (inside : Within chatId startedAt endedAt s e)
    (next : step settings s e = some t) (ordered : Ordered chatId startedAt endedAt s) :
    Ordered chatId startedAt endedAt t := by
  obtain ⟨command, held, chat, created⟩ := ordered
  have orders : ∀ {x : ReplyWorkflow.Event} {u : Database},
      Orders s.db.outboundCommands x u.outboundCommands → ∃ command ∈ u.outboundCommands,
        command.telegramChatId = chatId ∧ between startedAt endedAt command.createdAt = true := by
    intro x u orders
    obtain ⟨after, there, same⟩ := orders.kept command held
    exact ⟨after, there, same.telegramChatId.trans chat, same.createdAt ▸ created⟩
  cases step_served next with
  | heard e l own moved =>
      refine ⟨command, ?_, chat, created⟩
      change command ∈ l.intake.db.outboundCommands
      rw [(Listener.step_queues own moved).same]
      exact held
  | worked e p own moved =>
      refine ⟨command, ?_, chat, created⟩
      change command ∈ p.db.outboundCommands
      rcases Pipeline.commits_of_step sound.tracked own moved with
        same | ⟨iteration, open_, w, error, db, -, ran, rfl⟩
      · rw [same]
        exact held
      · rcases Pipeline.run_asks ran with same | asks
        · exact same.commands ▸ held
        · exact asks.commands ▸ held
  | refused => exact ⟨command, held, chat, created⟩
  | called call w isCall unlocked moved =>
      exact orders (step_orders sound.consistent (Or.inl isCall) moved)
  | delivered call w outbound moved =>
      exact orders (step_orders sound.consistent (Or.inr outbound) moved)
  | notified locked api now ended notifications left => exact ⟨command, held, chat, created⟩
  | written db => exact ⟨command, held, chat, created⟩
  | retained rows now free due =>
      have owner := inChat_iff.2 ⟨_, sound.consistent.coupled.owner command held, chat⟩
      exact ⟨command, mem_deleteQuestions.2 ⟨held, not_deleted inside owner⟩, chat, created⟩

/-- A committed iteration leaves a notification that is marked sent in the window as one. -/
theorem marked_of_notifies {now : Time} {known : Option Attempt} {db u : Database}
    {notification : BotNotification} (notifies : Notifies now db known u)
    (inside : between startedAt endedAt now = true) (held : notification ∈ db.botNotifications)
    (stamped : notification.sentAt.any (between startedAt endedAt) = true) :
    ∃ later ∈ u.botNotifications, later.questionId = notification.questionId ∧
      later.sentAt.any (between startedAt endedAt) = true := by
  cases notifies with
  | idle => exact ⟨notification, held, rfl, stamped⟩
  | @attempted row settled attempt notifications taken own rendered lawful stamps keeps written =>
      by_cases is_row : notification.questionId = row.questionId
      · have same := Table.eq_of_key_eq held taken is_row
        have there := (written row.questionId).trans (if_pos rfl)
        refine ⟨settled, Table.mem_of_get? there, (Table.key_of_get? there).trans is_row.symm, ?_⟩
        by_cases complete : attempt.Complete
        · rw [stamps complete]
          exact inside
        · rw [keeps complete, ← same]
          exact stamped
      · have there := (written notification.questionId).trans (if_neg is_row)
        rw [Table.get?_of_mem held] at there
        exact ⟨notification, Table.mem_of_get? there, rfl, stamped⟩

/-- A notification that is marked sent stays so. -/
theorem Marked.step (sound : Sound s) (inside : Within chatId startedAt endedAt s e)
    (next : step settings s e = some t) (marked : Marked chatId startedAt endedAt s) :
    Marked chatId startedAt endedAt t := by
  obtain ⟨notification, held, inChat, stamped⟩ := marked
  have stays := inChat_step sound inside next inChat
  cases step_served next with
  | heard e l own moved =>
      refine ⟨notification, ?_, stays, stamped⟩
      change notification ∈ l.intake.db.botNotifications
      rw [(Listener.step_queues own moved).same]
      exact held
  | worked e p own moved =>
      refine ⟨notification, ?_, stays, stamped⟩
      change notification ∈ p.db.botNotifications
      rcases Pipeline.commits_of_step sound.tracked own moved with
        same | ⟨iteration, open_, w, error, db, -, ran, rfl⟩
      · rw [same]
        exact held
      · rcases Pipeline.run_asks ran with same | asks
        · exact same.notifications ▸ held
        · obtain ⟨told, inserted, -⟩ := asks.told
          exact (Table.mem_insert? inserted).2 (Or.inl held)
  | refused => exact ⟨notification, held, stays, stamped⟩
  | called call w isCall unlocked moved =>
      have same := (step_moves sound.consistent moved).beside.notifications
      exact ⟨notification, same ▸ held, stays, stamped⟩
  | delivered call w outbound moved =>
      have same := (step_moves sound.consistent moved).beside.notifications
      exact ⟨notification, same ▸ held, stays, stamped⟩
  | notified locked api now ended notifications left =>
      rcases left with rfl | ⟨known, -, ran⟩
      · exact ⟨notification, held, stays, stamped⟩
      · obtain ⟨later, there, same, timed⟩ :=
          marked_of_notifies (runOnce_notifies ran) inside held stamped
        exact ⟨later, there, same ▸ stays, timed⟩
  | written db => exact ⟨notification, held, stays, stamped⟩
  | retained rows now free due =>
      refine ⟨notification, Table.mem_deleteWhere.2 ⟨held, ?_⟩, stays, stamped⟩
      simpa using not_deleted inside inChat

/-- A delivery marks its notification. -/
theorem Delivers.marked (inside : Within chatId startedAt endedAt s e)
    (next : step settings s e = some t) (delivers : Delivers chatId settings s e) :
    Marked chatId startedAt endedAt t := by
  obtain ⟨locked, api, now, attempt, db, rfl, ran, complete, inChat⟩ := delivers
  simp only [step, afterNotice] at next
  rw [ran] at next
  cases next
  cases runOnce_notifies ran with
  | @attempted row settled attempt notifications taken own rendered lawful stamps keeps written =>
      have there := (written row.questionId).trans (if_pos rfl)
      refine ⟨settled, Table.mem_of_get? there, ?_, ?_⟩
      · rw [Table.key_of_get? there, ← own]
        exact inChat
      · rw [stamps complete]
        exact inside

/-- While no command is created in the window, the commands of the chat stay settled, and what
Telegram shows in the chat stays as it is. -/
theorem Settled.step (sound : Sound s) (inside : Within chatId startedAt endedAt s e)
    (next : step settings s e = some t) (settled : Settled chatId s)
    (unordered : ¬ Ordered chatId startedAt endedAt t) :
    Settled chatId t ∧ ∀ shown : ReplyWorkflow.TelegramMessage, shown.chatId = chatId →
      (shown ∈ t.telegram ↔ shown ∈ s.telegram) := by
  have orders : ∀ {x : ReplyWorkflow.Event} {u : Database},
      Orders s.db.outboundCommands x u.outboundCommands →
      x.confirmedAt?.all (between startedAt endedAt) = true →
      (¬ ∃ command ∈ u.outboundCommands, command.telegramChatId = chatId ∧
        between startedAt endedAt command.createdAt = true) →
      ∀ command ∈ u.outboundCommands, command.telegramChatId = chatId → isSettled command = true := by
    intro x u orders timed none_new after there chat
    rcases orders.origin after there with old | ⟨command, held, same, unsettled, -⟩ | ⟨confirms, -⟩
    · exact settled after old chat
    · rw [settled command held (same.telegramChatId.symm.trans chat)] at unsettled
      cases unsettled
    · rw [confirms] at timed
      exact absurd ⟨after, there, chat, timed⟩ none_new
  cases step_served next with
  | heard e l own moved =>
      refine ⟨fun command there => settled command ?_, fun _ _ => Iff.rfl⟩
      change command ∈ l.intake.db.outboundCommands at there
      rw [(Listener.step_queues own moved).same] at there
      exact there
  | worked e p own moved =>
      refine ⟨fun command there => settled command ?_, fun _ _ => Iff.rfl⟩
      change command ∈ p.db.outboundCommands at there
      rcases Pipeline.commits_of_step sound.tracked own moved with
        same | ⟨iteration, open_, w, error, db, -, ran, rfl⟩
      · rw [same] at there
        exact there
      · rcases Pipeline.run_asks ran with same | asks
        · exact same.commands ▸ there
        · exact asks.commands ▸ there
  | refused => exact ⟨settled, fun _ _ => Iff.rfl⟩
  | called call w isCall unlocked moved =>
      have moves := step_moves sound.consistent moved
      exact ⟨orders (step_orders sound.consistent (Or.inl isCall) moved) inside unordered,
        fun _ chat => telegram_kept sound.consistent settled moves chat⟩
  | delivered call w outbound moved =>
      have moves := step_moves sound.consistent moved
      refine ⟨orders (step_orders sound.consistent (Or.inr outbound) moved) ?_ unordered,
        fun _ chat => telegram_kept sound.consistent settled moves chat⟩
      cases call with
      | confirmSend | confirmEdit => cases outbound
      | _ => rfl
  | notified locked api now ended notifications left => exact ⟨settled, fun _ _ => Iff.rfl⟩
  | written db => exact ⟨settled, fun _ _ => Iff.rfl⟩
  | retained rows now free due =>
      exact ⟨fun command there => settled command (mem_deleteQuestions.1 there).1, fun _ _ => Iff.rfl⟩

end Steps

section Windows

variable {settings : AppSettings} {chatId : Int} {startedAt endedAt now : Time} {s u v : Assistant}
  {es fs : List ServiceEvent} {flags : FeatureFlags} {report : ShadowReport}

/-- Nothing that a report counts is stamped from a certain time on. -/
structure Unstamped (startedAt : Time) (s : Assistant) : Prop where
  created : ∀ command ∈ s.db.outboundCommands, command.createdAt < startedAt
  completed : ∀ command ∈ s.db.outboundCommands, ∀ at_ ∈ command.completedAt, at_ < startedAt
  sent : ∀ notification ∈ s.db.botNotifications, ∀ at_ ∈ notification.sentAt, at_ < startedAt

/-- A step of the services that these flags start, which confirms nothing. -/
def Shadowed (flags : FeatureFlags) (_ : Assistant) (e : ServiceEvent) : Prop :=
  flags.runs e = true ∧ e.confirms = false

theorem Unstamped.subset {t : Assistant} (unstamped : Unstamped startedAt s)
    (commands : ∀ command ∈ t.db.outboundCommands, command ∈ s.db.outboundCommands)
    (notifications : ∀ notification ∈ t.db.botNotifications, notification ∈ s.db.botNotifications) :
    Unstamped startedAt t where
  created command there := unstamped.created command (commands command there)
  completed command there := unstamped.completed command (commands command there)
  sent notification there := unstamped.sent notification (notifications notification there)

/-- What neither confirms nor finishes stamps no command. -/
theorem Unstamped.replied {e : ReplyWorkflow.Event} {w : ReplyWorkflow.World}
    (unstamped : Unstamped startedAt s)
    (orders : Orders s.db.outboundCommands e w.db.outboundCommands)
    (notifications : w.db.botNotifications = s.db.botNotifications)
    (unconfirmed : e.confirmedAt? = none) (unfinished : e.finishedAt? = none) :
    Unstamped startedAt (s.afterReplies w) where
  created after there := by
    rcases orders.origin after there with old | ⟨command, held, same, -⟩ | ⟨confirms, -⟩
    · exact unstamped.created after old
    · exact same.createdAt ▸ unstamped.created command held
    · cases unconfirmed.symm.trans confirms
  completed after there at_ stamped := by
    rcases orders.origin after there with old | ⟨command, held, -, -, completes⟩ | ⟨confirms, -⟩
    · exact unstamped.completed after old at_ stamped
    · rcases completes with same | ⟨now, finishes, -⟩
      · exact unstamped.completed command held at_ (same ▸ stamped)
      · cases unfinished.symm.trans finishes
    · cases unconfirmed.symm.trans confirms
  sent notification there := unstamped.sent notification (notifications ▸ there)

/-- With notifications and outbound replies switched off, a step stamps and sends nothing. -/
theorem Unstamped.step {t : Assistant} {e : ServiceEvent} (sound : Sound s)
    (quiet : flags.notificationsEnabled = false) (mute : flags.outboundRepliesEnabled = false)
    (shadowed : Shadowed flags s e) (next : step settings s e = some t)
    (unstamped : Unstamped startedAt s) :
    Unstamped startedAt t ∧ t.telegram = s.telegram ∧ t.attempts = s.attempts := by
  obtain ⟨runs, unconfirmed⟩ := shadowed
  cases step_served next with
  | heard e l own moved =>
      have same := (Listener.step_queues own moved).same
      refine ⟨unstamped.subset ?_ ?_, rfl, rfl⟩
      · intro command there
        change command ∈ l.intake.db.outboundCommands at there
        rw [same] at there
        exact there
      · intro notification there
        change notification ∈ l.intake.db.botNotifications at there
        rw [same] at there
        exact there
  | worked e p own moved =>
      refine ⟨?_, rfl, rfl⟩
      rcases Pipeline.commits_of_step sound.tracked own moved with
        same | ⟨iteration, open_, w, error, db, -, ran, rfl⟩
      · have kept : p.db = s.db := same
        exact unstamped.subset (fun _ there => kept ▸ there) (fun _ there => kept ▸ there)
      · rcases Pipeline.run_asks ran with same | asks
        · exact unstamped.subset (fun _ there => same.commands ▸ there)
            (fun _ there => same.notifications ▸ there)
        · obtain ⟨told, inserted, -, unsent⟩ := asks.told
          constructor
          · exact fun command there => unstamped.created command (asks.commands ▸ there)
          · exact fun command there => unstamped.completed command (asks.commands ▸ there)
          · intro notification there at_ stamped
            rcases (Table.mem_insert? inserted).1 there with old | rfl
            · exact unstamped.sent notification old at_ stamped
            · rw [unsent] at stamped
              cases stamped
  | refused => exact ⟨unstamped, rfl, rfl⟩
  | called call w isCall unlocked moved =>
      have silent := step_silent (Or.inl isCall) moved
      refine ⟨unstamped.replied (step_orders sound.consistent (Or.inl isCall) moved)
        (step_moves sound.consistent moved).beside.notifications ?_ ?_, silent.1, rfl⟩
      · simpa [ServiceEvent.confirms] using unconfirmed
      · cases call with
        | finishSend | finishEdit => cases isCall
        | _ => rfl
  | delivered call w outbound moved =>
      have recovery : ∃ staleBefore, call = .recoverStale staleBefore := by
        cases call with
        | recoverStale staleBefore => exact ⟨staleBefore, rfl⟩
        | _ => exact absurd (mute.symm.trans runs) (by decide)
      obtain ⟨staleBefore, rfl⟩ := recovery
      have silent := step_silent (Or.inr ⟨staleBefore, rfl⟩) moved
      exact ⟨unstamped.replied (step_orders sound.consistent (Or.inr outbound) moved)
        (step_moves sound.consistent moved).beside.notifications rfl rfl, silent.1, rfl⟩
  | notified locked api now ended notifications left =>
      exact absurd (quiet.symm.trans runs) (by decide)
  | written db => exact ⟨unstamped.subset (fun _ there => there) (fun _ there => there), rfl, rfl⟩
  | retained rows now free due =>
      refine ⟨unstamped.subset ?_ ?_, rfl, rfl⟩
      · exact fun command there => (mem_deleteQuestions.1 there).1
      · exact fun notification there => (Table.mem_deleteWhere.1 there).1

/-- While the services run without notifications and outbound replies, and the operator confirms
nothing, no message is sent or edited and no notification is attempted, and every report that is
collected over the window passes, whatever its chat. -/
theorem shadow_mode_passes (fresh : Fresh s) (before : Run (step settings) anyEvent s es u)
    (unstamped : Unstamped startedAt u) (quiet : flags.notificationsEnabled = false)
    (mute : flags.outboundRepliesEnabled = false)
    (window : Run (step settings) (Shadowed flags) u fs v) :
    v.telegram = u.telegram ∧ v.attempts = u.attempts ∧
      ∀ chatId endedAt now asked report,
        collect chatId startedAt endedAt asked now v.db = .ok report → report.safe = true := by
  have start : Sound u := before.invariant fresh.sound fun _ _ _ held _ moved => held.step moved
  have silent : Unstamped startedAt v ∧ v.telegram = u.telegram ∧ v.attempts = u.attempts := by
    induction window with
    | nil => exact ⟨unstamped, rfl, rfl⟩
    | @snoc w v fs e earlier shadowed next ih =>
        have sound : Sound w := earlier.invariant start fun _ _ _ held _ moved => held.step moved
        obtain ⟨held, telegram, attempts⟩ := ih
        obtain ⟨after, shown, told⟩ := held.step sound quiet mute shadowed next
        exact ⟨after, shown.trans telegram, told.trans attempts⟩
  refine ⟨silent.2.1, silent.2.2, fun chatId endedAt now asked report collected => ?_⟩
  refine (safe_iff collected).2 ⟨?_, ?_⟩
  · intro notification held question found
    unfold isSentIn
    cases stamped : notification.sentAt with
    | none => simp
    | some at_ =>
        have early := silent.1.sent notification held at_ stamped
        simp [between, Int.not_le.2 early]
  · intro command held
    have early := silent.1.created command held
    unfold isOrderedIn
    cases stamped : command.completedAt with
    | none => simp [between, Int.not_le.2 early]
    | some at_ =>
        have earlier := silent.1.completed command held at_ stamped
        simp [between, Int.not_le.2 early, Int.not_le.2 earlier]

/-! ### The figures -/

/-- Every recorded run is one of the first stage or of the second. -/
def Staged (s : Assistant) : Prop :=
  ∀ run ∈ s.db.classificationRuns, run.stage = 1 ∨ run.stage = 2

theorem staged_of_outcome {iteration : Pipeline.Iteration} {db u : Database}
    {error : Option HandlerError} {left : Option ProcessingJob}
    (staged : ∀ run ∈ db.classificationRuns, run.stage = 1 ∨ run.stage = 2)
    (outcome : Pipeline.Outcome iteration db u error left) :
    ∀ run ∈ u.classificationRuns, run.stage = 1 ∨ run.stage = 2 := by
  have recorded : ∀ {run : ClassificationRun}, Pipeline.Records db u run →
      run.stage = 1 ∨ run.stage = 2 →
      ∀ run ∈ u.classificationRuns, run.stage = 1 ∨ run.stage = 2 := by
    intro run records stage other there
    rcases records.runs with inserted | ⟨-, same⟩
    · rcases (Table.mem_insert? inserted).1 there with old | rfl
      · exact staged other old
      · exact stage
    · exact staged other (same ▸ there)
  have stage : ∀ {run : ClassificationRun} {x y : Int} {n : Nat}, run.key = (x, y, n) →
      run.stage = n :=
    fun key => congrArg (fun k => k.2.2) key
  cases outcome with
  | retried error delay retryable due same => exact fun run there => staged run (same.runs ▸ there)
  | failed error errorCode spent same => exact fun run there => staged run (same.runs ▸ there)
  | routed run status worker message sent records => exact recorded records (Or.inl (stage message))
  | dropped run worker message sent records => exact recorded records (Or.inl (stage message))
  | loaded snapshot worker same => exact fun run there => staged run (same.runs ▸ there)
  | chosen run worker awaiting message relevant records =>
      exact recorded records (Or.inr (stage message))
  | declined run worker awaiting message irrelevant records =>
      exact recorded records (Or.inr (stage message))
  | duplicate worker awaiting existing same => exact fun run there => staged run (same.runs ▸ there)
  | persisted worker awaiting persists => exact fun run there => staged run (persists.runs ▸ there)

theorem Staged.step {t : Assistant} {e : ServiceEvent} (sound : Sound s) (staged : Staged s)
    (next : step settings s e = some t) : Staged t := by
  cases step_served next with
  | heard e l own moved =>
      intro run there
      change run ∈ l.intake.db.classificationRuns at there
      rw [(Listener.step_queues own moved).same] at there
      exact staged run there
  | worked e p own moved =>
      rcases Pipeline.commits_of_step sound.tracked own moved with
        same | ⟨iteration, open_, w, error, db, -, ran, rfl⟩
      · have kept : p.db = s.db := same
        exact fun run there => staged run (kept ▸ there)
      · obtain ⟨row, found, claims, left, leaves, outcome⟩ := sound.tracked.outcome open_ ran
        exact staged_of_outcome staged outcome
  | refused => exact staged
  | called call w isCall unlocked moved =>
      have same := (step_moves sound.consistent moved).beside.runs
      exact fun run there => staged run (same ▸ there)
  | delivered call w outbound moved =>
      have same := (step_moves sound.consistent moved).beside.runs
      exact fun run there => staged run (same ▸ there)
  | notified locked api now ended notifications left => exact staged
  | written db => exact staged
  | retained rows now free due => exact fun run there => staged run (Table.mem_deleteWhere.1 there).1

/-- In every state that the services reach, the figures of every report agree with each other. -/
theorem report_adds_up (fresh : Fresh s) (unrecorded : ∀ run, run ∉ s.db.classificationRuns)
    (run : Run (step settings) anyEvent s es v)
    (collected : collect chatId startedAt endedAt flags now v.db = .ok report) : AddsUp report := by
  apply collect_adds_up collected
  have both : Sound v ∧ Staged v := by
    apply run.invariant ⟨fresh.sound, fun run held => absurd held (unrecorded run)⟩
    exact fun _ _ _ held _ moved => ⟨held.1.step moved, held.2.step held.1 moved⟩
  exact both.2

end Windows

/-! ### One window -/

def sampleFlags : FeatureFlags where
  monitoringEnabled := true
  notificationsEnabled := false
  outboundRepliesEnabled := false
  translationEnabled := false

/-- The request of the sample is received and asked within one window, and reported on. -/
theorem sampleWindow : ∃ v report, Run (step sampleSettings) anyEvent sampleAssistant sampleAsked v ∧
    collect (-100) 0 20 sampleFlags 20 v.db = .ok report ∧ report.safe = true ∧
      report.relevant = 1 := by
  have computed : (exec (step sampleSettings) anyEvent sampleAssistant sampleAsked).map
      (fun v => (collect (-100) 0 20 sampleFlags 20 v.db).toOption.map
        (fun report => (report.safe, report.relevant))) = some (some (true, 1)) := by
    decide +kernel
  obtain ⟨v, run, value⟩ := Run.exists_of_exec computed
  cases collected : collect (-100) 0 20 sampleFlags 20 v.db with
  | error raised =>
      rw [collected] at value
      cases value
  | ok report =>
      rw [collected] at value
      obtain ⟨safe, relevant⟩ := Prod.mk.inj (Option.some.inj value)
      exact ⟨v, report, run, collected, safe, relevant⟩

theorem shadow_mode_passes_sample : ∃ v : Assistant, ∃ report,
    collect (-100) 0 20 sampleFlags 20 v.db = .ok report ∧ report.safe = true ∧
      v.attempts = [] := by
  obtain ⟨v, report, run, collected, -, -⟩ := sampleWindow
  have shadowed : sampleAsked.all (fun e => sampleFlags.runs e && !e.confirms) = true := rfl
  have window : Run (step sampleSettings) (Shadowed sampleFlags) sampleAssistant sampleAsked v :=
    run.restrict (fun u e held => by simpa [Shadowed] using List.all_eq_true.1 shadowed e held)
  have unstamped : Unstamped 0 sampleAssistant := by
    constructor
    · exact fun command held => absurd held (Table.not_mem_empty command)
    · exact fun command held => absurd held (Table.not_mem_empty command)
    · exact fun notification held => absurd held (Table.not_mem_empty notification)
  obtain ⟨-, attempts, passes⟩ :=
    shadow_mode_passes sampleAssistant_fresh .nil unstamped rfl rfl window
  exact ⟨v, report, collected, passes (-100) 20 20 sampleFlags report collected, attempts⟩

theorem report_adds_up_sample : ∃ report : ShadowReport, report.relevant = 1 ∧ AddsUp report := by
  obtain ⟨v, report, run, collected, -, relevant⟩ := sampleWindow
  exact ⟨report, relevant, report_adds_up sampleAssistant_fresh
    (fun run => Table.not_mem_empty run) run collected⟩

end Assistant

end LeadAssistant
