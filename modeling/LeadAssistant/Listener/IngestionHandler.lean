/-
Module: LeadAssistant.Listener.IngestionHandler
Layer: Listener
Purpose: The listener's intake as a system: the allow-list of active chats (`active_chats.py`), the
  mapping of Telethon events (`incoming.py`) and `IngestionHandler` (`ingestion.py`) over the
  statements of its `persist` calls, with the metrics it counts. Other services change the database
  in between, and the listener may stop at any point.
Trusted boundary: human-reviewed spec
Main exports: TelethonMessageEvent, mapTelethonEvent, Metric, Listener, ListenerEvent, Listener.step,
  Ingestion.Progress, Ingestion.statement_progress, Listener.Admits, Listener.receive_cases
-/
import LeadAssistant.Listener.Admission
import LeadAssistant.Listener.ForumPosts
import LeadAssistant.Listener.Prefilter

namespace LeadAssistant

open Relational Transition

/-- Cached event attributes that the mapper reads. An action that creates a topic is an action. -/
structure TelethonMessageEvent where
  chatId : Option Int
  message : TelegramMessage
  out : Bool
  hasAction : Bool
  hasSticker : Bool
  creates : message.createsTopic = true → hasAction = true

/-- `map_telethon_event`, for an event with a chat. -/
def mapTelethonEvent (event : TelethonMessageEvent) (chatId : Int) (topicId : Option Int) :
    MappedMessage where
  telegramChatId := chatId
  telegramMessageId := event.message.id
  topicId := topicId
  senderTelegramId := event.message.senderId
  senderDisplayName :=
    (event.message.senderName.map (fun name => String.ofList (name.toList.take 255))).filter
      (fun name => name ≠ "")
  text := event.message.rawText.filter (fun text => text ≠ "")
  telegramCreatedAt := event.message.date
  isOwn := event.out
  isService := event.hasAction
  hasSticker := event.hasSticker

/-- The counters that intake increments. -/
inductive Metric where
  | received
  | filtered (reasonCode : FilterReasonCode)
  | created
  | duplicatePrevented
  | failed
deriving Repr, DecidableEq

/-- The counter of messages that the prefilter has dropped, whatever the reason. -/
def Metric.isFiltered : Metric → Bool
  | .filtered _ => true
  | _ => false

/-- `list_active_telegram_chat_ids`. -/
def MonitoredChatRepository.listActiveTelegramChatIds (db : Database) : List Int :=
  (db.monitoredChats.rows.filter (fun chat => chat.status = .active)).map
    (fun chat => chat.telegramChatId)

/-- What a job keeps of its message. -/
def ProcessingJob.asNew (job : ProcessingJob) : NewJob where
  monitoredChatId := job.monitoredChatId
  telegramChatId := job.telegramChatId
  telegramMessageId := job.telegramMessageId
  messageText := job.messageText
  telegramCreatedAt := job.telegramCreatedAt
  topicId := job.topicId
  senderTelegramId := job.senderTelegramId
  senderDisplayName := job.senderDisplayName

namespace Ingestion

/-- The call that a statement belongs to. -/
def Event.call? : Event → Option Nat
  | .tick _ | .begin .. => none
  | .readChat id | .startRegister id | .write id | .enqueue id _ | .commit id | .rollback id =>
      some id

/-- The chat that a transaction has found active. -/
def Phase.chat? : Phase → Option UUID
  | .begun => none
  | .active chat | .registering chat _ | .registered chat _ _ | .enqueued chat _ _ => some chat

end Ingestion

/-- The allow-list, the answer of a refresh that is not published yet, the open calls over the
database, the metrics that were logged, and the number of calls that were cancelled or cut off by the
end of the process, which nothing counts. -/
structure Listener where
  intake : Ingestion.Intake
  chatIds : List Int := []
  loaded : Option (List Int) := none
  metrics : List Metric := []
  cancelled : Nat := 0

inductive ListenerEvent where
  /-- The clock of the database. -/
  | tick (now : Time)
  /-- The query of a `refresh` answers. -/
  | load
  /-- The answer becomes the list. -/
  | publish
  /-- A `refresh` raises or is cancelled. -/
  | abandon
  /-- Another service commits. -/
  | others (db : Database)
  /-- A Telethon update reaches the handler. -/
  | update (id : Nat) (event : TelethonMessageEvent)
  /-- A statement of an open `persist` call, or its failure. -/
  | statement (e : Ingestion.Event)
  /-- An open call is cancelled. -/
  | cancel (id : Nat)
  /-- The process ends and starts again. -/
  | restart

namespace Listener

/-- Other services insert no jobs and keep what a job has of its message. -/
def othersMay (before after : Database) : Bool :=
  after.processingJobs.rows.all (fun job =>
    before.processingJobs.rows.any (fun old => old.id = job.id && old.asNew = job.asNew))

/-- What the handler counts when `persist` has returned. -/
def answered : PersistOutcome → List Metric
  | .enqueued => [.created]
  | .duplicateSuppressed => [.duplicatePrevented]
  | .inactiveChat => []

/-- What the handler counts when a statement has ended its call. -/
def settled (before after : Ingestion.Intake) (id : Nat) : List Metric :=
  if (after.opened.get? id).isSome then []
  else
    match after.outcomes.drop before.outcomes.length with
    | outcome :: _ => answered outcome.result
    | [] => [.failed]

section Step

variable (u : UnicodeData) (messageFingerprint : String → String) (window : Int)

/-- `IngestionHandler.__call__`, up to its `await` of `persist`. -/
def receive (s : Listener) (id : Nat) (event : TelethonMessageEvent) : Option Listener :=
  match event.chatId with
  | none => some s
  | some chatId =>
      if chatId ∉ s.chatIds then some s
      else
        let message := mapTelethonEvent event chatId (extractTopicId event.message)
        let result := Prefilter.prefilterMessage u message
        if !result.shouldClassify || message.text.isNone then
          some { s with metrics := s.metrics ++ [.received, .filtered result.reasonCode] }
        else
          (Ingestion.step messageFingerprint window s.intake
            (.begin id message.toIncomingMessage)).map
            (fun intake => { s with intake := intake, metrics := s.metrics ++ [.received] })

/-- One event of the listener. -/
def step (s : Listener) : ListenerEvent → Option Listener
  | .tick now =>
      (Ingestion.step messageFingerprint window s.intake (.tick now)).map
        (fun intake => { s with intake := intake })
  | .load =>
      some { s with loaded := some (MonitoredChatRepository.listActiveTelegramChatIds s.intake.db) }
  | .publish => s.loaded.map (fun chatIds => { s with chatIds := chatIds, loaded := none })
  | .abandon => some { s with loaded := none }
  | .others db =>
      if othersMay s.intake.db db then some { s with intake := { s.intake with db := db } } else none
  | .update id event => receive u messageFingerprint window s id event
  | .statement e =>
      match e.call? with
      | none => none
      | some id =>
          (Ingestion.step messageFingerprint window s.intake e).map (fun intake =>
            { s with intake := intake, metrics := s.metrics ++ settled s.intake intake id })
  | .cancel id =>
      (Ingestion.step messageFingerprint window s.intake (.rollback id)).map
        (fun intake => { s with intake := intake, cancelled := s.cancelled + 1 })
  | .restart =>
      some { s with
        intake := { s.intake with opened := ∅ }
        chatIds := []
        loaded := none
        cancelled := s.cancelled + s.intake.opened.rows.length }

end Step

end Listener

/-! ### What a statement does -/

namespace Ingestion

/-- What a statement of an open call can do: it leaves the call open, it ends it with an answer, or
the call ends with an exception. -/
inductive Progress (s : Intake) (e : Event) (persist : Persist) : Intake → Prop where
  | advanced (phase : Phase)
      (chats : ∀ chat, phase.chat? = some chat → persist.phase.chat? = some chat ∨
        e = .readChat persist.id ∧
          MonitoredChatRepository.activeId? persist.message.telegramChatId s.db = some chat) :
      Progress s e persist (s.setPhase persist.id phase)
  | answered (db : Database) (result : PersistOutcome) (created : Bool)
      (jobs : ∀ job ∈ db.processingJobs, job ∈ s.db.processingJobs ∨
        ∃ chat, e = .commit persist.id ∧ persist.phase.chat? = some chat ∧
          (∀ old ∈ s.db.processingJobs, old.id ≠ job.id) ∧
          job.asNew = newJob persist.message persist.text chat) :
      Progress s e persist ((s.close persist.id db).answer persist.message result created)
  | raised : Progress s e persist (s.close persist.id s.db)

variable {messageFingerprint : String → String} {window : Int} {s t : Intake} {e : Event} {id : Nat}

/-- A job after `enqueue` was there or is the message's own. -/
theorem mem_of_enqueue {new : NewJob} {newId jobId : UUID} {now : Time} {db db' : Database}
    (enqueued : JobRepository.enqueue new newId now db = .ok (jobId, db')) {job : ProcessingJob}
    (held : job ∈ db'.processingJobs) : job ∈ db.processingJobs ∨
      (∀ old ∈ db.processingJobs, old.id ≠ job.id) ∧ job.asNew = new := by
  unfold JobRepository.enqueue at enqueued
  split at enqueued
  · cases enqueued
    exact Or.inl held
  · dsimp only at enqueued
    split at enqueued
    · cases enqueued
    · split at enqueued
      · rename_i jobs inserted
        cases enqueued
        rcases (Table.mem_insert? inserted).1 held with old | rfl
        · exact Or.inl old
        · exact Or.inr ⟨fun old there => Table.fresh_of_insert? inserted old there, rfl⟩
      · cases enqueued

theorem statement_progress (call : e.call? = some id)
    (next : step messageFingerprint window s e = some t) :
    ∃ persist ∈ s.opened, persist.id = id ∧ Progress s e persist t := by
  cases e with
  | tick now => exact absurd call (by simp [Event.call?])
  | begin id message => exact absurd call (by simp [Event.call?])
  | readChat id =>
      cases call
      simp only [step] at next
      split at next
      · rename_i found
        have held := Table.mem_of_get? found
        cases Table.key_of_get? found
        split at next
        · cases next
          exact ⟨_, held, rfl, .answered _ _ _ fun job there => Or.inl there⟩
        · rename_i active
          cases next
          refine ⟨_, held, rfl, .advanced _ fun chat named => Or.inr ⟨rfl, ?_⟩⟩
          cases named
          exact active
      · simp at next
  | startRegister id =>
      cases call
      simp only [step] at next
      split at next
      · rename_i found
        have held := Table.mem_of_get? found
        cases Table.key_of_get? found
        cases next
        exact ⟨_, held, rfl, .advanced _ fun chat named => Or.inl named⟩
      · simp at next
  | write id =>
      cases call
      simp only [step] at next
      split at next
      · rename_i found
        have held := Table.mem_of_get? found
        cases Table.key_of_get? found
        split at next
        · simp at next
        · cases next
          exact ⟨_, held, rfl, .advanced _ fun chat named => Or.inl named⟩
      · simp at next
  | enqueue id newId =>
      cases call
      simp only [step] at next
      split at next
      · rename_i found
        have held := Table.mem_of_get? found
        cases Table.key_of_get? found
        split at next
        · cases next
          exact ⟨_, held, rfl, .raised⟩
        · cases next
          exact ⟨_, held, rfl, .advanced _ fun chat named => Or.inl named⟩
      · simp at next
  | commit id =>
      cases call
      obtain ⟨persist, held, rfl, commit⟩ := step_commit next
      refine ⟨persist, held, rfl, ?_⟩
      cases commit with
      | suppressed chat prior phase =>
          exact .answered _ _ _ fun job there => Or.inl there
      | admitted chat prior newId jobId db created phase enqueued =>
          refine .answered _ _ _ fun job there => ?_
          refine (mem_of_enqueue enqueued there).imp_right fun own => ⟨chat, rfl, ?_, own⟩
          rw [phase]
          rfl
  | rollback id =>
      cases call
      simp only [step] at next
      split at next
      · rename_i found
        have held := Table.mem_of_get? found
        cases Table.key_of_get? found
        cases next
        exact ⟨_, held, rfl, .raised⟩
      · simp at next

end Ingestion

namespace Listener

variable {u : UnicodeData} {messageFingerprint : String → String} {window : Int}
  {s t : Listener} {id : Nat} {event : TelethonMessageEvent}

/-- The normalized message of an update from a chat. -/
def mapped (event : TelethonMessageEvent) (chatId : Int) : MappedMessage :=
  mapTelethonEvent event chatId (extractTopicId event.message)

/-- The handler lets an update of a listed chat through. -/
structure Admits (u : UnicodeData) (s : Listener) (event : TelethonMessageEvent) (chatId : Int) :
    Prop where
  from_chat : event.chatId = some chatId
  listed : chatId ∈ s.chatIds
  passed : (Prefilter.prefilterMessage u (mapped event chatId)).shouldClassify = true

/-- What the handler does with an update: nothing, or it counts the message as filtered, or it opens
a call for the mapped message. -/
inductive Received (u : UnicodeData) (s : Listener) (id : Nat) (event : TelethonMessageEvent) :
    Listener → Prop where
  | ignored : Received u s id event s
  | filtered (reason : FilterReasonCode) :
      Received u s id event { s with metrics := s.metrics ++ [.received, .filtered reason] }
  | opened (chatId : Int) (persist : Ingestion.Persist) (opened : Table Ingestion.Persist.id)
      (admits : Admits u s event chatId) (own : persist.id = id)
      (message : persist.message = (mapped event chatId).toIncomingMessage)
      (begun : persist.phase = .begun) (inserted : s.intake.opened.insert? persist = some opened) :
      Received u s id event { s with
        intake := { s.intake with opened := opened }, metrics := s.metrics ++ [.received] }

theorem receive_cases (next : receive u messageFingerprint window s id event = some t) :
    Received u s id event t := by
  unfold receive at next
  split at next
  · cases next
    exact .ignored
  · rename_i chatId from_chat
    split at next
    · cases next
      exact .ignored
    · rename_i listed
      dsimp only at next
      split at next
      · cases next
        exact .filtered _
      · rename_i passed
        obtain ⟨intake, moved, rfl⟩ := Option.map_eq_some_iff.1 next
        simp only [Ingestion.step] at moved
        split at moved
        · rename_i empty
          simp [empty] at passed
        · obtain ⟨opened, inserted, rfl⟩ := Option.map_eq_some_iff.1 moved
          rw [Bool.not_eq_true, Bool.or_eq_false_iff, Bool.not_eq_false'] at passed
          exact .opened chatId _ opened ⟨from_chat, not_not.1 listed, passed.1⟩ rfl rfl rfl inserted

end Listener

end LeadAssistant
