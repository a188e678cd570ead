/-
Module: LeadAssistant.Bot.DeliveredOnce
Layer: Bot
Purpose: What the attempts at one notification add up to. As long as nothing was accepted, a
  notification is retried, up to five times; the first attempt in which a part is accepted is the
  last one. Everything else may change between the iterations of the worker, except that a
  notification is only ever removed.
Trusted boundary: none
Main exports: DeliveryState, DeliveryEvent, Progress, DeliveredOnce, delivered_once
-/
import LeadAssistant.Bot.Delivery
import LeadAssistant.Bot.RenderedNotifications
import LeadAssistant.Library.Fallible
import LeadAssistant.Library.Transition

namespace LeadAssistant

open Relational Transition

/-- The database, and every attempt at a notification that was committed. -/
structure DeliveryState where
  db : Database
  attempts : List Attempt := []

/-- An iteration of the worker, or any change of the database by somebody else. -/
inductive DeliveryEvent where
  | iterate (locked : UUID → Bool) (bot : NotificationBot) (now : Time)
  | elsewhere (change : Database)

/-- The attempts at one notification. -/
def DeliveryState.attemptsAt (s : DeliveryState) (questionId : UUID) : List Attempt :=
  s.attempts.filter (fun attempt => attempt.questionId = questionId)

def DeliveryState.row? (s : DeliveryState) (questionId : UUID) : Option BotNotification :=
  s.db.botNotifications.get? questionId

namespace BotNotificationWorker

/-- One committed iteration with the default retry policy, or one change by somebody else. -/
def step (operatorUserId : Int) (s : DeliveryState) : DeliveryEvent → Option DeliveryState
  | .iterate locked bot now =>
      match runOnce {} operatorUserId locked bot now s.db with
      | .ok (attempt, db) => some ⟨db, s.attempts ++ attempt.toList⟩
      | .error _ => none
  | .elsewhere change => some { s with db := change }

/-- Nobody but the worker changes the row of this notification, except by removing it. -/
def Spares (questionId : UUID) (s : DeliveryState) : DeliveryEvent → Prop
  | .iterate _ _ _ => True
  | .elsewhere change =>
      change.botNotifications.get? questionId = s.row? questionId ∨
        change.botNotifications.get? questionId = none

end BotNotificationWorker

namespace Attempt

/-- The accepted parts. -/
def sent (attempt : Attempt) : List NotificationPart := attempt.accepted.map Prod.fst

/-- Every part was accepted. -/
def Complete (attempt : Attempt) : Prop := attempt.parts = some attempt.sent

/-- Some part was accepted, but not every one. -/
def Partial (attempt : Attempt) : Prop := attempt.accepted ≠ [] ∧ ¬ attempt.Complete

/-- The parts are a rendering of the question that the attempt is about. -/
def Renders (attempt : Attempt) (parts : List NotificationPart) : Prop :=
  ∃ content : NotificationContent, content.questionId = attempt.questionId ∧
    parts = renderNotification content

/-- The accepted parts are a prefix of the rendered ones. -/
def Lawful (attempt : Attempt) : Prop :=
  match attempt.parts with
  | none => attempt.accepted = []
  | some parts => attempt.Renders parts ∧ attempt.sent <+: parts

end Attempt

/-- The state of a notification after these attempts at it. -/
inductive Progress (row : BotNotification) : List Attempt → Prop where
  | waiting {attempts : List Attempt} (status : row.status = "pending" ∨ row.status = "retry")
      (counted : row.attemptCount = attempts.length) (few : attempts.length ≤ 4)
      (nothing : ∀ attempt ∈ attempts, attempt.accepted = []) : Progress row attempts
  | sent {earlier : List Attempt} {last : Attempt} (status : row.status = "sent")
      (nothing : ∀ attempt ∈ earlier, attempt.accepted = []) (complete : last.Complete)
      (messageId : row.botMessageId = last.accepted.getLast?.map Prod.snd) :
      Progress row (earlier ++ [last])
  | failed {earlier : List Attempt} {last : Attempt} (status : row.status = "failed")
      (nothing : ∀ attempt ∈ earlier, attempt.accepted = [])
      (stopped : last.Partial ∨ (last.accepted = [] ∧ earlier.length = 4)) :
      Progress row (earlier ++ [last])

/-- What the attempts at a notification and its row have to do with each other. -/
structure DeliveredOnce (operatorUserId : Int) (questionId : UUID) (s : DeliveryState) : Prop where
  /-- All accepted parts together are a prefix of the parts of one attempt. -/
  onePrefix : (s.attemptsAt questionId).flatMap Attempt.sent ≠ [] →
    ∃ attempt ∈ s.attemptsAt questionId, ∃ parts, attempt.parts = some parts ∧
      attempt.Renders parts ∧ (s.attemptsAt questionId).flatMap Attempt.sent <+: parts
  sent : ∀ row, s.row? questionId = some row →
    (row.status = "sent" ↔ ∃ attempt ∈ s.attemptsAt questionId, attempt.Complete)
  messageId : ∀ row, s.row? questionId = some row → row.status = "sent" →
    ∃ attempt ∈ s.attemptsAt questionId, attempt.Complete ∧
      ∃ last, attempt.accepted.getLast? = some last ∧ row.botMessageId = some last.2
  failed : ∀ row, s.row? questionId = some row →
    (row.status = "failed" ↔ (∃ attempt ∈ s.attemptsAt questionId, attempt.Partial) ∨
      ((s.attemptsAt questionId).length = 5 ∧
        ∀ attempt ∈ s.attemptsAt questionId, attempt.accepted = []))
  final : ∀ row, s.row? questionId = some row → (row.status = "sent" ∨ row.status = "failed") →
    ∀ events t, Run (BotNotificationWorker.step operatorUserId)
        (BotNotificationWorker.Spares questionId) s events t →
      t.attemptsAt questionId = s.attemptsAt questionId ∧
        (t.row? questionId = some row ∨ t.row? questionId = none)

namespace BotNotificationWorker

variable {bot : NotificationBot} {chatId operatorUserId : Int} {parts : List NotificationPart}
  {s s' : Sending} {raised : Option String} {notification settled : BotNotification}
  {db committed : Database} {outcome : Except String Int} {locked : UUID → Bool} {now : Time}

/-! ### One attempt -/

/-- What the loop counts. -/
structure Counted (s : Sending) : Prop where
  count : s.sentPartCount = s.accepted.length
  final : s.finalMessageId = s.accepted.getLast?.map Prod.snd

/-- The loop accepts the parts in order, up to the one that raises. -/
theorem sendParts_spec (counted : Counted s) (ran : sendParts bot chatId parts s = (s', raised)) :
    Counted s' ∧ ∃ done rest, parts = done ++ rest ∧
      s'.accepted.map Prod.fst = s.accepted.map Prod.fst ++ done ∧ (raised = none ↔ rest = []) := by
  induction parts generalizing s with
  | nil =>
    cases ran
    exact ⟨counted, [], [], rfl, (List.append_nil _).symm, Iff.rfl.trans (by simp)⟩
  | cons part parts ih =>
    unfold sendParts at ran
    split at ran
    case h_1 name _ =>
      cases ran
      exact ⟨counted, [], part :: parts, rfl, (List.append_nil _).symm, by simp⟩
    case h_2 messageId _ =>
      have counted' : Counted
          { finalMessageId := some messageId
            sentPartCount := s.sentPartCount + 1
            accepted := s.accepted ++ [(part, messageId)] } := by
        refine ⟨?_, ?_⟩
        · simp [counted.count]
        · simp
      obtain ⟨after, done, rest, split, sent, whole⟩ := ih counted' ran
      refine ⟨after, part :: done, rest, by rw [split, List.cons_append], ?_, whole⟩
      rw [sent]
      simp

theorem buildContent_questionId {content : NotificationContent}
    (built : buildContent notification db = .ok content) :
    content.questionId = notification.questionId := by
  unfold buildContent at built
  split at built
  case h_1 => cases built
  case h_2 question found =>
    have same : question.id = notification.questionId := Table.key_of_get? found
    cases built
    exact same

/-- What the `try` block leaves, by its outcome. -/
structure Delivers (attempt : Attempt) (sentPartCount : Nat) (outcome : Except String Int) :
    Prop where
  lawful : attempt.Lawful
  count : sentPartCount = attempt.accepted.length
  ok : ∀ messageId, outcome = .ok messageId →
    attempt.Complete ∧ attempt.accepted.getLast?.map Prod.snd = some messageId
  error : ∀ name, outcome = .error name → ¬ attempt.Complete

theorem deliver_spec {rendered : Option (List NotificationPart)}
    (ran : deliver bot notification db = (rendered, s, outcome)) :
    Delivers ⟨notification.questionId, rendered, s.accepted⟩ s.sentPartCount outcome := by
  unfold deliver at ran
  split at ran
  case h_1 name _ =>
    cases ran
    refine ⟨rfl, rfl, ?_, ?_⟩
    · intro messageId own
      cases own
    · intro name _ complete
      cases complete
  case h_2 content built =>
    have some_part := renderNotification_ne_nil content
    have start : Counted {} := ⟨rfl, rfl⟩
    dsimp only at ran
    obtain ⟨s', raised, sending⟩ : ∃ s' raised,
        sendParts bot notification.botChatId (renderNotification content) {} = (s', raised) :=
      ⟨_, _, rfl⟩
    rw [sending] at ran
    obtain ⟨counted, done, rest, split, sent, whole⟩ := sendParts_spec start sending
    rw [List.map_nil, List.nil_append] at sent
    have lawful : Attempt.Lawful
        ⟨notification.questionId, some (renderNotification content), s'.accepted⟩ := by
      refine ⟨⟨content, buildContent_questionId built, rfl⟩, ?_⟩
      rw [Attempt.sent, sent, split]
      exact List.prefix_append done rest
    dsimp only at ran
    split at ran
    case h_1 name =>
      cases ran
      refine ⟨lawful, counted.count, ?_, ?_⟩
      · intro messageId own
        cases own
      · intro name _ complete
        have same := Option.some.inj complete
        rw [Attempt.sent, sent, split, List.append_right_eq_self] at same
        cases whole.mpr same
    case h_2 none_sent =>
      cases ran
      refine ⟨lawful, counted.count, ?_, ?_⟩
      · intro messageId own
        cases own
      · intro name _ complete
        have same := Option.some.inj complete
        rw [counted.final, Option.map_eq_none_iff, List.getLast?_eq_none_iff] at none_sent
        rw [Attempt.sent, none_sent] at same
        exact some_part same
    case h_3 finalMessageId final =>
      cases ran
      refine ⟨lawful, counted.count, ?_, ?_⟩
      · intro messageId own
        cases own
        refine ⟨?_, counted.final.symm.trans final⟩
        rw [Attempt.Complete, Attempt.sent, sent, split, whole.mp rfl, List.append_nil]
      · intro name own
        cases own

/-- The default policy has four delays. -/
theorem exhausted_iff {attemptCount : Nat} {delay : Option Int}
    (is_delay : RetryPolicy.delayAfterAttempt {} (attemptCount + 1) = .ok delay) :
    delay = none ↔ 4 ≤ attemptCount := by
  have four : ({} : RetryPolicy).delaysSeconds.length = 4 := rfl
  unfold RetryPolicy.delayAfterAttempt at is_delay
  rw [if_neg (by omega), Nat.add_sub_cancel] at is_delay
  rw [← Except.ok.inj is_delay, Option.map_eq_none_iff, ← four, ← List.getElem?_eq_none_iff]
  cases ({} : RetryPolicy).delaysSeconds[attemptCount]? with
  | none => exact iff_of_true rfl rfl
  | some seconds => exact iff_of_false (Option.some_ne_none _) (Option.some_ne_none _)

/-- What the outcome of an attempt makes of the row that was claimed. -/
inductive Settles (row : BotNotification) (attempt : Attempt) (settled : BotNotification) :
    Prop where
  | sent (status : settled.status = "sent") (complete : attempt.Complete)
      (messageId : settled.botMessageId = attempt.accepted.getLast?.map Prod.snd)
  | failed (status : settled.status = "failed")
      (stopped : attempt.Partial ∨ (attempt.accepted = [] ∧ 4 ≤ row.attemptCount))
  | retry (status : settled.status = "retry") (nothing : attempt.accepted = [])
      (few : row.attemptCount < 4) (counted : settled.attemptCount = row.attemptCount + 1)

theorem settle_spec {row : BotNotification} {attempt : Attempt} {count : Nat}
    (delivers : Delivers attempt count outcome)
    (ran : settle {} now (BotNotificationRepository.claimed row) count outcome = .ok settled) :
    Settles row attempt settled ∧ settled.questionId = row.questionId := by
  cases outcome with
  | ok messageId =>
    cases ran
    obtain ⟨complete, final⟩ := delivers.ok messageId rfl
    exact ⟨.sent rfl complete final.symm, rfl⟩
  | error name =>
    have incomplete := delivers.error name rfl
    have nothing_iff : 0 < count ↔ attempt.accepted ≠ [] := by
      rw [delivers.count, List.length_pos_iff]
    unfold settle at ran
    obtain ⟨delay, is_delay, ran⟩ := Except.bind_eq_ok_iff.mp ran
    have exhausted_iff := exhausted_iff is_delay
    split at ran
    case h_1 =>
      cases ran
      refine ⟨.failed rfl ?_, rfl⟩
      by_cases nothing : attempt.accepted = []
      · exact .inr ⟨nothing, exhausted_iff.mp rfl⟩
      · exact .inl ⟨nothing, incomplete⟩
    case h_2 delay =>
      have few : ¬ 4 ≤ row.attemptCount := fun many => by cases exhausted_iff.mpr many
      split at ran
      case isTrue some_sent =>
        cases ran
        exact ⟨.failed rfl (.inl ⟨nothing_iff.mp some_sent, incomplete⟩), rfl⟩
      case isFalse none_sent =>
        cases ran
        exact ⟨.retry rfl (not_not.mp (nothing_iff.not.mp none_sent)) (Nat.not_le.mp few) rfl, rfl⟩

theorem claim_spec (taken : BotNotificationRepository.claim operatorUserId locked now db =
      some notification) :
    ∃ row ∈ db.botNotifications, (row.status = "pending" ∨ row.status = "retry") ∧
      notification = BotNotificationRepository.claimed row := by
  unfold BotNotificationRepository.claim at taken
  obtain ⟨row, first, rfl⟩ := Option.map_eq_some_iff.mp taken
  obtain ⟨held, chosen⟩ := Table.mem_of_firstBy first
  refine ⟨row, held, ?_, rfl⟩
  unfold BotNotificationRepository.claimable at chosen
  simp only [Bool.and_eq_true, Bool.or_eq_true, decide_eq_true_eq] at chosen
  exact chosen.1.1.1.1

theorem flush_spec (flushed : BotNotificationRepository.flush notification db = .ok committed) :
    committed = db.setBotNotifications (db.botNotifications.put notification) := by
  unfold BotNotificationRepository.flush at flushed
  split at flushed
  · cases flushed
  · exact (Except.ok.inj flushed).symm

/-- What a committed iteration has done: nothing, or one attempt at one waiting notification. -/
inductive Iterated (db : Database) : Option Attempt → Database → Prop where
  | idle : Iterated db none db
  | attempted {row settled : BotNotification} {attempt : Attempt} {committed : Database}
      (held : db.botNotifications.get? row.questionId = some row)
      (status : row.status = "pending" ∨ row.status = "retry")
      (questionId : attempt.questionId = row.questionId) (lawful : attempt.Lawful)
      (settles : Settles row attempt settled)
      (written : ∀ questionId, committed.botNotifications.get? questionId =
        if questionId = row.questionId then some settled
        else db.botNotifications.get? questionId) :
      Iterated db (some attempt) committed

theorem runOnce_spec {attempt : Option Attempt}
    (ran : runOnce {} operatorUserId locked bot now db = .ok (attempt, committed)) :
    Iterated db attempt committed := by
  unfold runOnce at ran
  split at ran
  case h_1 =>
    cases ran
    exact .idle
  case h_2 notification taken =>
    obtain ⟨row, held, status, rfl⟩ := claim_spec taken
    obtain ⟨flushed, first_flush, ran⟩ := Except.bind_eq_ok_iff.mp ran
    obtain ⟨parts, s, outcome, delivered⟩ : ∃ parts s outcome,
        deliver bot (BotNotificationRepository.claimed row) flushed = (parts, s, outcome) :=
      ⟨_, _, _, rfl⟩
    rw [delivered] at ran
    obtain ⟨settled, is_settled, ran⟩ := Except.bind_eq_ok_iff.mp ran
    obtain ⟨committed', last_flush, ran⟩ := Except.bind_eq_ok_iff.mp ran
    cases ran
    have delivers := deliver_spec delivered
    obtain ⟨settles, same⟩ := settle_spec delivers is_settled
    have found := Table.get?_of_mem held
    refine .attempted found status rfl delivers.lawful settles ?_
    intro questionId
    have first_row (questionId : UUID) : flushed.botNotifications.get? questionId =
        if questionId = row.questionId then some (BotNotificationRepository.claimed row)
        else db.botNotifications.get? questionId := by
      rw [flush_spec first_flush]
      exact Table.get?_put (Option.isSome_iff_exists.mpr ⟨row, found⟩)
    have taken_row : (flushed.botNotifications.get? settled.questionId).isSome := by
      rw [first_row, if_pos same]
      rfl
    rw [flush_spec last_flush]
    refine (Table.get?_put taken_row).trans ?_
    rw [same, first_row]
    split <;> rfl

end BotNotificationWorker

/-! ### All attempts -/

section Attempts

variable {row settled : BotNotification} {attempts earlier : List Attempt} {attempt last : Attempt}

theorem Attempt.Lawful.some_accepted (lawful : attempt.Lawful) (complete : attempt.Complete) :
    attempt.accepted ≠ [] := by
  intro none_accepted
  unfold Attempt.Lawful at lawful
  rw [complete] at lawful
  obtain ⟨content, -, rendered⟩ := lawful.1
  rw [Attempt.sent, none_accepted, List.map_nil] at rendered
  exact renderNotification_ne_nil content rendered.symm

/-- A waiting notification is in progress in one way only. -/
theorem Progress.of_waiting (progress : Progress row attempts)
    (status : row.status = "pending" ∨ row.status = "retry") :
    row.attemptCount = attempts.length ∧ attempts.length ≤ 4 ∧
      ∀ attempt ∈ attempts, attempt.accepted = [] := by
  cases progress with
  | waiting _ counted few nothing => exact ⟨counted, few, nothing⟩
  | sent final =>
    rw [final] at status
    rcases status with pending | retry
    · exact absurd pending (by decide)
    · exact absurd retry (by decide)
  | failed final =>
    rw [final] at status
    rcases status with pending | retry
    · exact absurd pending (by decide)
    · exact absurd retry (by decide)

/-- One more attempt at a waiting notification. -/
theorem Progress.snoc (progress : Progress row attempts)
    (status : row.status = "pending" ∨ row.status = "retry")
    (settles : BotNotificationWorker.Settles row attempt settled) :
    Progress settled (attempts ++ [attempt]) := by
  obtain ⟨counted, few, nothing⟩ := progress.of_waiting status
  cases settles with
  | sent final complete messageId => exact .sent final nothing complete messageId
  | failed final stopped =>
    refine .failed final nothing ?_
    rcases stopped with some_sent | ⟨none_sent, exhausted⟩
    · exact .inl some_sent
    · exact .inr ⟨none_sent, by omega⟩
  | retry again none_sent few_attempts count =>
    refine .waiting (.inr again) ?_ ?_ ?_
    · rw [List.length_append, List.length_singleton, count, counted]
    · rw [List.length_append, List.length_singleton]
      omega
    · intro other held
      rcases List.mem_append.mp held with before | is_last
      · exact nothing other before
      · rw [List.mem_singleton.mp is_last]
        exact none_sent

/-- Attempts in which nothing was accepted sent nothing. -/
theorem flatMap_sent_of_nothing (nothing : ∀ attempt ∈ attempts, attempt.accepted = []) :
    attempts.flatMap Attempt.sent = [] := by
  apply List.flatMap_eq_nil_iff.mpr
  intro attempt held
  rw [Attempt.sent, nothing attempt held, List.map_nil]

theorem sent_append_last (nothing : ∀ attempt ∈ earlier, attempt.accepted = []) :
    (earlier ++ [last]).flatMap Attempt.sent = last.sent := by
  rw [List.flatMap_append, flatMap_sent_of_nothing nothing, List.nil_append, List.flatMap_singleton]

theorem prefix_last (lawful : last.Lawful) (some_sent : last.sent ≠ []) :
    ∃ parts, last.parts = some parts ∧ last.Renders parts ∧ last.sent <+: parts := by
  unfold Attempt.Lawful at lawful
  split at lawful
  case h_1 =>
    rw [Attempt.sent, lawful] at some_sent
    exact absurd rfl some_sent
  case h_2 parts is_parts => exact ⟨parts, is_parts, lawful⟩

/-- All accepted parts are those of one attempt. -/
theorem Progress.onePrefix (progress : Progress row attempts)
    (lawful : ∀ attempt ∈ attempts, attempt.Lawful)
    (some_sent : attempts.flatMap Attempt.sent ≠ []) :
    ∃ attempt ∈ attempts, ∃ parts, attempt.parts = some parts ∧
      attempt.Renders parts ∧ attempts.flatMap Attempt.sent <+: parts := by
  cases progress with
  | waiting _ _ _ nothing => exact absurd (flatMap_sent_of_nothing nothing) some_sent
  | @sent earlier last _ nothing =>
    rw [sent_append_last nothing] at some_sent ⊢
    exact ⟨last, by simp, prefix_last (lawful last (by simp)) some_sent⟩
  | @failed earlier last _ nothing =>
    rw [sent_append_last nothing] at some_sent ⊢
    exact ⟨last, by simp, prefix_last (lawful last (by simp)) some_sent⟩

/-- A waiting notification is neither sent nor failed. -/
theorem not_settled_of_waiting (status : row.status = "pending" ∨ row.status = "retry") :
    row.status ≠ "sent" ∧ row.status ≠ "failed" := by
  rcases status with pending | retry
  · rw [pending]
    decide
  · rw [retry]
    decide

theorem Progress.sent_iff (progress : Progress row attempts)
    (lawful : ∀ attempt ∈ attempts, attempt.Lawful) :
    row.status = "sent" ↔ ∃ attempt ∈ attempts, attempt.Complete := by
  cases progress with
  | waiting status _ _ nothing =>
    refine iff_of_false (not_settled_of_waiting status).1 ?_
    rintro ⟨attempt, held, complete⟩
    exact (lawful attempt held).some_accepted complete (nothing attempt held)
  | @sent earlier last status _ complete => exact iff_of_true status ⟨last, by simp, complete⟩
  | @failed earlier last status nothing stopped =>
    refine iff_of_false (by rw [status]; decide) ?_
    rintro ⟨attempt, held, complete⟩
    have some_accepted := (lawful attempt held).some_accepted complete
    rcases List.mem_append.mp held with before | is_last
    · exact some_accepted (nothing attempt before)
    · obtain rfl := List.mem_singleton.mp is_last
      rcases stopped with some_sent | none_sent
      · exact some_sent.2 complete
      · exact some_accepted none_sent.1

/-- A notification that was sent has the id of its last part. -/
theorem Progress.messageId (progress : Progress row attempts)
    (lawful : ∀ attempt ∈ attempts, attempt.Lawful) (is_sent : row.status = "sent") :
    ∃ attempt ∈ attempts, attempt.Complete ∧
      ∃ last, attempt.accepted.getLast? = some last ∧ row.botMessageId = some last.2 := by
  cases progress with
  | waiting status => exact absurd is_sent (not_settled_of_waiting status).1
  | @sent earlier last _ _ complete messageId =>
    refine ⟨last, by simp, complete, ?_⟩
    have some_accepted := (lawful last (by simp)).some_accepted complete
    rw [messageId, List.getLast?_eq_getLast_of_ne_nil some_accepted]
    exact ⟨_, rfl, rfl⟩
  | failed status =>
    rw [status] at is_sent
    exact absurd is_sent (by decide)

theorem Progress.failed_iff (progress : Progress row attempts)
    (lawful : ∀ attempt ∈ attempts, attempt.Lawful) :
    row.status = "failed" ↔ (∃ attempt ∈ attempts, attempt.Partial) ∨
      (attempts.length = 5 ∧ ∀ attempt ∈ attempts, attempt.accepted = []) := by
  cases progress with
  | waiting status _ few nothing =>
    refine iff_of_false (not_settled_of_waiting status).2 ?_
    rintro (⟨attempt, held, some_sent⟩ | ⟨five, -⟩)
    · exact some_sent.1 (nothing attempt held)
    · omega
  | @sent earlier last status nothing complete =>
    refine iff_of_false (by rw [status]; decide) ?_
    have some_accepted := (lawful last (by simp)).some_accepted complete
    rintro (⟨attempt, held, some_sent⟩ | ⟨-, none_sent⟩)
    · rcases List.mem_append.mp held with before | is_last
      · exact some_sent.1 (nothing attempt before)
      · obtain rfl := List.mem_singleton.mp is_last
        exact some_sent.2 complete
    · exact some_accepted (none_sent last (by simp))
  | @failed earlier last status nothing stopped =>
    refine iff_of_true status ?_
    rcases stopped with some_sent | ⟨none_sent, four⟩
    · exact .inl ⟨last, by simp, some_sent⟩
    · refine .inr ⟨by rw [List.length_append, List.length_singleton, four], ?_⟩
      intro attempt held
      rcases List.mem_append.mp held with before | is_last
      · exact nothing attempt before
      · rw [List.mem_singleton.mp is_last]
        exact none_sent

end Attempts

namespace BotNotificationWorker

/-! ### Runs -/

section Runs

variable {operatorUserId : Int} {questionId : UUID} {s s' t : DeliveryState} {e : DeliveryEvent}
  {events : List DeliveryEvent}

/-- What every run keeps: the attempts at a notification are lawful, and its row, as long as it is
there, has made the progress of these attempts. -/
structure Tracks (questionId : UUID) (s : DeliveryState) : Prop where
  lawful : ∀ attempt ∈ s.attemptsAt questionId, attempt.Lawful
  progress : ∃ row, Progress row (s.attemptsAt questionId) ∧
    (s.row? questionId = some row ∨ s.row? questionId = none)

/-- What a step does for one notification: nothing, an attempt at it, or its removal. -/
theorem step_cases (spares : Spares questionId s e) (next : step operatorUserId s e = some s') :
    (s'.attemptsAt questionId = s.attemptsAt questionId ∧
        (s'.row? questionId = s.row? questionId ∨ s'.row? questionId = none)) ∨
      ∃ row attempt settled, s.row? questionId = some row ∧
        (row.status = "pending" ∨ row.status = "retry") ∧ attempt.Lawful ∧
        Settles row attempt settled ∧
        s'.attemptsAt questionId = s.attemptsAt questionId ++ [attempt] ∧
        s'.row? questionId = some settled := by
  cases e with
  | elsewhere change =>
    cases next
    exact .inl ⟨rfl, spares⟩
  | iterate locked bot now =>
    simp only [step] at next
    split at next
    case h_2 => cases next
    case h_1 attempt db ran =>
      cases next
      cases runOnce_spec ran with
      | idle =>
        refine .inl ⟨?_, .inl rfl⟩
        simp [DeliveryState.attemptsAt]
      | @attempted row settled attempt _ held status same lawful settles written =>
        by_cases own : questionId = row.questionId
        · subst own
          refine .inr ⟨row, attempt, settled, held, status, lawful, settles, ?_, ?_⟩
          · simp [DeliveryState.attemptsAt, List.filter_append, same]
          · exact (written row.questionId).trans (if_pos rfl)
        · refine .inl ⟨?_, .inl ((written questionId).trans (if_neg own))⟩
          have other : attempt.questionId ≠ questionId :=
            fun is_own => own (is_own.symm.trans same)
          simp [DeliveryState.attemptsAt, List.filter_append, other]

theorem Tracks.next (tracks : Tracks questionId s) (spares : Spares questionId s e)
    (next : step operatorUserId s e = some s') : Tracks questionId s' := by
  obtain ⟨row, progress, there⟩ := tracks.progress
  rcases step_cases spares next with
    ⟨same, kept⟩ | ⟨taken, attempt, settled, found, status, lawful, settles, more, left⟩
  · refine ⟨?_, row, ?_, ?_⟩
    · rw [same]
      exact tracks.lawful
    · rw [same]
      exact progress
    · rcases kept with as_before | gone
      · rw [as_before]
        exact there
      · exact .inr gone
  · rw [found] at there
    obtain rfl : taken = row := by simpa using there
    refine ⟨?_, settled, ?_, .inl left⟩
    · intro other held
      rw [more] at held
      rcases List.mem_append.mp held with before | is_last
      · exact tracks.lawful other before
      · rw [List.mem_singleton.mp is_last]
        exact lawful
    · rw [more]
      exact progress.snoc status settles

theorem Tracks.run (run : Run (step operatorUserId) (Spares questionId) s events t)
    (start : Tracks questionId s) : Tracks questionId t :=
  run.invariant start fun _ _ _ tracks spares next => tracks.next spares next

/-- No more attempts were made than these, and the row is as it was, or gone. -/
def LeftAlone (questionId : UUID) (attempts : List Attempt) (row : BotNotification)
    (s : DeliveryState) : Prop :=
  s.attemptsAt questionId = attempts ∧
    (s.row? questionId = some row ∨ s.row? questionId = none)

theorem LeftAlone.next {attempts : List Attempt} {row : BotNotification}
    (alone : LeftAlone questionId attempts row s)
    (settled : row.status = "sent" ∨ row.status = "failed") (spares : Spares questionId s e)
    (next : step operatorUserId s e = some s') : LeftAlone questionId attempts row s' := by
  obtain ⟨same, there⟩ := alone
  rcases step_cases spares next with ⟨same', kept⟩ | ⟨taken, _, _, found, status, _⟩
  · refine ⟨same'.trans same, ?_⟩
    rcases kept with as_before | gone
    · rw [as_before]
      exact there
    · exact .inr gone
  · rw [found] at there
    obtain rfl : taken = row := by simpa using there
    exact absurd settled (not_or.mpr (not_settled_of_waiting status))

/-- A settled notification is never claimed again. -/
theorem LeftAlone.run (run : Run (step operatorUserId) (Spares questionId) s events t)
    {row : BotNotification} (found : s.row? questionId = some row)
    (settled : row.status = "sent" ∨ row.status = "failed") :
    LeftAlone questionId (s.attemptsAt questionId) row t := by
  have start : LeftAlone questionId (s.attemptsAt questionId) row s := ⟨rfl, .inl found⟩
  exact run.invariant start fun _ _ _ alone spares next => alone.next settled spares next

theorem Tracks.deliveredOnce (tracks : Tracks questionId s) :
    DeliveredOnce operatorUserId questionId s := by
  obtain ⟨progressed, progress, there⟩ := tracks.progress
  have same {row : BotNotification} (found : s.row? questionId = some row) : row = progressed := by
    rw [found] at there
    simpa using there
  refine ⟨progress.onePrefix tracks.lawful, ?_, ?_, ?_, ?_⟩
  · intro row found
    rw [same found]
    exact progress.sent_iff tracks.lawful
  · intro row found is_sent
    rw [same found] at is_sent ⊢
    exact progress.messageId tracks.lawful is_sent
  · intro row found
    rw [same found]
    exact progress.failed_iff tracks.lawful
  · intro row found settled events t run
    exact LeftAlone.run run found settled

/-- The attempts at a new notification deliver it at most once, whatever Telegram answers. -/
theorem delivered_once {db : Database} {owner : Int} {createdAt : Time}
    (fresh : db.botNotifications.get? questionId =
      some (RelevantQuestionPersistenceService.newNotification questionId owner createdAt))
    (run : Run (step operatorUserId) (Spares questionId) { db := db } events t) :
    DeliveredOnce operatorUserId questionId t := by
  have start : Tracks questionId { db := db } :=
    ⟨fun _ held => absurd held List.not_mem_nil, _,
      .waiting (.inl rfl) rfl (Nat.zero_le 4) (fun _ held => absurd held List.not_mem_nil),
      .inl fresh⟩
  exact (start.run run).deliveredOnce

/-! ### A concrete run -/

instance : DecidablePred (Spares questionId s) := fun e =>
  match e with
  | .iterate _ _ _ => isTrue trivial
  | .elsewhere _ => inferInstanceAs (Decidable (_ ∨ _))

/-- One new question with its notification. -/
def sampleDatabase : Database where
  detectedQuestions := ⟨[
    { id := 1, monitoredChatId := none, telegramChatId := -1001, telegramMessageId := 7,
      topicId := none, topicTitle := none, authorTelegramId := none, authorDisplayName := none,
      telegramCreatedAt := 0, originalText := "How?", translatedText := none,
      sourceLanguage := none, category := .technical, confidence := 1, status := .detected,
      detectedAt := 0, expiresAt := days 60 }], by decide⟩
  botNotifications := ⟨[RelevantQuestionPersistenceService.newNotification 1 5 0], by decide⟩

/-- The first call raises, and every later one is answered. -/
def sampleEvents : List DeliveryEvent :=
  [.iterate (fun _ => false) ⟨fun _ _ _ => .error "TelegramNetworkError"⟩ 0,
    .iterate (fun _ => false) ⟨fun _ _ _ => .ok 77⟩ (seconds 15)]

theorem sample_run : ∃ t, Run (step 5) (Spares 1) { db := sampleDatabase } sampleEvents t ∧
    ((t.attemptsAt 1).map (fun attempt => attempt.accepted.map Prod.snd),
      (t.row? 1).map (fun row => (row.status, row.botMessageId))) =
        ([[], [77]], some ("sent", some 77)) :=
  Run.exists_of_exec (by rfl)

/-- The second attempt at the sample notification is accepted, and is the last one. -/
theorem delivered_once_sample : ∃ t,
    ((t.attemptsAt 1).map (fun attempt => attempt.accepted.map Prod.snd),
      (t.row? 1).map (fun row => (row.status, row.botMessageId))) =
        ([[], [77]], some ("sent", some 77)) ∧ DeliveredOnce 5 1 t := by
  obtain ⟨t, run, values⟩ := sample_run
  exact ⟨t, values, delivered_once (by rfl) run⟩

end Runs

end BotNotificationWorker

end LeadAssistant
