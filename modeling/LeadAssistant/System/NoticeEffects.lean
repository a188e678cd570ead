/-
Module: LeadAssistant.System.NoticeEffects
Layer: System
Purpose: What an iteration of the notification worker sends and writes, said once. What Telegram
  accepts is more than the worker records: the answer of a call may be lost, and an iteration may end
  without its commit. Whatever is accepted renders the question of the claimed row, as the database
  holds it; a commit writes that row alone, with the time of the delivery if every call was answered.
Trusted boundary: human-reviewed spec
Main exports: BotApi, NoticeEnd, BotNotificationWorker.attempted, BotNotificationWorker.Notifies,
  BotNotificationWorker.runOnce_notifies, BotNotificationWorker.attempted_of_runOnce
-/
import LeadAssistant.Bot.DeliveredOnce

namespace LeadAssistant

open Relational

/-- The Bot API with what Telegram does behind it: a call that raises may have been accepted all the
same, as the message of this id, if its answer is lost or names no message. -/
structure BotApi extends NotificationBot where
  unanswered : Nat → Option Int := fun _ => none

/-- How an iteration of the notification worker ends: it commits, or it is lost after some calls,
because the process dies, the task is cancelled or the transaction fails. -/
inductive NoticeEnd where
  | committed
  | lost (calls : Nat)

namespace BotNotificationWorker

/-- What Telegram has accepted of the parts, from the `n`th call on, when so many calls were made. -/
def reached (api : BotApi) (chatId : Int) (calls : Nat) :
    List NotificationPart → Nat → List (NotificationPart × Int)
  | [], _ => []
  | part :: parts, n =>
      if n < calls then
        match api.sendMessage n chatId part with
        | .ok messageId => (part, messageId) :: reached api chatId calls parts (n + 1)
        | .error _ => ((api.unanswered n).map (fun messageId => (part, messageId))).toList
      else []

/-- The calls that an iteration makes, if none raises. -/
def NoticeEnd.calls (parts : List NotificationPart) : NoticeEnd → Nat
  | .committed => parts.length
  | .lost calls => calls

/-- What an iteration does with the notification it claims, as Telegram has it, whether or not it
commits. -/
def attempted (operatorUserId : Int) (locked : UUID → Bool) (api : BotApi) (ended : NoticeEnd)
    (now : Time) (db : Database) : Option Attempt :=
  match BotNotificationRepository.claim operatorUserId locked now db with
  | none => none
  | some notification =>
      match BotNotificationRepository.flush notification db with
      | .error _ => none
      | .ok flushed =>
          match buildContent notification flushed with
          | .error _ => some ⟨notification.questionId, none, []⟩
          | .ok content =>
              let parts := renderNotification content
              some ⟨notification.questionId, some parts,
                reached api notification.botChatId (NoticeEnd.calls parts ended) parts 0⟩

/-- What a committed iteration has sent and written. -/
inductive Notifies (now : Time) (db : Database) : Option Attempt → Database → Prop where
  | idle : Notifies now db none db
  | attempted {row settled : BotNotification} {attempt : Attempt}
      {notifications : Table BotNotification.questionId}
      (held : row ∈ db.botNotifications) (own : attempt.questionId = row.questionId)
      (rendered : ∀ parts, attempt.parts = some parts → ∃ content,
        buildContent row db = .ok content ∧ parts = renderNotification content)
      (lawful : attempt.Lawful)
      (stamped : attempt.Complete → settled.sentAt = some now)
      (unstamped : ¬ attempt.Complete → settled.sentAt = row.sentAt)
      (written : ∀ questionId, notifications.get? questionId =
        if questionId = row.questionId then some settled else db.botNotifications.get? questionId) :
      Notifies now db (some attempt) (db.setBotNotifications notifications)

section Iterations

variable {bot : NotificationBot} {api : BotApi} {notification : BotNotification}
  {db committed : Database} {operatorUserId chatId : Int} {locked : UUID → Bool} {now : Time}
  {attempt : Option Attempt} {ended : NoticeEnd}

/-- What the `try` block does: it fails to read the question, or it sends the parts in turn. -/
theorem deliver_cases {rendered : Option (List NotificationPart)} {s : Sending}
    {outcome : Except String Int} (ran : deliver bot notification db = (rendered, s, outcome)) :
    (∃ name, buildContent notification db = .error name ∧ rendered = none ∧ s = {}) ∨
      ∃ content raised, buildContent notification db = .ok content ∧
        rendered = some (renderNotification content) ∧
        sendParts bot notification.botChatId (renderNotification content) {} = (s, raised) ∧
        ∀ name, raised = some name → outcome = .error name := by
  unfold deliver at ran
  split at ran
  · rename_i name built
    cases ran
    exact Or.inl ⟨name, built, rfl, rfl⟩
  · rename_i content built
    obtain ⟨s', raised, sending⟩ : ∃ s' raised, sendParts bot notification.botChatId
        (renderNotification content) {} = (s', raised) := ⟨_, _, rfl⟩
    dsimp only at ran
    rw [sending] at ran
    have same : rendered = some (renderNotification content) ∧ s = s' ∧
        ∀ name, raised = some name → outcome = .error name := by
      dsimp only at ran
      split at ran <;> cases ran <;> simp
    obtain ⟨shown, rfl, raises⟩ := same
    exact Or.inr ⟨content, raised, built, shown, sending, raises⟩

theorem deliver_rendered {rendered : Option (List NotificationPart)} {s : Sending}
    {outcome : Except String Int} (ran : deliver bot notification db = (rendered, s, outcome))
    {parts : List NotificationPart} (some_parts : rendered = some parts) :
    ∃ content, buildContent notification db = .ok content ∧ parts = renderNotification content := by
  rcases deliver_cases ran with ⟨name, -, none_rendered, -⟩ | ⟨content, -, built, shown, -⟩
  · cases none_rendered.symm.trans some_parts
  · exact ⟨content, built, Option.some.inj (some_parts.symm.trans shown)⟩

/-- The row is stamped if and only if the delivery ended without an exception. -/
theorem settle_stamps {row settled : BotNotification} {count : Nat} {outcome : Except String Int}
    (ran : settle {} now (BotNotificationRepository.claimed row) count outcome = .ok settled) :
    (∀ messageId, outcome = .ok messageId → settled.sentAt = some now) ∧
      ∀ name, outcome = .error name → settled.sentAt = row.sentAt := by
  constructor
  · rintro messageId rfl
    cases ran
    rfl
  · rintro name rfl
    unfold settle at ran
    obtain ⟨delay, -, ran⟩ := Except.bind_eq_ok_iff.1 ran
    split at ran
    · cases ran
      rfl
    · split at ran <;> (cases ran; rfl)

/-- What every committed iteration has sent and written. -/
theorem runOnce_notifies
    (ran : runOnce {} operatorUserId locked bot now db = .ok (attempt, committed)) :
    Notifies now db attempt committed := by
  unfold runOnce at ran
  split at ran
  · cases ran
    exact .idle
  · rename_i notification taken
    obtain ⟨row, held, -, rfl⟩ := claim_spec taken
    obtain ⟨flushed, first, ran⟩ := Except.bind_eq_ok_iff.1 ran
    obtain ⟨parts, s, outcome, delivered⟩ : ∃ parts s outcome,
        deliver bot (BotNotificationRepository.claimed row) flushed = (parts, s, outcome) :=
      ⟨_, _, _, rfl⟩
    rw [delivered] at ran
    obtain ⟨settled, settles, ran⟩ := Except.bind_eq_ok_iff.1 ran
    obtain ⟨after, last, ran⟩ := Except.bind_eq_ok_iff.1 ran
    cases ran
    have delivers := deliver_spec delivered
    obtain ⟨stamps, keeps⟩ := settle_stamps settles
    have same := (settle_spec delivers settles).2
    cases flush_spec first
    cases flush_spec last
    have found := Table.get?_of_mem held
    have between (questionId : UUID) :
        (db.botNotifications.put (BotNotificationRepository.claimed row)).get? questionId =
          if questionId = row.questionId then some (BotNotificationRepository.claimed row)
          else db.botNotifications.get? questionId :=
      Table.get?_put (Option.isSome_iff_exists.2 ⟨row, found⟩)
    refine @Notifies.attempted now db row settled _ _ held rfl ?_ delivers.lawful ?_ ?_ ?_
    · intro shown some_parts
      obtain ⟨content, built, own⟩ := deliver_rendered delivered some_parts
      exact ⟨content, built, own⟩
    · intro complete
      cases outcome with
      | ok messageId => exact stamps messageId rfl
      | error name => exact absurd complete (delivers.error name rfl)
    · intro incomplete
      cases outcome with
      | ok messageId => exact absurd (delivers.ok messageId rfl).1 incomplete
      | error name => exact keeps name rfl
    · intro questionId
      have taken_row : ((db.botNotifications.put (BotNotificationRepository.claimed row)).get?
          settled.questionId).isSome := by
        rw [between, if_pos same]
        rfl
      refine (Table.get?_put taken_row).trans ?_
      rw [same, between]
      split <;> rfl

/-! ### What Telegram has -/

/-- The worker knows of every part that was accepted, but for the one whose call has raised. -/
theorem sendParts_reached {calls : Nat} {parts : List NotificationPart} {s s' : Sending}
    {raised : Option String} (counts : s.sentPartCount + parts.length ≤ calls)
    (ran : sendParts api.toNotificationBot chatId parts s = (s', raised)) :
    ∃ unknown, s.accepted ++ reached api chatId calls parts s.sentPartCount =
      s'.accepted ++ unknown ∧ unknown.length ≤ 1 ∧ (raised = none → unknown = []) := by
  induction parts generalizing s with
  | nil =>
      cases ran
      exact ⟨[], rfl, Nat.zero_le 1, fun _ => rfl⟩
  | cons part parts ih =>
      rw [List.length_cons] at counts
      have made : s.sentPartCount < calls := by omega
      unfold sendParts at ran
      unfold reached
      rw [if_pos made]
      split at ran
      · rename_i name answer
        cases ran
        rw [answer]
        refine ⟨_, rfl, ?_, fun none_raised => by cases none_raised⟩
        cases api.unanswered s'.sentPartCount <;> simp
      · rename_i messageId answer
        rw [answer]
        obtain ⟨unknown, same, few, whole⟩ := ih (by dsimp only; omega) ran
        refine ⟨unknown, ?_, few, whole⟩
        rw [← same]
        simp

/-- What a committed iteration reports is what Telegram has, but for a part whose call has raised. -/
theorem attempted_of_runOnce {known : Attempt}
    (ran : runOnce {} operatorUserId locked api.toNotificationBot now db =
      .ok (some known, committed)) :
    ∃ unknown, attempted operatorUserId locked api .committed now db =
        some { known with accepted := known.accepted ++ unknown } ∧ unknown.length ≤ 1 ∧
      (known.Complete → unknown = []) := by
  unfold runOnce at ran
  split at ran
  · cases ran
  · rename_i notification taken
    obtain ⟨flushed, first, ran⟩ := Except.bind_eq_ok_iff.1 ran
    obtain ⟨parts, s, outcome, delivered⟩ : ∃ parts s outcome,
        deliver api.toNotificationBot notification flushed = (parts, s, outcome) := ⟨_, _, _, rfl⟩
    have delivers := deliver_spec delivered
    rw [delivered] at ran
    obtain ⟨settled, -, ran⟩ := Except.bind_eq_ok_iff.1 ran
    obtain ⟨after, -, ran⟩ := Except.bind_eq_ok_iff.1 ran
    cases ran
    unfold attempted
    rcases deliver_cases delivered with
      ⟨name, built, rfl, rfl⟩ | ⟨content, raised, built, rfl, sending, raises⟩
    · refine ⟨[], ?_, Nat.zero_le 1, fun _ => rfl⟩
      simp only [taken, first, built]
      rfl
    · have counts : (0 : Nat) + (renderNotification content).length ≤
        (renderNotification content).length := by omega
      obtain ⟨unknown, same, few, whole⟩ := sendParts_reached counts sending
      refine ⟨unknown, ?_, few, fun complete => ?_⟩
      · simp only [taken, first, built]
        rw [← same]
        rfl
      · cases raised with
        | none => exact whole rfl
        | some name => exact absurd complete (delivers.error name (raises name rfl))

end Iterations

end BotNotificationWorker

end LeadAssistant
