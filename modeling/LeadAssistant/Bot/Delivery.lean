/-
Module: LeadAssistant.Bot.Delivery
Layer: Bot
Purpose: `BotNotificationWorker.run_once` (`bot/delivery.py`): claim one notification, render it and
  send its parts. The result is what a committed iteration leaves behind, together with what
  Telegram has accepted; an error rolls the iteration back.
Trusted boundary: human-reviewed spec
Main exports: NotificationBot, Attempt, BotNotificationWorker.buildContent, sendParts, deliver,
  settle, runOnce
-/
import LeadAssistant.Bot.Notifications
import LeadAssistant.Database.Worker
import LeadAssistant.Repositories.BotNotifications

namespace LeadAssistant

open Relational

/-- The column value of a category. -/
def ClassificationCategory.value : ClassificationCategory → String
  | .technical => "technical"
  | .operational => "operational"
  | .strategy => "strategy"
  | .analytics => "analytics"
  | .problemSolving => "problem_solving"
  | .irrelevant => "irrelevant"

/-- A number as its `NUMERIC(5, 4)` column returns it. -/
def fourPlaces (value : ℚ) : Decimal :=
  ⟨decide (value < 0), (roundHalfUp 10000 |value|).toNat, -4⟩

/-- The Bot API as one iteration meets it: what the calls of `send_message`, counted from zero,
answer. A call returns the id of the accepted message or raises; then nothing was accepted, and the
name is that of the exception. -/
structure NotificationBot where
  sendMessage : Nat → Int → NotificationPart → Except String Int

/-- What one iteration did with the notification it claimed: the parts it rendered, unless that
failed, and the ones that were accepted, with the ids of their messages. -/
structure Attempt where
  questionId : UUID
  parts : Option (List NotificationPart)
  accepted : List (NotificationPart × Int)
deriving Repr, DecidableEq

namespace BotNotificationWorker

/-- `_build_content`; a notification without its question has no attributes to read. -/
def buildContent (notification : BotNotification) (db : Database) :
    Except String NotificationContent :=
  match db.detectedQuestions.get? notification.questionId with
  | none => .error "AttributeError"
  | some question =>
      let chat := question.monitoredChatId.bind (fun chatId => db.monitoredChats.get? chatId)
      let chainMessages := (db.questionChainMessages.rows.filter
        (fun item => item.questionId = question.id)).insertionSort
          (fun first second => first.position ≤ second.position)
      .ok
        { questionId := question.id
          chatTitle := match chat with
            | some chat => chat.title
            | none => "Удалённый чат"
          topicTitle := question.topicTitle
          category := question.category.value
          confidence := some (fourPlaces question.confidence)
          chatUsername := chat.bind (fun chat => chat.username)
          telegramChatId := question.telegramChatId
          telegramMessageId := question.telegramMessageId
          topicId := question.topicId
          chain := chainMessages.map (fun item =>
            { position := item.position
              authorDisplayName := item.authorDisplayName
              originalText := item.originalText
              translatedText := item.translatedText
              isTarget := item.isTarget }) }

/-- The local variables of the loop over the parts, and what was accepted. -/
structure Sending where
  finalMessageId : Option Int := none
  sentPartCount : Nat := 0
  accepted : List (NotificationPart × Int) := []

/-- The loop over the parts, and the exception that ended it. -/
def sendParts (bot : NotificationBot) (chatId : Int) :
    List NotificationPart → Sending → Sending × Option String
  | [], s => (s, none)
  | part :: parts, s =>
      match bot.sendMessage s.sentPartCount chatId part with
      | .error name => (s, some name)
      | .ok messageId =>
          sendParts bot chatId parts
            { finalMessageId := some messageId
              sentPartCount := s.sentPartCount + 1
              accepted := s.accepted ++ [(part, messageId)] }

/-- The `try` block: what it rendered and sent, and the final message id or an exception. -/
def deliver (bot : NotificationBot) (notification : BotNotification) (db : Database) :
    Option (List NotificationPart) × Sending × Except String Int :=
  match buildContent notification db with
  | .error name => (none, {}, .error name)
  | .ok content =>
      let parts := renderNotification content
      let (s, raised) := sendParts bot notification.botChatId parts {}
      match raised, s.finalMessageId with
      | some name, _ => (some parts, s, .error name)
      | none, none => (some parts, s, .error "RuntimeError")
      | none, some finalMessageId => (some parts, s, .ok finalMessageId)

/-- The `except` and `else` blocks: the claimed row as the iteration leaves it. -/
def settle (policy : RetryPolicy) (now : Time) (notification : BotNotification)
    (sentPartCount : Nat) : Except String Int → Except HandlerError BotNotification
  | .ok finalMessageId =>
      .ok (BotNotificationRepository.markSent finalMessageId now notification)
  | .error name => do
      let errorCode := clipped name
      let delay ← policy.delayAfterAttempt notification.attemptCount
      match delay with
      | none => pure (BotNotificationRepository.fail errorCode notification)
      | some delay =>
          if 0 < sentPartCount then pure (BotNotificationRepository.fail errorCode notification)
          else pure (BotNotificationRepository.retry errorCode (now + delay) notification)

/-- `run_once`: deliver at most one pending notification. -/
def runOnce (policy : RetryPolicy) (operatorUserId : Int) (locked : UUID → Bool)
    (bot : NotificationBot) (now : Time) (db : Database) :
    Except HandlerError (Option Attempt × Database) :=
  match BotNotificationRepository.claim operatorUserId locked now db with
  | none => .ok (none, db)
  | some notification => do
      let flushed ← BotNotificationRepository.flush notification db
      let (parts, s, outcome) := deliver bot notification flushed
      let settled ← settle policy now notification s.sentPartCount outcome
      let committed ← BotNotificationRepository.flush settled flushed
      pure (some ⟨notification.questionId, parts, s.accepted⟩, committed)

end BotNotificationWorker

end LeadAssistant
