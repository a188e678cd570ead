/-
Module: LeadAssistant.Repositories.BotNotifications
Layer: Repositories
Purpose: `BotNotificationRepository` (`bot_notifications.py`): the queue of operator notifications.
  The methods change the row that the session has claimed under its lock; `flush` writes it.
Trusted boundary: human-reviewed spec
Main exports: BotNotificationRepository.claim, markSent, retry, fail, flush
-/
import LeadAssistant.Classifier.Relevant
import LeadAssistant.Repositories.Jobs

namespace LeadAssistant

open Relational

/-- The column limits of `bot_notifications` on the values that delivery changes. -/
def BotNotification.storable (notification : BotNotification) : Bool :=
  notification.attemptCount < 2 ^ 15 &&
    notification.botMessageId.all (fun id => -2 ^ 63 ≤ id && id < 2 ^ 63) &&
    notification.lastError.all fitsText

namespace BotNotificationRepository

/-- The rows that may be claimed for an operator. -/
def claimable (operatorUserId : Int) (locked : UUID → Bool) (now : Time)
    (notification : BotNotification) : Bool :=
  (notification.status = "pending" || notification.status = "retry") &&
    notification.nextAttemptAt ≤ now &&
    notification.operatorTelegramUserId = operatorUserId &&
    notification.botChatId = operatorUserId && !locked notification.questionId

/-- A notification as its claiming session changes it. -/
def claimed (notification : BotNotification) : BotNotification :=
  { notification with
    status := "sending", attemptCount := notification.attemptCount + 1, lastError := none }

/-- `claim`: the oldest eligible notification for the configured operator, with rows locked by peers
skipped. -/
def claim (operatorUserId : Int) (locked : UUID → Bool) (now : Time) (db : Database) :
    Option BotNotification :=
  (db.botNotifications.firstBy (claimable operatorUserId locked now)
    (fun notification => toLex (notification.nextAttemptAt, notification.createdAt))).map claimed

/-- `mark_sent`: successful delivery of the final interactive message part. -/
def markSent (botMessageId : Int) (now : Time) (notification : BotNotification) :
    BotNotification :=
  { notification with
    status := "sent", botMessageId := some botMessageId, sentAt := some now, lastError := none }

/-- `retry`: schedule a retry when Telegram accepted no message part. -/
def retry (errorCode : String) (retryAt : Time) (notification : BotNotification) :
    BotNotification :=
  { notification with
    status := "retry", nextAttemptAt := retryAt, lastError := some (clipped errorCode) }

/-- `fail`: stop automatic delivery after exhaustion or ambiguous partial delivery. -/
def fail (errorCode : String) (notification : BotNotification) : BotNotification :=
  { notification with status := "failed", lastError := some (clipped errorCode) }

/-- Write the claimed row. -/
def flush (notification : BotNotification) (db : Database) : Except HandlerError Database :=
  if !notification.storable then .error .dataError
  else .ok (db.setBotNotifications (db.botNotifications.put notification))

end BotNotificationRepository

end LeadAssistant
