/-
Module: LeadAssistant.Listener.TelethonClient
Layer: Listener
Purpose: `TelethonSessionClient` (`listener/mtproto/client.py`) as the send worker uses it. Telethon
  is given by what each of its requests answers or raises; three methods of the client translate
  these exceptions, each in its own way.
Trusted boundary: human-reviewed spec
Main exports: TelethonError, TelethonAnswers, TelethonAnswers.verifyChat,
  TelethonAnswers.getReplyMessage, TelethonAnswers.sendReply
-/
import LeadAssistant.Listener.Outbound
import LeadAssistant.Repositories.MonitoredChats

namespace LeadAssistant

/-- The exceptions of a request, as far as a handler tells them apart; `rpc` stands for every other
`RPCError`. -/
inductive TelethonError where
  | channelPrivate | userNotParticipant | chatWriteForbidden | messageIdInvalid | topicDeleted
  | floodWait (seconds : Int)
  | serverError
  | rpc (className : String)
  | connection
  | valueError
  | other
deriving Repr, DecidableEq

/-- What `get_entity` resolves, with the default rights of its members. -/
inductive TelegramEntity where
  | channel (broadcast megagroup forum sendBanned : Bool)
  | chat (sendBanned : Bool)
  | other
deriving Repr, DecidableEq

/-- What `get_permissions` says about the account. -/
structure TelegramPermissions where
  isCreator : Bool
  isAdmin : Bool
  isBanned : Bool
  participantSendBanned : Bool
deriving Repr, DecidableEq

/-- A group's `is_supergroup` and `is_forum`; other entities are not supported. -/
def TelegramEntity.group? : TelegramEntity → Option (Bool × Bool)
  | .channel broadcast megagroup forum _ =>
      if broadcast || !megagroup then none else some (true, forum)
  | .chat _ => some (false, false)
  | .other => none

def TelegramEntity.sendBanned : TelegramEntity → Bool
  | .channel _ _ _ sendBanned | .chat sendBanned => sendBanned
  | .other => false

/-- `_account_can_send`. -/
def accountCanSend (entity : TelegramEntity) (permissions : TelegramPermissions) : Bool :=
  if permissions.isCreator || permissions.isAdmin then true
  else if permissions.isBanned then !permissions.participantSendBanned
  else !entity.sendBanned

/-- How the requests of one iteration end. The message of a fetch is taken as the client reads it,
and a send answers with the id of a message, or with something else. A send that raises may still
have been accepted. -/
structure TelethonAnswers where
  entity : Except TelethonError TelegramEntity
  history : Except TelethonError Unit
  permissions : Except TelethonError TelegramPermissions
  message : Except TelethonError (Option ReplyMessage)
  sent : Except TelethonError (Option Int)
  acceptedId : Option Int := none

/-- The exceptions that leave `verify_chat`. -/
inductive VerifyFailure where
  | transient
  | unhandled (error : TelethonError)
deriving Repr, DecidableEq

namespace TelethonAnswers

/-- The `try` block of `verify_chat`. -/
def checkChat (telethon : TelethonAnswers) : Except TelethonError ChatVerificationResult := do
  let entity ← telethon.entity
  match entity.group? with
  | none => pure { outcome := .verificationFailed, errorCode := some "unsupported_chat_type" }
  | some (isSupergroup, isForum) =>
      -- Reading one message proves that the current session can access history.
      telethon.history
      let permissions ← telethon.permissions
      pure
        { outcome := if accountCanSend entity permissions then .active else .readOnly
          isSupergroup := isSupergroup
          isForum := isForum }

/-- `verify_chat`. -/
def verifyChat (telethon : TelethonAnswers) : Except VerifyFailure ChatVerificationResult :=
  let failed (className : String) : ChatVerificationResult :=
    { outcome := .verificationFailed, errorCode := some className }
  match telethon.checkChat with
  | .ok result => .ok result
  | .error .channelPrivate | .error .userNotParticipant | .error .chatWriteForbidden =>
      .ok { outcome := .accessLost, errorCode := some "membership_or_access_lost" }
  | .error .valueError => .ok { outcome := .accessLost, errorCode := some "peer_unavailable" }
  | .error .connection | .error .serverError | .error (.floodWait _) => .error .transient
  | .error .messageIdInvalid => .ok (failed "MessageIdInvalidError")
  | .error .topicDeleted => .ok (failed "TopicDeletedError")
  | .error (.rpc className) => .ok (failed className)
  | .error .other => .error (.unhandled .other)

/-- `get_reply_message`; it handles no exception. -/
def getReplyMessage (telethon : TelethonAnswers) : Except TelethonError (Option ReplyMessage) :=
  telethon.message

/-- `send_reply`. -/
def sendReply (telethon : TelethonAnswers) : Except TelethonError SendAnswer :=
  match telethon.sent with
  | .ok (some messageId) => .ok (.returned messageId)
  | .ok none => .ok (.ambiguous .unknownError telethon.acceptedId)
  | .error (.floodWait seconds) => .ok (.refused .floodWait true (some seconds.toNat))
  | .error .messageIdInvalid => .ok (.refused .sourceMessageDeleted false none)
  | .error .topicDeleted => .ok (.refused .topicDeleted false none)
  | .error .chatWriteForbidden => .ok (.refused .chatWriteForbidden false none)
  | .error .channelPrivate | .error .userNotParticipant => .ok (.refused .accessLost false none)
  | .error .connection | .error .serverError =>
      .ok (.ambiguous .unknownError telethon.acceptedId)
  | .error (.rpc className) =>
      if className = "TopicClosedError" then .ok (.refused .topicClosed false none)
      else .ok (.ambiguous .unknownError telethon.acceptedId)
  | .error .valueError => .error .valueError
  | .error .other => .error .other

end TelethonAnswers

end LeadAssistant
