/-
Module: LeadAssistant.Listener.ReplyChain
Layer: Listener
Purpose: Bounded reconstruction of explicit Telegram reply chains (`reply_chain.py`). The while
  loop of `get_reply_chain` is a recursion on the number of items still allowed; its `else` clause
  is the case in which none is left.
Trusted boundary: human-reviewed spec
Main exports: ReplyMessage, ReplyChainItem, ReplyChain, ReplyMessageSource, getReplyChain
-/
import LeadAssistant.Domain.Enums
import Mathlib.Data.List.Basic

namespace LeadAssistant

/-- Reason why traversal stopped before reaching a reply root. -/
inductive ReplyChainStopReason where
  | missingParent | crossChatParent | crossTopicParent | cycle | maxDepth
deriving Repr, DecidableEq

/-- Normalized Telegram message returned by the MTProto adapter. -/
structure ReplyMessage where
  telegramChatId : Int
  telegramMessageId : Int
  replyToMessageId : Option Int
  topicId : Option Int
  replyToTopMessageId : Option Int
  authorTelegramId : Option Int
  authorDisplayName : Option String
  telegramCreatedAt : Time
  text : String
deriving Repr, DecidableEq

/-- One ordered message or safe unavailable-parent marker. -/
structure ReplyChainItem where
  telegramMessageId : Int
  replyToMessageId : Option Int
  topicId : Option Int
  replyToTopMessageId : Option Int
  authorTelegramId : Option Int
  authorDisplayName : Option String
  telegramCreatedAt : Option Time
  text : Option String
  isTarget : Bool
  isUnavailable : Bool := false
deriving Repr, DecidableEq

/-- Oldest-to-target reply chain with explicit truncation metadata. -/
structure ReplyChain where
  chatId : Int
  items : List ReplyChainItem
  topicId : Option Int := none
  replyToTopMessageId : Option Int := none
  topicTitle : Option String := none
  stopReason : Option ReplyChainStopReason := none
deriving Repr, DecidableEq

/-- The MTProto history interface of the loader, whatever it answers with. -/
structure MessageHistory where
  getReplyMessage : Int → Int → Option ReplyMessage
  getForumTopicTitle : Int → Int → Option String

/-- A history that loads a message by its identity, so that the message it answers with is the one
that was asked for. -/
structure ReplyMessageSource extends MessageHistory where
  byIdentity : ∀ chatId messageId message,
    getReplyMessage chatId messageId = some message → message.telegramMessageId = messageId

instance : Coe ReplyMessageSource MessageHistory := ⟨ReplyMessageSource.toMessageHistory⟩

namespace ReplyChainLoader

def MAX_DEPTH : Nat := 10

/-- `_available_item`. -/
def availableItem (message : ReplyMessage) : ReplyChainItem where
  telegramMessageId := message.telegramMessageId
  replyToMessageId := message.replyToMessageId
  topicId := message.topicId
  replyToTopMessageId := message.replyToTopMessageId
  authorTelegramId := message.authorTelegramId
  authorDisplayName := message.authorDisplayName
  telegramCreatedAt := some message.telegramCreatedAt
  text := some message.text
  isTarget := false

/-- `_unavailable_item`. -/
def unavailableItem (messageId : Int) : ReplyChainItem where
  telegramMessageId := messageId
  replyToMessageId := none
  topicId := none
  replyToTopMessageId := none
  authorTelegramId := none
  authorDisplayName := none
  telegramCreatedAt := none
  text := none
  isTarget := false
  isUnavailable := true

/-- The local variables of the traversal loop. -/
structure Traversal where
  newestFirst : List ReplyChainItem := []
  stopReason : Option ReplyChainStopReason := none
  targetTopicId : Option Int := none
  targetTopMessageId : Option Int := none
deriving Repr

/-- End the loop with a marker for a parent that cannot be shown. -/
def Traversal.stopAt (t : Traversal) (messageId : Int) (reason : ReplyChainStopReason) :
    Traversal :=
  { t with newestFirst := t.newestFirst ++ [unavailableItem messageId], stopReason := some reason }

/-- Append a message; the first one fixes the topic of the chain. -/
def Traversal.push (t : Traversal) (message : ReplyMessage) : Traversal :=
  let t := if t.newestFirst = [] then
      { t with targetTopicId := message.topicId, targetTopMessageId := message.replyToTopMessageId }
    else t
  { t with newestFirst := t.newestFirst ++ [availableItem message] }

/-- The loop of `get_reply_chain`, with `depth` items still allowed. -/
def traverse (source : MessageHistory) (chatId : Int) :
    Nat → Int → List Int → Traversal → Traversal
  | 0, _, _, t =>
      if (t.newestFirst.getLast?.bind (fun item => item.replyToMessageId)).isSome then
        { t with stopReason := some .maxDepth }
      else t
  | depth + 1, currentId, visited, t =>
      if currentId ∈ visited then { t with stopReason := some .cycle }
      else match source.getReplyMessage chatId currentId with
        | none => t.stopAt currentId .missingParent
        | some message =>
            if message.telegramChatId ≠ chatId then t.stopAt currentId .crossChatParent
            else if t.newestFirst ≠ [] ∧ message.topicId ≠ t.targetTopicId then
              t.stopAt currentId .crossTopicParent
            else match message.replyToMessageId with
              | none => t.push message
              | some parentId =>
                  traverse source chatId depth parentId (currentId :: visited) (t.push message)

/-- Mark the newest item as the target and put the oldest one first. -/
def ordered : List ReplyChainItem → List ReplyChainItem
  | [] => []
  | target :: older => older.reverse ++ [{ target with isTarget := true }]

/-- `get_reply_chain`; `none` is the `ValueError` for a depth outside 1..10. -/
def getReplyChain (source : MessageHistory) (chatId messageId : Int)
    (maxDepth : Nat := MAX_DEPTH) : Option ReplyChain :=
  if maxDepth < 1 ∨ MAX_DEPTH < maxDepth then none
  else
    let t := traverse source chatId maxDepth messageId [] {}
    some
      { chatId := chatId
        items := ordered t.newestFirst
        topicId := t.targetTopicId
        replyToTopMessageId := t.targetTopMessageId
        topicTitle := t.targetTopicId.bind (source.getForumTopicTitle chatId)
        stopReason := t.stopReason }

end ReplyChainLoader

end LeadAssistant
