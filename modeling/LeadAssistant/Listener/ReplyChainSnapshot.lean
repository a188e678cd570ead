/-
Module: LeadAssistant.Listener.ReplyChainSnapshot
Layer: Listener
Purpose: The JSON hand-off of a reply chain between the listener and the classifier
  (`serialize_reply_chain`, `deserialize_reply_chain`) and the handler that publishes it
  (`reply_chain_worker.py`). Pydantic's form of a timestamp is a parameter that can be read back;
  its coercions of other JSON types play no part, as the column holds only what was serialized.
Trusted boundary: human-reviewed spec
Main exports: serializeReplyChain, deserializeReplyChain, deserialize_serialize,
  ReplyChainSnapshotHandler.call
-/
import LeadAssistant.Library.Json
import LeadAssistant.Listener.ReplyChain
import LeadAssistant.Repositories.Jobs

namespace LeadAssistant

open Json (Codec)

/-- `ReplyChainStopReason` values. -/
def ReplyChainStopReason.value : ReplyChainStopReason → String
  | .missingParent => "missing_parent"
  | .crossChatParent => "cross_chat_parent"
  | .crossTopicParent => "cross_topic_parent"
  | .cycle => "cycle"
  | .maxDepth => "max_depth"

def ReplyChainStopReason.codec : Codec ReplyChainStopReason where
  encode reason := .string reason.value
  decode
    | .string "missing_parent" => some .missingParent
    | .string "cross_chat_parent" => some .crossChatParent
    | .string "cross_topic_parent" => some .crossTopicParent
    | .string "cycle" => some .cycle
    | .string "max_depth" => some .maxDepth
    | _ => none
  decode_encode reason := by cases reason <;> rfl
  notNull _ := Json.noConfusion

/-- The JSON form of a timestamp, a string without NUL characters. -/
structure TimestampCodec extends Codec Time where
  storable : ∀ time, (encode time).storable = true

section Snapshot

variable (timestamps : TimestampCodec)

/-- The fields of `ReplyChainItemSnapshot`. -/
def itemFields : List String :=
  ["telegram_message_id", "reply_to_message_id", "topic_id", "reply_to_top_message_id",
    "author_telegram_id", "author_display_name", "telegram_created_at", "text", "is_target",
    "is_unavailable"]

def encodeItem (item : ReplyChainItem) : Json :=
  .object [
    ("telegram_message_id", Codec.int.encode item.telegramMessageId),
    ("reply_to_message_id", Codec.int.encodeNullable item.replyToMessageId),
    ("topic_id", Codec.int.encodeNullable item.topicId),
    ("reply_to_top_message_id", Codec.int.encodeNullable item.replyToTopMessageId),
    ("author_telegram_id", Codec.int.encodeNullable item.authorTelegramId),
    ("author_display_name", Codec.text.encodeNullable item.authorDisplayName),
    ("telegram_created_at", timestamps.toCodec.encodeNullable item.telegramCreatedAt),
    ("text", Codec.text.encodeNullable item.text),
    ("is_target", Codec.flag.encode item.isTarget),
    ("is_unavailable", Codec.flag.encode item.isUnavailable)]

def decodeItem (json : Json) : Option ReplyChainItem := do
  guard (json.onlyFields itemFields)
  let telegramMessageId ← (json.field? "telegram_message_id").bind Codec.int.decode
  let replyToMessageId ← (json.field? "reply_to_message_id").bind Codec.int.decodeNullable
  let topicId ← (json.field? "topic_id").bind Codec.int.decodeNullable
  let replyToTopMessageId ← (json.field? "reply_to_top_message_id").bind Codec.int.decodeNullable
  let authorTelegramId ← (json.field? "author_telegram_id").bind Codec.int.decodeNullable
  let authorDisplayName ← (json.field? "author_display_name").bind Codec.text.decodeNullable
  let telegramCreatedAt ←
    (json.field? "telegram_created_at").bind timestamps.toCodec.decodeNullable
  let text ← (json.field? "text").bind Codec.text.decodeNullable
  let isTarget ← (json.field? "is_target").bind Codec.flag.decode
  let isUnavailable ← (json.field? "is_unavailable").bind Codec.flag.decode
  pure { telegramMessageId, replyToMessageId, topicId, replyToTopMessageId, authorTelegramId,
         authorDisplayName, telegramCreatedAt, text, isTarget, isUnavailable }

/-- `ReplyChainItemSnapshot`. -/
def itemCodec : Codec ReplyChainItem where
  encode := encodeItem timestamps
  decode := decodeItem timestamps
  decode_encode item := by
    simp [encodeItem, decodeItem, Json.field?, Json.onlyFields, itemFields]
  notNull _ := Json.noConfusion

/-- The fields of `ReplyChainSnapshot`. -/
def chainFields : List String :=
  ["chat_id", "items", "topic_id", "reply_to_top_message_id", "topic_title", "stop_reason"]

def serializeReplyChain (chain : ReplyChain) : Json :=
  .object [
    ("chat_id", Codec.int.encode chain.chatId),
    ("items", (itemCodec timestamps).list.encode chain.items),
    ("topic_id", Codec.int.encodeNullable chain.topicId),
    ("reply_to_top_message_id", Codec.int.encodeNullable chain.replyToTopMessageId),
    ("topic_title", Codec.text.encodeNullable chain.topicTitle),
    ("stop_reason", ReplyChainStopReason.codec.encodeNullable chain.stopReason)]

/-- `deserialize_reply_chain`; `none` is the `ValidationError`. -/
def deserializeReplyChain (json : Json) : Option ReplyChain := do
  guard (json.onlyFields chainFields)
  let chatId ← (json.field? "chat_id").bind Codec.int.decode
  let items ← (json.field? "items").bind (itemCodec timestamps).list.decode
  let topicId ← (json.field? "topic_id").bind Codec.int.decodeNullable
  let replyToTopMessageId ← (json.field? "reply_to_top_message_id").bind Codec.int.decodeNullable
  let topicTitle ← (json.field? "topic_title").bind Codec.text.decodeNullable
  let stopReason ← (json.field? "stop_reason").bind ReplyChainStopReason.codec.decodeNullable
  pure { chatId, items, topicId, replyToTopMessageId, topicTitle, stopReason }

theorem deserialize_serialize (chain : ReplyChain) :
    deserializeReplyChain timestamps (serializeReplyChain timestamps chain) = some chain := by
  simp [serializeReplyChain, deserializeReplyChain, Json.field?, Json.onlyFields, chainFields]

/-- `ReplyChainSnapshotHandler.__call__`, with the history of the job's chat as its source. -/
def ReplyChainSnapshotHandler.call (source : MessageHistory) (job : ProcessingJob) (now : Time)
    (db : Database) : Except HandlerError Database :=
  match ReplyChainLoader.getReplyChain source job.telegramChatId job.telegramMessageId with
  | none => .error .valueError
  | some chain =>
      DownstreamJobRepository.saveReplyChain job.id (serializeReplyChain timestamps chain) now db

end Snapshot

/-- Pydantic's form of the one time that the sample runs use; other times stay numbers. -/
def sampleTimestamps : TimestampCodec where
  encode time := if time = 0 then .string "1970-01-01T00:00:00Z" else .number time
  decode
    | .string "1970-01-01T00:00:00Z" => some 0
    | .number time => some time
    | _ => none
  decode_encode time := by
    by_cases epoch : time = 0
    · simp [epoch]
    · simp [epoch]
  notNull time := by
    by_cases epoch : time = 0
    · simp [epoch]
    · simp [epoch]
  storable time := by
    by_cases epoch : time = 0
    · simp [epoch, Json.storable]
    · simp [epoch, Json.storable]

/-- The source of a chat whose history is one post. -/
def samplePostSource : ReplyMessageSource where
  getReplyMessage chatId messageId :=
    if chatId = -100 ∧ messageId = 40 then
      some ⟨-100, 40, none, none, none, none, none, 0, "How do we deploy?"⟩
    else none
  getForumTopicTitle _ _ := none
  byIdentity chatId messageId message found := by
    split at found
    · rename_i asked
      cases found
      exact asked.2.symm
    · cases found

end LeadAssistant
