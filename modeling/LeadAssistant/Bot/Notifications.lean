/-
Module: LeadAssistant.Bot.Notifications
Layer: Bot
Purpose: Deterministic rendering of operator notifications as bounded HTML messages
  (`bot/notifications.py`) and their inline controls (`bot/keyboards/notifications.py`). Lengths
  are counted in code points.
Trusted boundary: human-reviewed spec
Main exports: NotificationContent, NotificationPart, renderNotification, splitEscapedText,
  packBlocks, buildOriginalMessageUrl, buildQuestionControls
-/
import LeadAssistant.Domain.Enums
import LeadAssistant.Library.Decimal
import Mathlib.Data.List.Sort

namespace LeadAssistant

def TELEGRAM_MESSAGE_LIMIT : Nat := 4096

/-- One persisted reply-chain item required by the renderer. -/
structure NotificationChainItem where
  position : Int
  authorDisplayName : Option String
  originalText : String
  translatedText : Option String
  isTarget : Bool
deriving Repr, DecidableEq

/-- Persisted question metadata required by the renderer. -/
structure NotificationContent where
  questionId : UUID
  chatTitle : String
  topicTitle : Option String
  category : String
  confidence : Option Decimal
  chatUsername : Option String
  telegramChatId : Int
  telegramMessageId : Int
  topicId : Option Int
  chain : List NotificationChainItem
deriving Repr

inductive ParseMode where
  | html
deriving Repr, DecidableEq

/-- The two parts of the callback data `"question:{action}:{question_id}"`. -/
structure QuestionAction where
  action : String
  questionId : UUID
deriving Repr, DecidableEq

structure InlineKeyboardButton where
  text : String
  url : Option String := none
  callbackData : Option QuestionAction := none
deriving Repr, DecidableEq

/-- The rows of buttons under a message. -/
abbrev InlineKeyboardMarkup := List (List InlineKeyboardButton)

/-- One independently valid Telegram message. -/
structure NotificationPart where
  text : String
  parseMode : ParseMode
  replyMarkup : Option InlineKeyboardMarkup := none
deriving Repr, DecidableEq

/-- `PUBLIC_USERNAME_PATTERN.fullmatch`. -/
def isPublicUsername (username : String) : Bool :=
  username ≠ "" && username.toList.all (fun c => c.isAlphanum || c = '_')

/-- The part of a private link that names the chat: the digits after `PRIVATE_CHAT_ID_PREFIX`. -/
def privateChatPath (telegramChatId : Int) : Option String :=
  let rawChatId := (Numeral.str telegramChatId).toList
  if "-100".toList.isPrefixOf rawChatId then
    let privateChatId := rawChatId.drop 4
    if privateChatId = [] ∨ privateChatId.all Char.isDigit = false ∨
        Nat.ofDigitChars 10 privateChatId 0 = 0 then none
    else some ("c/" ++ String.ofList privateChatId)
  else none

/-- `username.removeprefix("@")`, and nothing for an empty username. -/
def withoutPrefix (chatUsername : Option String) : Option String :=
  (chatUsername.filter (fun username => username ≠ "")).map (fun username =>
    if username.toList.head? = some '@' then String.ofList username.toList.tail else username)

/-- `build_original_message_url`: a public or private Telegram link to a target message. -/
def buildOriginalMessageUrl (chatUsername : Option String) (telegramChatId telegramMessageId : Int)
    (topicId : Option Int) : Option String :=
  if telegramMessageId ≤ 0 ∨ topicId.any (fun topicId => topicId ≤ 0) then none
  else do
    let chatPath ← match (withoutPrefix chatUsername).filter isPublicUsername with
      | some username => some username
      | none => privateChatPath telegramChatId
    let topicPath := match topicId with
      | some topicId => "/" ++ Numeral.str topicId
      | none => ""
    pure ("https://t.me/" ++ chatPath ++ topicPath ++ "/" ++ Numeral.str telegramMessageId)

/-- `build_question_controls`: the controls that start or dismiss the manual operator workflow. -/
def buildQuestionControls (questionId : UUID) (originalMessageUrl : Option String) :
    InlineKeyboardMarkup :=
  let original := match originalMessageUrl with
    | some url => [[{ text := "Открыть оригинал", url := some url }]]
    | none => []
  original ++
    [[{ text := "Ответить", callbackData := some ⟨"reply", questionId⟩ },
      { text := "Не релевантно", callbackData := some ⟨"dismiss", questionId⟩ }]]

/-- `html.escape` of one character. -/
def escapeChar (character : Char) : String :=
  if character = '&' then "&amp;"
  else if character = '<' then "&lt;"
  else if character = '>' then "&gt;"
  else if character = '"' then "&quot;"
  else if character = '\x27' then "&#x27;"
  else String.singleton character

/-- `html.escape`. -/
def escape (text : String) : String :=
  String.join (text.toList.map escapeChar)

/-- `value or default`, for which an empty string is no value. -/
def nonempty (value : Option String) (default : String) : String :=
  match value with
  | some value => if value = "" then default else value
  | none => default

/-- `_render_metadata`. -/
def renderMetadata (content : NotificationContent) : String :=
  let topic := nonempty content.topicTitle "Без темы"
  let confidence := match content.confidence with
    | none => "—"
    | some confidence => confidence.percent
  String.intercalate "\n"
    ["<b>Новый вопрос</b>",
      "<b>Чат:</b> " ++ escape content.chatTitle,
      "<b>Тема:</b> " ++ escape topic,
      "<b>Категория:</b> " ++ escape content.category,
      "<b>Уверенность:</b> " ++ confidence]

/-- The local variables of the loop of `_split_escaped_text`. -/
structure Splitting where
  chunks : List String := []
  current : List String := []
  currentLength : Nat := 0

/-- The body of the loop of `_split_escaped_text`. -/
def Splitting.add (limit : Nat) (s : Splitting) (character : Char) : Splitting :=
  let escaped := escapeChar character
  let s := if s.current ≠ [] ∧ limit < s.currentLength + escaped.length then
      { chunks := s.chunks ++ [String.join s.current], current := [], currentLength := 0 }
    else s
  { s with
    current := s.current ++ [escaped]
    currentLength := s.currentLength + escaped.length }

/-- `_split_escaped_text`. -/
def splitEscapedText (text : String) (limit : Nat) : List String :=
  if text = "" then [""]
  else
    let s := text.toList.foldl (Splitting.add limit) {}
    if s.current ≠ [] then s.chunks ++ [String.join s.current] else s.chunks

/-- `_render_text_blocks`. -/
def renderTextBlocks (label text : String) : List String :=
  let opening := "<b>" ++ label ++ ":</b>\n<blockquote>"
  let closing := "</blockquote>"
  let payloadLimit := TELEGRAM_MESSAGE_LIMIT - opening.length - closing.length
  (splitEscapedText text payloadLimit).map (fun chunk => opening ++ chunk ++ closing)

/-- `_render_chain_item`. -/
def renderChainItem (item : NotificationChainItem) : List String :=
  let marker := if item.isTarget then " • целевое сообщение" else ""
  let author := nonempty item.authorDisplayName "Неизвестный автор"
  let heading := "<b>Сообщение " ++ Numeral.str (item.position + 1) ++ marker ++
    "</b>\n<b>Автор:</b> " ++ escape author
  heading :: (renderTextBlocks "Оригинал" item.originalText ++
    match item.translatedText with
    | some translated =>
        if translated ≠ item.originalText then renderTextBlocks "Перевод" translated
        else ["<b>Перевод:</b> недоступен"]
    | none => ["<b>Перевод:</b> недоступен"])

/-- The local variables of the loop of `_pack_blocks`. -/
structure PackedMessages where
  messages : List String := []
  current : String := ""

/-- The body of the loop of `_pack_blocks`. -/
def PackedMessages.add (s : PackedMessages) (block : String) : PackedMessages :=
  let separator := if s.current ≠ "" then "\n\n" else ""
  if s.current ≠ "" ∧
      TELEGRAM_MESSAGE_LIMIT < s.current.length + separator.length + block.length then
    { messages := s.messages ++ [s.current], current := block }
  else { s with current := s.current ++ separator ++ block }

/-- `_pack_blocks`. -/
def packBlocks (blocks : List String) : List String :=
  let s := blocks.foldl PackedMessages.add {}
  if s.current ≠ "" then s.messages ++ [s.current] else s.messages

/-- `sorted(chain, key=lambda value: value.position)`. -/
def byPosition (chain : List NotificationChainItem) : List NotificationChainItem :=
  chain.insertionSort (fun first second => first.position ≤ second.position)

/-- `render_notification`: a notification as bounded, independently valid HTML messages. -/
def renderNotification (content : NotificationContent) : List NotificationPart :=
  let blocks := renderMetadata content :: (byPosition content.chain).flatMap renderChainItem
  let texts := packBlocks blocks
  let originalMessageUrl := buildOriginalMessageUrl content.chatUsername content.telegramChatId
    content.telegramMessageId content.topicId
  let controls := buildQuestionControls content.questionId originalMessageUrl
  texts.mapIdx (fun index text =>
    { text := text
      parseMode := .html
      replyMarkup := if index = texts.length - 1 then some controls else none })

end LeadAssistant
