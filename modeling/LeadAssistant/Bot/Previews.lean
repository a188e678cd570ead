/-
Module: LeadAssistant.Bot.Previews
Layer: Bot
Purpose: The previews of drafts and edits (`bot/handlers/replies.py`). `accept_draft` and
  `accept_sent_edit` commit the new version first and then answer with one message that shows the
  text, below the titles of its chat and topic or below the text it replaces; nothing splits this
  message.
Trusted boundary: human-reviewed spec
Main exports: renderPreview, renderSentEditPreview, acceptDraft, acceptSentEdit, Deliverable,
  DraftFits, EditFits, preview_deliverable_iff, long_draft_undeliverable
-/
import LeadAssistant.Bot.Replies
import LeadAssistant.Bot.RenderedNotifications
import LeadAssistant.Repositories.Views

namespace LeadAssistant

open Relational Markup

/-- `_render_preview`. -/
def renderPreview (draft : StoredDraft) : String :=
  let topic := nonempty draft.destination.topicTitle "Без темы"
  "<b>Чат:</b> " ++ escape draft.destination.chatTitle ++
    "\n<b>Тема:</b> " ++ escape topic ++
    "\n\n<b>Предпросмотр ответа:</b>\n<pre>" ++ escape draft.text ++ "</pre>"

/-- `_render_sent_edit_preview`. -/
def renderSentEditPreview (preview : SentEditPreview) : String :=
  "<b>Текущий ответ:</b>\n<pre>" ++ escape preview.oldText ++
    "</pre>\n\n<b>Новый ответ:</b>\n<pre>" ++ escape preview.newText ++ "</pre>"

/-- What `message.answer` sends; a keyboard is given by the question that its buttons are for. -/
structure BotAnswer where
  text : String
  parseMode : Option ParseMode := none
  keyboardFor : Option UUID := none
deriving Repr, DecidableEq

/-- `accept_draft`, given the active question it read: its answer and what it has committed before.
`none` is an exception that leaves the handler. -/
def acceptDraft (questionId : UUID) (body : String) (active : Option UUID) (db : Database) :
    Option (BotAnswer × Database) :=
  let unavailable : BotAnswer := { text := "Этот черновик больше недоступен." }
  if active ≠ some questionId then some (unavailable, db)
  else
    match ReplyDraftRepository.createVersion questionId body db with
    | (.ok draft, stored) =>
        some ({ text := renderPreview draft, parseMode := some .html,
                keyboardFor := some questionId }, stored)
    | (.error .draftUnavailable, _) => some (unavailable, db)
    | (.error _, _) => none

/-- `accept_sent_edit`. -/
def acceptSentEdit (questionId : UUID) (body : String) (db : Database) :
    Option (BotAnswer × Database) :=
  match OutboundCommandRepository.prepareEdit questionId body db with
  | (.ok preview, stored) =>
      some ({ text := renderSentEditPreview preview, parseMode := some .html,
              keyboardFor := some questionId }, stored)
  | (.error .confirmationUnavailable, _) =>
      some ({ text := "Отправленный ответ больше недоступен для изменения." }, db)
  | (.error _, _) => none

/-- The tags of the previews, and the entities of `html.escape`. -/
def previewMarkup : Vocabulary where
  tags := ["b".toList, "pre".toList]
  entities := telegramMarkup.entities

/-- Telegram delivers a message that can be read and whose visible text is not too long. -/
def Deliverable (answer : BotAnswer) : Prop :=
  ∃ shown, visible previewMarkup answer.text.toList = some shown ∧
    shown.length ≤ TELEGRAM_MESSAGE_LIMIT

/-- The draft and the titles of its question leave room for the 35 characters between them. -/
def DraftFits (db : Database) (questionId : UUID) (body : String) : Prop :=
  ∀ question, db.detectedQuestions.get? questionId = some question →
    ∀ chat, question.monitoredChatId.bind db.monitoredChats.get? = some chat →
      chat.title.length + (nonempty question.topicTitle "Без темы").length + body.length + 35 ≤
        TELEGRAM_MESSAGE_LIMIT

/-- The new text and the one it replaces leave room for the 30 characters between them. -/
def EditFits (db : Database) (questionId : UUID) (body : String) : Prop :=
  ∀ current, db.latestFinal? questionId = some current →
    current.text.length + body.length + 30 ≤ TELEGRAM_MESSAGE_LIMIT

section Rendering

/-- What a draft's preview shows. -/
def shownPreview (draft : StoredDraft) : String :=
  "Чат: " ++ draft.destination.chatTitle ++
    ("\nТема: " ++ nonempty draft.destination.topicTitle "Без темы" ++
      ("\n\nПредпросмотр ответа:\n" ++ draft.text))

/-- What the preview of an edit shows. -/
def shownSentEditPreview (preview : SentEditPreview) : String :=
  "Текущий ответ:\n" ++ preview.oldText ++ ("\n\nНовый ответ:\n" ++ preview.newText)

/-- A rendered text shows this text, whatever comes after it. -/
def ShowsText (text shown : String) : Prop := Shows previewMarkup text.toList shown.toList

variable {label text shown text' shown' : String}

theorem ShowsText.append (first : ShowsText text shown) (second : ShowsText text' shown') :
    ShowsText (text ++ text') (shown ++ shown') := by
  unfold ShowsText
  rw [String.toList_append, String.toList_append]
  exact Shows.append first second

theorem ShowsText.plain (plain : Plain text) : ShowsText text text :=
  .chars (Spells.plain plain.1 plain.2.1 plain.2.2)

theorem ShowsText.escape : ShowsText (escape text) text :=
  .chars (@spells_escapeChars previewMarkup rfl text.toList)

theorem ShowsText.bold (plain : Plain label) : ShowsText ("<b>" ++ label ++ "</b>") label := by
  unfold ShowsText
  rw [String.toList_append, String.toList_append]
  exact @Shows.element _ label.toList label.toList "b".toList (by decide) (by decide) (by decide)
    (ShowsText.plain plain)

theorem ShowsText.pre : ShowsText ("<pre>" ++ LeadAssistant.escape text ++ "</pre>") text := by
  unfold ShowsText
  rw [String.toList_append, String.toList_append]
  exact @Shows.element _ (LeadAssistant.escape text).toList text.toList "pre".toList (by decide)
    (by decide) (by decide) ShowsText.escape

/-- A bold label between plain texts. -/
theorem ShowsText.line {before label after : String}
    (plain : Plain before ∧ Plain label ∧ Plain after)
    (written : text = before ++ ("<b>" ++ label ++ "</b>") ++ after)
    (read_as : shown = before ++ label ++ after) : ShowsText text shown := by
  rw [written, read_as]
  exact ((ShowsText.plain plain.1).append (.bold plain.2.1)).append (.plain plain.2.2)

theorem renderPreview_shows {draft : StoredDraft} :
    ShowsText (renderPreview draft) (shownPreview draft) := by
  have chat : ShowsText "<b>Чат:</b> " "Чат: " :=
    @ShowsText.line _ _ "" "Чат:" " " (by decide) (by decide) (by decide)
  have topic : ShowsText "\n<b>Тема:</b> " "\nТема: " :=
    @ShowsText.line _ _ "\n" "Тема:" " " (by decide) (by decide) (by decide)
  have body : ShowsText "\n\n<b>Предпросмотр ответа:</b>\n" "\n\nПредпросмотр ответа:\n" :=
    @ShowsText.line _ _ "\n\n" "Предпросмотр ответа:" "\n" (by decide) (by decide) (by decide)
  have opening : "\n\n<b>Предпросмотр ответа:</b>\n<pre>" =
    "\n\n<b>Предпросмотр ответа:</b>\n" ++ "<pre>" := by decide
  have titles := (chat.append (@ShowsText.escape draft.destination.chatTitle)).append
    (topic.append (@ShowsText.escape (nonempty draft.destination.topicTitle "Без темы")))
  have whole := titles.append (body.append (@ShowsText.pre draft.text))
  unfold renderPreview shownPreview
  rw [opening]
  simp only [String.append_assoc] at whole ⊢
  exact whole

theorem renderSentEditPreview_shows {preview : SentEditPreview} :
    ShowsText (renderSentEditPreview preview) (shownSentEditPreview preview) := by
  have old : ShowsText "<b>Текущий ответ:</b>\n" "Текущий ответ:\n" :=
    @ShowsText.line _ _ "" "Текущий ответ:" "\n" (by decide) (by decide) (by decide)
  have new : ShowsText "\n\n<b>Новый ответ:</b>\n" "\n\nНовый ответ:\n" :=
    @ShowsText.line _ _ "\n\n" "Новый ответ:" "\n" (by decide) (by decide) (by decide)
  have opening : "<b>Текущий ответ:</b>\n<pre>" = "<b>Текущий ответ:</b>\n" ++ "<pre>" := by
    decide
  have between : "</pre>\n\n<b>Новый ответ:</b>\n<pre>" =
    "</pre>" ++ "\n\n<b>Новый ответ:</b>\n" ++ "<pre>" := by decide
  have whole := (old.append (@ShowsText.pre preview.oldText)).append
    (new.append (@ShowsText.pre preview.newText))
  unfold renderSentEditPreview shownSentEditPreview
  rw [opening, between]
  simp only [String.append_assoc] at whole ⊢
  exact whole

theorem length_shownPreview {draft : StoredDraft} : (shownPreview draft).length =
    draft.destination.chatTitle.length + (nonempty draft.destination.topicTitle "Без темы").length +
      draft.text.length + 35 := by
  have chat : "Чат: ".length = 5 := by decide
  have topic : "\nТема: ".length = 7 := by decide
  have body : "\n\nПредпросмотр ответа:\n".length = 23 := by decide
  unfold shownPreview
  simp only [String.length_append, chat, topic, body]
  omega

theorem length_shownSentEditPreview {preview : SentEditPreview} :
    (shownSentEditPreview preview).length =
      preview.oldText.length + preview.newText.length + 30 := by
  have old : "Текущий ответ:\n".length = 15 := by decide
  have new : "\n\nНовый ответ:\n".length = 15 := by decide
  unfold shownSentEditPreview
  simp only [String.length_append, old, new]
  omega

/-- A message is delivered if what it shows is short enough. -/
theorem deliverable_iff {answer : BotAnswer} (same : answer.text = text)
    (shows_text : ShowsText text shown) :
    Deliverable answer ↔ shown.length ≤ TELEGRAM_MESSAGE_LIMIT := by
  unfold Deliverable
  rw [same, shows_text.visible_eq]
  simp only [Option.some.injEq, exists_eq_left', String.length_toList]

end Rendering

section Handlers

variable {db stored : Database} {questionId : UUID} {body : String} {active : Option UUID}
  {answer : BotAnswer}

/-- A version that was created waits for confirmation, and the preview names its chat. -/
theorem createVersion_ok {draft : StoredDraft}
    (done : ReplyDraftRepository.createVersion questionId body db = (.ok draft, stored)) :
    stored.statusOf? questionId = some .waitingConfirmation ∧ draft.text = body ∧
      ∃ question chat, db.detectedQuestions.get? questionId = some question ∧
        question.monitoredChatId.bind db.monitoredChats.get? = some chat ∧
        draft.destination = ⟨question.id, chat.title, question.topicTitle⟩ := by
  unfold ReplyDraftRepository.createVersion at done
  split at done
  · cases done
  · rename_i question found
    split at done
    · cases done
    · dsimp only at done
      split at done
      · cases done
      · rename_i inserted insert
        split at done
        · cases done
        · rename_i destination named
          cases done
          rcases Option.map_eq_some_iff.1 insert with ⟨versions, _, rfl⟩
          unfold ReplyDraftRepository.destination at named
          split at named
          · cases named
          · rename_i chat of_question
            cases named
            refine ⟨?_, rfl, question, chat, found, of_question, rfl⟩
            rw [Database.statusOf?_setQuestionStatus, if_pos rfl]
            unfold Database.statusOf?
            rw [found]
            rfl

/-- The preview of an edit shows the final text and the new one. -/
theorem prepareEdit_ok {preview : SentEditPreview}
    (done : OutboundCommandRepository.prepareEdit questionId body db = (.ok preview, stored)) :
    preview.newText = body ∧ ∃ current, db.latestFinal? questionId = some current ∧
      preview.oldText = current.text := by
  unfold OutboundCommandRepository.prepareEdit at done
  split at done
  · cases done
  · split at done
    · cases done
    · split at done
      · rename_i current _ found _
        dsimp only at done
        split at done
        · cases done
        · cases done
          exact ⟨rfl, current, found, rfl⟩
      · cases done

/-- What `accept_draft` has committed is what the reply flow commits for a text. -/
theorem acceptDraft_commit {operatorUserId : Int}
    (accepted : acceptDraft questionId body active db = some (answer, stored)) :
    ReplyCall.commit operatorUserId (.text questionId body) active db = stored := by
  unfold acceptDraft at accepted
  unfold ReplyCall.commit Answer.committed
  dsimp only
  split at accepted
  · rename_i other
    cases accepted
    exact if_pos other
  · rename_i own
    rw [if_neg own]
    split at accepted
    · rename_i done
      cases accepted
      rw [done]
    · rename_i refused
      cases accepted
      rw [refused]
    · cases accepted

theorem acceptDraft_preview
    (accepted : acceptDraft questionId body active db = some (answer, stored))
    (isPreview : answer.keyboardFor = some questionId) :
    stored.statusOf? questionId = some .waitingConfirmation ∧
      (Deliverable answer ↔ DraftFits db questionId body) := by
  unfold acceptDraft at accepted
  dsimp only at accepted
  split at accepted
  · rcases Prod.mk.inj (Option.some.inj accepted) with ⟨rfl, _⟩
    exact absurd isPreview.symm (Option.some_ne_none _)
  · split at accepted
    · rename_i draft _ done
      rcases Prod.mk.inj (Option.some.inj accepted) with ⟨rfl, rfl⟩
      rcases createVersion_ok done with ⟨waiting, text, question, chat, found, of_question, named⟩
      have only : DraftFits db questionId body ↔ chat.title.length +
          (nonempty question.topicTitle "Без темы").length + body.length + 35 ≤
            TELEGRAM_MESSAGE_LIMIT := by
        unfold DraftFits
        simp only [found, Option.some.injEq, forall_eq', of_question]
      refine ⟨waiting, ?_⟩
      rw [only, ← text, @deliverable_iff (renderPreview draft) (shownPreview draft) _ rfl
        renderPreview_shows, length_shownPreview, named]
    · rcases Prod.mk.inj (Option.some.inj accepted) with ⟨rfl, _⟩
      exact absurd isPreview.symm (Option.some_ne_none _)
    · cases accepted

theorem acceptSentEdit_preview
    (accepted : acceptSentEdit questionId body db = some (answer, stored))
    (isPreview : answer.keyboardFor = some questionId) :
    Deliverable answer ↔ EditFits db questionId body := by
  unfold acceptSentEdit at accepted
  split at accepted
  · rename_i preview _ done
    rcases Prod.mk.inj (Option.some.inj accepted) with ⟨rfl, rfl⟩
    rcases prepareEdit_ok done with ⟨new, current, found, old⟩
    have only : EditFits db questionId body ↔
        current.text.length + body.length + 30 ≤ TELEGRAM_MESSAGE_LIMIT := by
      unfold EditFits
      simp only [found, Option.some.injEq, forall_eq']
    rw [only, ← old, ← new, @deliverable_iff (renderSentEditPreview preview)
      (shownSentEditPreview preview) _ rfl renderSentEditPreview_shows,
      length_shownSentEditPreview]
  · rcases Prod.mk.inj (Option.some.inj accepted) with ⟨rfl, _⟩
    exact absurd isPreview.symm (Option.some_ne_none _)
  · cases accepted

end Handlers

/-- Whatever the contents, the text and the titles: the preview that follows a committed version is
delivered exactly when the texts and titles it shows leave room for the words around them. -/
theorem preview_deliverable_iff {db stored : Database} {questionId : UUID} {body : String}
    {answer : BotAnswer} (isPreview : answer.keyboardFor = some questionId) :
    (∀ active, acceptDraft questionId body active db = some (answer, stored) →
      (Deliverable answer ↔ DraftFits db questionId body)) ∧
    (acceptSentEdit questionId body db = some (answer, stored) →
      (Deliverable answer ↔ EditFits db questionId body)) :=
  ⟨fun _ accepted => (acceptDraft_preview accepted isPreview).2,
    fun accepted => acceptSentEdit_preview accepted isPreview⟩

/-- A question without a topic, in the chat "Support". -/
def sampleQuestion (status : QuestionStatus) : DetectedQuestion where
  id := 7
  monitoredChatId := some 1
  telegramChatId := -100
  telegramMessageId := 40
  topicId := none
  topicTitle := none
  authorTelegramId := none
  authorDisplayName := none
  telegramCreatedAt := 0
  originalText := "How do we deploy?"
  translatedText := none
  sourceLanguage := none
  category := .technical
  confidence := 1
  status := status
  detectedAt := 0
  expiresAt := 0

/-- The operator writes a draft for it. -/
def sampleDrafting : Database where
  monitoredChats := ⟨[⟨1, -100, "Support", none, .supergroup, .active, none, 10, 0, none, none⟩],
    List.nodup_singleton _⟩
  detectedQuestions := ⟨[sampleQuestion .waitingForDraft], List.nodup_singleton _⟩

/-- It was answered with a text. -/
def sampleAnswered (text : String) : Database where
  detectedQuestions := ⟨[sampleQuestion .sent], List.nodup_singleton _⟩
  replyVersions := ⟨[⟨7, 2, text, .sent⟩], List.nodup_singleton _⟩
  outboundCommands := ⟨[{ OutboundCommandRepository.newSendCommand 20 0 (sampleQuestion .sent) 2
      text with status := .succeeded, sentMessageId := some 900 }], List.nodup_singleton _⟩

/-- Any text is accepted as a draft. -/
theorem sampleDrafting_accepts (body : String) : ∃ answer stored,
    acceptDraft 7 body (some 7) sampleDrafting = some (answer, stored) ∧
      answer.keyboardFor = some 7 :=
  ⟨_, _, rfl, rfl⟩

theorem sampleAnswered_accepts (text body : String) : ∃ answer stored,
    acceptSentEdit 7 body (sampleAnswered text) = some (answer, stored) ∧
      answer.keyboardFor = some 7 :=
  ⟨_, _, rfl, rfl⟩

/-- A draft fits as long as it leaves room for "Support" and "Без темы". -/
theorem sampleDrafting_fits_iff {body : String} :
    DraftFits sampleDrafting 7 body ↔ body.length ≤ 4046 := by
  have titles : "Support".length + (nonempty none "Без темы").length = 15 := by decide
  constructor
  · intro fits
    have short : "Support".length + (nonempty none "Без темы").length + body.length + 35 ≤ 4096 :=
      fits (sampleQuestion .waitingForDraft) rfl _ rfl
    omega
  · intro short question found chat of_question
    cases found
    cases of_question
    show "Support".length + (nonempty none "Без темы").length + body.length + 35 ≤ 4096
    omega

theorem preview_deliverable_iff_sample :
    (∃ answer stored, acceptDraft 7 "With make." (some 7) sampleDrafting = some (answer, stored) ∧
      Deliverable answer) ∧
    ∃ answer stored, acceptSentEdit 7 "With make." (sampleAnswered "With the script.") =
      some (answer, stored) ∧ Deliverable answer := by
  constructor
  · rcases sampleDrafting_accepts "With make." with ⟨answer, stored, accepted, isPreview⟩
    refine ⟨answer, stored, accepted, ?_⟩
    exact ((preview_deliverable_iff isPreview).1 _ accepted).2
      (sampleDrafting_fits_iff.2 (by decide))
  · rcases sampleAnswered_accepts "With the script." "With make." with
      ⟨answer, stored, accepted, isPreview⟩
    refine ⟨answer, stored, accepted, ?_⟩
    refine ((preview_deliverable_iff isPreview).2 accepted).2 (fun current found => ?_)
    cases found
    decide

/-- A draft of 4096 characters is stored and waits for a confirmation that Telegram never shows. -/
theorem long_draft_undeliverable : ∃ answer stored,
    acceptDraft 7 (String.ofList (List.replicate 4096 'a')) (some 7) sampleDrafting =
      some (answer, stored) ∧ answer.keyboardFor = some 7 ∧
    stored.statusOf? 7 = some .waitingConfirmation ∧ ¬ Deliverable answer := by
  rcases sampleDrafting_accepts (String.ofList (List.replicate 4096 'a')) with
    ⟨answer, stored, accepted, isPreview⟩
  rcases acceptDraft_preview accepted isPreview with ⟨waiting, deliverable⟩
  refine ⟨answer, stored, accepted, isPreview, waiting, ?_⟩
  rw [deliverable, sampleDrafting_fits_iff, String.length_ofList, List.length_replicate]
  omega

end LeadAssistant
