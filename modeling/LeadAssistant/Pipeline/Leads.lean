/-
Module: LeadAssistant.Pipeline.Leads
Layer: Pipeline
Purpose: When a relevant lead is persisted. On the chain that the loader has published, `persist`
  stores the question, its chain rows and its notification exactly if the target itself was
  available and every value fits its column.
Trusted boundary: none
Main exports: Published, LeavesLead, Persistable, relevant_lead_persisted_iff
-/
import LeadAssistant.Pipeline.Outcomes
import LeadAssistant.Listener.LoadedChain

namespace LeadAssistant

/-- The columns for a translation hold it. -/
def TranslationResult.fits (result : TranslationResult) : Bool :=
  result.translatedText.all fitsText && result.sourceLanguage.all (fitsVarchar 10)

/-- The items of a chain that are messages. -/
def ReplyChain.available (chain : ReplyChain) : List ReplyChainItem :=
  chain.items.filter (fun item => !item.isUnavailable)

end LeadAssistant

namespace LeadAssistant.Pipeline

open Relational ReplyChainLoader RelevantQuestionPersistenceService

/-- An item with a text and a time. -/
def Complete (item : ReplyChainItem) : Prop :=
  ∃ text telegramCreatedAt,
    item.text = some text ∧ item.telegramCreatedAt = some telegramCreatedAt

/-- The translation of the item at a position. -/
def translated (service : Option TranslationService) (position : Nat) (item : ReplyChainItem) :
    TranslationResult :=
  RelevantQuestionPersistenceService.translate service position (item.text.getD "")

/-- The row of a complete item. -/
def chainRow (service : Option TranslationService) (questionId : UUID) (position : Nat)
    (item : ReplyChainItem) : QuestionChainMessage where
  questionId := questionId
  position := position
  telegramMessageId := item.telegramMessageId
  replyToMessageId := item.replyToMessageId
  authorTelegramId := item.authorTelegramId
  authorDisplayName := item.authorDisplayName
  telegramCreatedAt := item.telegramCreatedAt.getD 0
  originalText := item.text.getD ""
  translatedText := (translated service position item).translatedText
  sourceLanguage := (translated service position item).sourceLanguage
  translationStatus := (translated service position item).status
  isTarget := item.isTarget

section Rows

variable {service : Option TranslationService} {questionId : UUID} {items : List ReplyChainItem}
  {db u : Database} {row : QuestionChainMessage} {rows : List QuestionChainMessage}

/-- Every complete item is translated once. -/
theorem translations_eq (complete : ∀ item ∈ items, Complete item) :
    translations service items = items.mapIdx (translated service) := by
  have texts : items.filterMap (fun item => item.text) =
      items.map (fun item => item.text.getD "") := by
    rw [← List.filterMap_eq_map']
    apply List.filterMap_congr
    intro item held
    rcases complete item held with ⟨text, _, has_text, _⟩
    rw [has_text]
    rfl
  unfold translations
  rw [texts]
  apply List.ext_getElem?
  intro i
  rw [List.getElem?_mapIdx, List.getElem?_mapIdx, List.getElem?_map, Option.map_map]
  rfl

theorem chainMessages_eq (complete : ∀ item ∈ items, Complete item) (position : Nat) :
    chainMessages questionId position
        (items.zip (items.mapIdx (fun i => translated service (position + i)))) =
      .ok (items.mapIdx (fun i => chainRow service questionId (position + i))) := by
  induction items generalizing position with
  | nil => rfl
  | cons item items ih =>
      rcases complete item List.mem_cons_self with ⟨text, telegramCreatedAt, has_text, has_time⟩
      have rest := ih (fun other held => complete other (List.mem_cons_of_mem _ held)) (position + 1)
      have shift : ∀ i, position + 1 + i = position + (i + 1) := by
        intro i
        omega
      simp only [shift] at rest
      rw [List.mapIdx_cons, List.mapIdx_cons, List.zip_cons_cons]
      unfold chainMessages chainMessage
      rw [has_text, has_time]
      dsimp only
      rw [rest]
      simp [chainRow, has_text, has_time, bind, Except.bind, pure, Except.pure]

/-- Two rows that can stand beside each other. -/
def Apart (a b : QuestionChainMessage) : Prop :=
  a.questionId = b.questionId → a.position ≠ b.position ∧ a.telegramMessageId ≠ b.telegramMessageId

theorem insertChainMessage_eq (storable : row.storable = true)
    (free : ∀ other ∈ db.questionChainMessages, Apart other row) :
    ∃ table, db.insertChainMessage row = .ok (db.setQuestionChainMessages table) ∧
      table.rows = db.questionChainMessages.rows ++ [row] := by
  have new_message : db.questionChainMessages.rows.any (fun other =>
      other.questionId = row.questionId && other.telegramMessageId = row.telegramMessageId) =
        false := by
    rw [List.any_eq_false]
    intro other held taken
    simp only [Bool.and_eq_true, decide_eq_true_eq] at taken
    exact (free other held taken.1).2 taken.2
  have new_key : ∀ other ∈ db.questionChainMessages,
      QuestionChainMessage.key other ≠ QuestionChainMessage.key row := by
    intro other held same
    unfold QuestionChainMessage.key at same
    simp only [Prod.mk.injEq] at same
    exact (free other held same.1).1 same.2
  rcases Table.exists_insert? new_key with ⟨table, inserted⟩
  refine ⟨table, ?_, Table.rows_insert? inserted⟩
  unfold Database.insertChainMessage
  rw [storable, new_message, inserted]
  rfl

theorem insertChainMessages_eq (storable : ∀ row ∈ rows, row.storable = true)
    (separate : rows.Pairwise Apart)
    (free : ∀ row ∈ rows, ∀ other ∈ db.questionChainMessages, Apart other row) :
    ∃ table, rows.foldlM Database.insertChainMessage db =
        .ok (db.setQuestionChainMessages table) ∧
      table.rows = db.questionChainMessages.rows ++ rows := by
  induction rows generalizing db with
  | nil => exact ⟨db.questionChainMessages, rfl, (List.append_nil _).symm⟩
  | cons row rows ih =>
      rw [List.pairwise_cons] at separate
      rcases insertChainMessage_eq (storable row List.mem_cons_self) (free row List.mem_cons_self)
        with ⟨table, inserted, first⟩
      have later : ∀ next ∈ rows, ∀ other ∈ table, Apart other next := by
        intro next held other there
        rw [← Table.mem_rows, first, List.mem_append] at there
        rcases there with before | last
        · exact free next (List.mem_cons_of_mem _ held) other before
        · rw [List.mem_singleton.1 last]
          exact separate.1 next held
      rcases @ih (db.setQuestionChainMessages table)
        (fun other held => storable other (List.mem_cons_of_mem _ held)) separate.2 later
        with ⟨chained, folded, all⟩
      refine ⟨chained, ?_, ?_⟩
      · rw [List.foldlM_cons, inserted]
        exact folded
      · rw [all]
        show table.rows ++ rows = _
        rw [first, List.append_assoc]
        rfl

/-- A row that its columns cannot hold stops the insertion. -/
theorem storable_of_insertChainMessages
    (inserted : rows.foldlM Database.insertChainMessage db = .ok u) :
    ∀ row ∈ rows, row.storable = true := by
  induction rows generalizing db with
  | nil => exact fun _ held => absurd held List.not_mem_nil
  | cons row rows ih =>
      rw [List.foldlM_cons] at inserted
      rcases Except.bind_eq_ok_iff.1 inserted with ⟨next, first, rest⟩
      intro other held
      rcases List.mem_cons.1 held with rfl | later
      · cases storable : other.storable with
        | true => rfl
        | false =>
            unfold Database.insertChainMessage at first
            rw [storable] at first
            cases first
      · exact ih rest other later

end Rows

/-- The listener has published the chain of a job. -/
def Published (timestamps : TimestampCodec) (source : ReplyMessageSource) (job : ProcessingJob) :
    Prop :=
  ∃ chain, getReplyChain source job.telegramChatId job.telegramMessageId = some chain ∧
    (serializeReplyChain timestamps chain).storable = true ∧
    job.replyChainSnapshot = some (serializeReplyChain timestamps chain)

/-- A relevant job without a question, whose chain is published. Its row is stored, and the id of
the new question is not used. -/
structure Lead (timestamps : TimestampCodec) (source : ReplyMessageSource) (job : ProcessingJob)
    (newId : UUID) (db : Database) : Prop where
  awaiting : job.status = .awaitingRelevantProcessing
  published : Published timestamps source job
  stored : job.storable = true
  relevant : ∃ run ∈ db.classificationRuns, run.telegramChatId = job.telegramChatId ∧
    run.telegramMessageId = job.telegramMessageId ∧ run.result = .relevant
  undetected : db.questionFor? job.telegramChatId job.telegramMessageId = none
  newQuestion : ∀ question ∈ db.detectedQuestions, question.id ≠ newId
  newChain : ∀ row ∈ db.questionChainMessages, row.questionId ≠ newId
  newNotification : ∀ notification ∈ db.botNotifications, notification.questionId ≠ newId

/-- What `persist` is to leave of a lead. -/
structure LeavesLead (u : Database) (job : ProcessingJob) (chain : ReplyChain) (questionId : UUID) :
    Prop where
  question : ∃ question, question.id = questionId ∧ question.originalText = job.messageText ∧
    u.detectedQuestions.IsOnly (fun other => other.telegramChatId = job.telegramChatId ∧
      other.telegramMessageId = job.telegramMessageId) question
  rows : ∃ before target,
    u.questionChainMessages.rows.filter (fun row => row.questionId = questionId) =
      before ++ [target] ∧
    (before ++ [target]).map (fun row => row.position) = List.range (before.length + 1) ∧
    (before ++ [target]).map (fun row => (row.telegramMessageId, some row.originalText)) =
      chain.available.map (fun item => (item.telegramMessageId, item.text)) ∧
    target.isTarget = true ∧ target.telegramMessageId = job.telegramMessageId ∧
    ∀ row ∈ before, row.isTarget = false
  notification : ∃ notification,
    u.botNotifications.IsOnly (fun other => other.questionId = questionId) notification
  noJob : u.processingJobs.get? job.id = none

/-- The target was there when its chain was loaded, and its title, its authors and the answers of
the translator fit their columns. -/
structure Persistable (source : ReplyMessageSource) (service : Option TranslationService)
    (job : ProcessingJob) (chain : ReplyChain) : Prop where
  target : ∃ message,
    source.getReplyMessage job.telegramChatId job.telegramMessageId = some message ∧
      message.telegramChatId = job.telegramChatId
  title : ∀ title, chain.topicTitle = some title → title.length ≤ 255
  authors : ∀ item ∈ chain.available, ∀ name, item.authorDisplayName = some name →
    name.length ≤ 255
  answers : ∀ translator, service = some translator →
    ∀ (i : Nat) (item : ReplyChainItem) (text : String), chain.available[i]? = some item →
      item.text = some text → ∀ language result, translator.detectLanguage i text = some language →
        translator.translateToRussian i text language = some result → result.fits = true

section Published

variable {timestamps : TimestampCodec} {source : ReplyMessageSource} {job : ProcessingJob}
  {chain : ReplyChain} {older : List ReplyChainItem} {db u : Database} {now : Time}
  {service : Option TranslationService}

/-- The snapshot is the chain that was loaded. -/
theorem Published.read (published : Published timestamps source job)
    (read : job.replyChainSnapshot.bind (deserializeReplyChain timestamps) = some chain) :
    getReplyChain source job.telegramChatId job.telegramMessageId = some chain ∧
      (serializeReplyChain timestamps chain).storable = true := by
  rcases published with ⟨other, loaded, storable, snapshot⟩
  rw [snapshot, Option.bind_some, deserialize_serialize] at read
  cases read
  exact ⟨loaded, storable⟩

theorem fitsText_of_encodeNullable {value : Option String}
    (storable : (Json.Codec.text.encodeNullable value).storable = true) :
    value.all fitsText = true := by
  cases value with
  | none => rfl
  | some text =>
      unfold Json.Codec.encodeNullable at storable
      simpa [Json.Codec.text, Json.storable, fitsText] using storable

/-- A stored snapshot holds no text with a NUL character. -/
theorem texts_of_storable (storable : (serializeReplyChain timestamps chain).storable = true) :
    chain.topicTitle.all fitsText = true ∧ ∀ item ∈ chain.items,
      item.authorDisplayName.all fitsText = true ∧ item.text.all fitsText = true := by
  unfold serializeReplyChain Json.storable at storable
  rw [Json.storableFields_iff] at storable
  constructor
  · apply fitsText_of_encodeNullable
    exact storable ("topic_title", Json.Codec.text.encodeNullable chain.topicTitle) (by simp)
  · intro item held
    have items := storable ("items", (itemCodec timestamps).list.encode chain.items) (by simp)
    have items : Json.storableItems (chain.items.map (encodeItem timestamps)) = true := by
      unfold Json.storable at items
      exact items
    rw [Json.storableItems_iff] at items
    have fields := items (encodeItem timestamps item) (List.mem_map_of_mem held)
    unfold encodeItem Json.storable at fields
    rw [Json.storableFields_iff] at fields
    constructor
    · apply fitsText_of_encodeNullable
      exact fields ("author_display_name", Json.Codec.text.encodeNullable item.authorDisplayName)
        (by simp)
    · apply fitsText_of_encodeNullable
      exact fields ("text", Json.Codec.text.encodeNullable item.text) (by simp)

/-- The available items, with the target last if it is one of them. -/
theorem available_eq (loaded : LoadedChain source job.telegramChatId job.telegramMessageId chain
      older) :
    chain.available = older.filter (fun item => !item.isUnavailable) ++
      if (markedItem source job.telegramChatId job.telegramMessageId).isUnavailable then []
      else [markedItem source job.telegramChatId job.telegramMessageId] := by
  unfold ReplyChain.available
  rw [loaded.items, List.filter_append]
  congr 1
  split
  · rename_i unavailable
    simp [unavailable]
  · rename_i available
    simp [available]

theorem complete_of_available
    (loaded : LoadedChain source job.telegramChatId job.telegramMessageId chain older) :
    ∀ item ∈ chain.available, Complete item := by
  intro item held
  unfold ReplyChain.available at held
  rw [List.mem_filter, loaded.items] at held
  have available : item.isUnavailable = false := by simpa using held.2
  rcases List.mem_append.1 held.1 with before | last
  · exact (loaded.loaded item before).complete available
  · cases List.mem_singleton.1 last
    exact (@targetItem_loaded source _ _).complete available

/-- The answers of the translator are what decides, as a failure stores nothing. -/
theorem translated_fits_iff {items : List ReplyChainItem}
    (complete : ∀ item ∈ items, Complete item) :
    (∀ (i : Nat) (item : ReplyChainItem), items[i]? = some item →
        (translated service i item).fits = true) ↔
      ∀ translator, service = some translator →
        ∀ (i : Nat) (item : ReplyChainItem) (text : String), items[i]? = some item →
          item.text = some text → ∀ language result,
            translator.detectLanguage i text = some language →
            translator.translateToRussian i text language = some result → result.fits = true := by
  constructor
  · rintro fits translator rfl i item text there has_text language result detected answered
    have fit := fits i item there
    unfold translated RelevantQuestionPersistenceService.translate at fit
    rw [has_text] at fit
    simpa [detected, answered] using fit
  · intro answers i item there
    rcases complete item (List.mem_of_getElem? there) with ⟨text, _, has_text, _⟩
    unfold translated RelevantQuestionPersistenceService.translate
    rw [has_text]
    cases used : service with
    | none => rfl
    | some translator =>
        dsimp only [Option.getD_some]
        cases detected : translator.detectLanguage i text with
        | none => rfl
        | some language =>
            dsimp only [Option.bind_some]
            cases answered : translator.translateToRussian i text language with
            | none => rfl
            | some result =>
                exact answers translator used i item text there has_text language result detected
                  answered

end Published

section Persisting

variable {timestamps : TimestampCodec} {source : ReplyMessageSource} {job : ProcessingJob}
  {chain : ReplyChain} {older : List ReplyChainItem} {db u : Database} {now : Time}
  {service : Option TranslationService} {newId questionId : UUID} {operatorTelegramUserId : Int}

/-- The statements of `persist`. -/
def insertions (operatorTelegramUserId : Int) (job : ProcessingJob) (newId : UUID) (now : Time)
    (question : DetectedQuestion) (rows : List QuestionChainMessage) (db : Database) :
    Except HandlerError (UUID × Database) := do
  let asked ← db.insertDetectedQuestion question
  let chained ← rows.foldlM Database.insertChainMessage asked
  let notified ← chained.insertBotNotification (newNotification newId operatorTelegramUserId now)
  pure (newId, JobRepository.complete job.id notified)

/-- `persist` on a lead, up to the position of its target. -/
theorem persist_eq (lead : Lead timestamps source job newId db)
    (loaded : LoadedChain source job.telegramChatId job.telegramMessageId chain older) :
    ∃ classification, persist operatorTelegramUserId service job chain newId now db =
      match (chain.available.idxOf?
          (markedItem source job.telegramChatId job.telegramMessageId)).bind
            (fun i => (chain.available.mapIdx (translated service))[i]?) with
      | none => .error .valueError
      | some translation =>
          insertions operatorTelegramUserId job newId now
            (newQuestion newId job chain classification translation now)
            (chain.available.mapIdx (chainRow service newId)) db := by
  have complete := complete_of_available loaded
  have classified : ∃ classification, finalClassification? job db = some classification := by
    rcases lead.relevant with ⟨run, held, chat, message, result⟩
    unfold finalClassification?
    rw [← Option.isSome_iff_exists, Option.isSome_iff_ne_none]
    intro nothing
    have skipped := Table.lastBy_eq_none_iff.1 nothing run held
    simp [chat, message, result] at skipped
  rcases classified with ⟨classification, classified⟩
  refine ⟨classification, ?_⟩
  have rows := @chainMessages_eq service newId _ complete 0
  simp only [Nat.zero_add] at rows
  unfold persist
  rw [if_neg (not_not.2 lead.awaiting), if_neg (not_not.2 loaded.chat), lead.undetected]
  dsimp only
  rw [classified, loaded.targets]
  dsimp only
  rw [if_neg (not_not.2 markedItem_id)]
  have view : chain.items.filter (fun item => !item.isUnavailable) = chain.available := rfl
  rw [view, translations_eq complete, List.length_mapIdx, if_neg (not_not.2 rfl)]
  cases (chain.available.idxOf? (markedItem source job.telegramChatId
      job.telegramMessageId)).bind (fun i => (chain.available.mapIdx (translated service))[i]?) with
  | none => rfl
  | some translation =>
      dsimp only
      rw [rows]
      rfl

/-- An unavailable target is not in the list that is searched for it. -/
theorem persist_of_unavailable (lead : Lead timestamps source job newId db)
    (loaded : LoadedChain source job.telegramChatId job.telegramMessageId chain older)
    (unavailable : (markedItem source job.telegramChatId job.telegramMessageId).isUnavailable =
      true) :
    persist operatorTelegramUserId service job chain newId now db = .error .valueError := by
  rcases @persist_eq _ _ _ _ _ _ now service _ operatorTelegramUserId lead loaded with
    ⟨classification, same⟩
  have absent : chain.available.idxOf?
      (markedItem source job.telegramChatId job.telegramMessageId) = none := by
    rw [List.idxOf?_eq_none_iff]
    intro held
    unfold ReplyChain.available at held
    rw [List.mem_filter, unavailable] at held
    exact absurd held.2 (by decide)
  rw [same, absent]
  rfl

/-- An available target is the last of the available items. -/
theorem persist_of_available (lead : Lead timestamps source job newId db)
    (loaded : LoadedChain source job.telegramChatId job.telegramMessageId chain older)
    (available : (markedItem source job.telegramChatId job.telegramMessageId).isUnavailable =
      false) :
    ∃ classification front,
      chain.available = front ++ [markedItem source job.telegramChatId job.telegramMessageId] ∧
      (∀ item ∈ front, item.isTarget = false) ∧
      persist operatorTelegramUserId service job chain newId now db =
        insertions operatorTelegramUserId job newId now
          (newQuestion newId job chain classification (translated service front.length
            (markedItem source job.telegramChatId job.telegramMessageId)) now)
          (chain.available.mapIdx (chainRow service newId)) db := by
  rcases @persist_eq _ _ _ _ _ _ now service _ operatorTelegramUserId lead loaded with
    ⟨classification, same⟩
  have items := available_eq loaded
  rw [if_neg (by simp [available])] at items
  have unmarked : ∀ item ∈ older.filter (fun item => !item.isUnavailable),
      item.isTarget = false :=
    fun item held => (loaded.loaded item (List.mem_filter.1 held).1).notTarget
  refine ⟨classification, _, items, unmarked, ?_⟩
  have absent : (older.filter (fun item => !item.isUnavailable)).idxOf?
      (markedItem source job.telegramChatId job.telegramMessageId) = none := by
    rw [List.idxOf?_eq_none_iff]
    intro held
    exact absurd (unmarked _ held) (by simp [markedItem])
  have position : chain.available.idxOf?
      (markedItem source job.telegramChatId job.telegramMessageId) =
        some (older.filter (fun item => !item.isUnavailable)).length := by
    rw [items]
    unfold List.idxOf? at absent ⊢
    rw [List.findIdx?_append, absent]
    simp
  have translation : (chain.available.mapIdx (translated service))[
      (older.filter (fun item => !item.isUnavailable)).length]? =
        some (translated service (older.filter (fun item => !item.isUnavailable)).length
          (markedItem source job.telegramChatId job.telegramMessageId)) := by
    rw [List.getElem?_mapIdx, items, List.getElem?_concat_length]
    rfl
  rw [same, position, Option.bind_some, translation]

/-- What the statements leave when every row fits its columns. -/
theorem insertions_eq {question : DetectedQuestion} {rows : List QuestionChainMessage}
    (lead : Lead timestamps source job newId db) (id_eq : question.id = newId)
    (chat : question.telegramChatId = job.telegramChatId)
    (message : question.telegramMessageId = job.telegramMessageId)
    (storable : question.storable = true) (rows_storable : ∀ row ∈ rows, row.storable = true)
    (own : ∀ row ∈ rows, row.questionId = newId) (separate : rows.Pairwise Apart) :
    ∃ u, insertions operatorTelegramUserId job newId now question rows db = .ok (newId, u) ∧
      db.detectedQuestions.insert? question = some u.detectedQuestions ∧
      u.questionChainMessages.rows = db.questionChainMessages.rows ++ rows ∧
      db.botNotifications.insert? (newNotification newId operatorTelegramUserId now) =
        some u.botNotifications ∧
      u.processingJobs = db.processingJobs.erase job.id := by
  have new_id : ∀ other ∈ db.detectedQuestions, other.id ≠ question.id := by
    rw [id_eq]
    exact lead.newQuestion
  rcases Table.exists_insert? new_id with ⟨questions, asked⟩
  have asking : db.insertDetectedQuestion question = .ok (db.setDetectedQuestions questions) := by
    unfold Database.insertDetectedQuestion
    rw [storable, chat, message, lead.undetected, asked]
    rfl
  have free : ∀ row ∈ rows, ∀ other ∈ (db.setDetectedQuestions questions).questionChainMessages,
      Apart other row := by
    intro row held other there same
    exact absurd (same.trans (own row held)) (lead.newChain other there)
  rcases insertChainMessages_eq rows_storable separate free with ⟨table, chaining, all⟩
  have new_key : ∀ other ∈ db.botNotifications,
      other.questionId ≠ (newNotification newId operatorTelegramUserId now).questionId :=
    lead.newNotification
  rcases Table.exists_insert? new_key with ⟨notifications, told⟩
  have telling : ((db.setDetectedQuestions questions).setQuestionChainMessages
      table).insertBotNotification (newNotification newId operatorTelegramUserId now) =
        .ok (((db.setDetectedQuestions questions).setQuestionChainMessages
          table).setBotNotifications notifications) := by
    unfold Database.insertBotNotification
    have before : ((db.setDetectedQuestions questions).setQuestionChainMessages
        table).botNotifications = db.botNotifications := rfl
    rw [before, told]
  refine ⟨JobRepository.complete job.id (((db.setDetectedQuestions questions).setQuestionChainMessages
    table).setBotNotifications notifications), ?_, asked, all, told, rfl⟩
  unfold insertions
  rw [asking]
  show (rows.foldlM Database.insertChainMessage (db.setDetectedQuestions questions)).bind _ = _
  rw [chaining]
  show (Database.insertBotNotification _ _).bind _ = _
  rw [telling]
  rfl

/-- The statements stop at a value that its column cannot hold. -/
theorem storable_of_insertions {question : DetectedQuestion} {rows : List QuestionChainMessage}
    (ok : insertions operatorTelegramUserId job newId now question rows db = .ok (questionId, u)) :
    question.storable = true ∧ ∀ row ∈ rows, row.storable = true := by
  unfold insertions at ok
  rcases Except.bind_eq_ok_iff.1 ok with ⟨asked, asking, ok⟩
  rcases Except.bind_eq_ok_iff.1 ok with ⟨chained, chaining, _⟩
  constructor
  · cases storable : question.storable with
    | true => rfl
    | false =>
        unfold Database.insertDetectedQuestion at asking
        rw [storable] at asking
        cases asking
  · exact storable_of_insertChainMessages chaining

theorem chainRows_apart {items : List ReplyChainItem}
    (distinct : (items.map (fun item => item.telegramMessageId)).Nodup) :
    (items.mapIdx (chainRow service newId)).Pairwise Apart := by
  rw [List.pairwise_iff_getElem]
  intro i j hi hj before _
  rw [List.length_mapIdx] at hi hj
  unfold List.Nodup at distinct
  rw [List.pairwise_iff_getElem] at distinct
  have apart := distinct i j (by simpa using hi) (by simpa using hj) before
  rw [List.getElem_map, List.getElem_map] at apart
  rw [List.getElem_mapIdx, List.getElem_mapIdx]
  exact ⟨before.ne, apart⟩

theorem chainRow_storable_iff {position : Nat} {item : ReplyChainItem} :
    (chainRow service questionId position item).storable = true ↔
      position ≤ 9 ∧ item.authorDisplayName.all (fitsVarchar 255) = true ∧
        fitsText (item.text.getD "") = true ∧ (translated service position item).fits = true := by
  unfold QuestionChainMessage.storable TranslationResult.fits
  simp only [Bool.and_eq_true, decide_eq_true_eq, and_assoc]
  exact Iff.rfl

theorem newQuestion_storable_iff {classification : ClassificationRun}
    {translation : TranslationResult} :
    (newQuestion newId job chain classification translation now).storable = true ↔
      chain.topicTitle.all (fitsVarchar 255) = true ∧ job.storable = true ∧
        translation.fits = true := by
  simp only [DetectedQuestion.storable, newQuestion, ProcessingJob.storable,
    TranslationResult.fits, Bool.and_eq_true]
  tauto

/-- A text without NUL characters fits a `VARCHAR` column by its length. -/
theorem all_fitsVarchar_iff {n : Nat} {value : Option String} (text : value.all fitsText = true) :
    value.all (fitsVarchar n) = true ↔ ∀ s, value = some s → s.length ≤ n := by
  cases value with
  | none => simp
  | some s =>
      have fits : fitsText s = true := text
      simp [fitsVarchar, fits]

theorem all_fitsText_of_varchar {n : Nat} {value : Option String}
    (fits : value.all (fitsVarchar n) = true) : ∀ s, value = some s → s.length ≤ n := by
  rintro s rfl
  have both : fitsVarchar n s = true := fits
  unfold fitsVarchar at both
  simpa using (Bool.and_eq_true_iff.1 both).1

theorem chainRows_positions {items : List ReplyChainItem} :
    (items.mapIdx (chainRow service questionId)).map (fun row => row.position) =
      List.range items.length := by
  apply List.ext_getElem
  · simp
  · intro i _ _
    simp [chainRow]

theorem chainRows_messages {items : List ReplyChainItem}
    (complete : ∀ item ∈ items, Complete item) :
    (items.mapIdx (chainRow service questionId)).map
        (fun row => (row.telegramMessageId, some row.originalText)) =
      items.map (fun item => (item.telegramMessageId, item.text)) := by
  apply List.ext_getElem
  · simp
  · intro i _ there
    rw [List.length_map] at there
    rcases complete items[i] (List.getElem_mem there) with ⟨text, _, has_text, _⟩
    simp [chainRow, has_text]

/-- The rows of the statements are what a lead is to leave. -/
theorem leavesLead_of_inserted {question : DetectedQuestion} {front : List ReplyChainItem}
    {target : ReplyChainItem} (lead : Lead timestamps source job newId db)
    (id_eq : question.id = newId) (text : question.originalText = job.messageText)
    (chat : question.telegramChatId = job.telegramChatId)
    (message : question.telegramMessageId = job.telegramMessageId)
    (items : chain.available = front ++ [target]) (marked : target.isTarget = true)
    (target_id : target.telegramMessageId = job.telegramMessageId)
    (unmarked : ∀ item ∈ front, item.isTarget = false)
    (complete : ∀ item ∈ chain.available, Complete item)
    (asked : db.detectedQuestions.insert? question = some u.detectedQuestions)
    (chained : u.questionChainMessages.rows =
      db.questionChainMessages.rows ++ chain.available.mapIdx (chainRow service newId))
    (told : db.botNotifications.insert? (newNotification newId operatorTelegramUserId now) =
      some u.botNotifications)
    (erased : u.processingJobs = db.processingJobs.erase job.id) :
    LeavesLead u job chain newId := by
  constructor
  · have none_yet : db.detectedQuestions.Lacks (fun other =>
        other.telegramChatId = job.telegramChatId ∧
          other.telegramMessageId = job.telegramMessageId) := by
      intro other held same
      have absent := List.find?_eq_none.1 lead.undetected other held
      simp [same.1, same.2] at absent
    exact ⟨question, id_eq, text, none_yet.insert? asked ⟨chat, message⟩⟩
  · have old : db.questionChainMessages.rows.filter (fun row => row.questionId = newId) = [] := by
      rw [List.filter_eq_nil_iff]
      intro row held
      simpa using lead.newChain row held
    have new : (chain.available.mapIdx (chainRow service newId)).filter
        (fun row => row.questionId = newId) = chain.available.mapIdx (chainRow service newId) := by
      rw [List.filter_eq_self]
      intro row held
      rcases List.mem_mapIdx.1 held with ⟨i, _, rfl⟩
      simp [chainRow]
    have split : chain.available.mapIdx (chainRow service newId) =
        front.mapIdx (chainRow service newId) ++ [chainRow service newId front.length target] := by
      rw [items, List.mapIdx_concat]
    refine ⟨front.mapIdx (chainRow service newId), chainRow service newId front.length target,
      ?_, ?_, ?_, marked, target_id, ?_⟩
    · rw [chained, List.filter_append, old, new, List.nil_append, split]
    · rw [← split, chainRows_positions, items, List.length_mapIdx, List.length_append]
      rfl
    · rw [← split]
      exact chainRows_messages complete
    · intro row held
      rcases List.mem_mapIdx.1 held with ⟨i, there, rfl⟩
      exact unmarked _ (List.getElem_mem there)
  · exact ⟨_, (Table.isOnly_key ((Table.mem_insert? told).2 (Or.inr rfl)))⟩
  · rw [erased, Table.get?_erase, if_pos rfl]

/-- A relevant lead is persisted, with everything that the operator is to see, if and only if its
target was there when the chain was loaded and every value fits its column. -/
theorem relevant_lead_persisted_iff (lead : Lead timestamps source job newId db)
    (read : job.replyChainSnapshot.bind (deserializeReplyChain timestamps) = some chain) :
    (∃ u, persist operatorTelegramUserId service job chain newId now db = .ok (newId, u) ∧
        LeavesLead u job chain newId) ↔ Persistable source service job chain := by
  rcases lead.published.read read with ⟨loads, snapshot⟩
  rcases loadedChain_of_getReplyChain loads with ⟨older, loaded⟩
  have complete := complete_of_available loaded
  have texts := texts_of_storable snapshot
  have from_items : ∀ item ∈ chain.available, item ∈ chain.items :=
    fun item held => (List.mem_filter.1 held).1
  constructor
  · rintro ⟨u, ok, _⟩
    cases available :
        (markedItem source job.telegramChatId job.telegramMessageId).isUnavailable with
    | true =>
        rw [persist_of_unavailable lead loaded available] at ok
        cases ok
    | false =>
        rcases @persist_of_available _ _ _ _ _ _ now service _ operatorTelegramUserId lead loaded
          available with ⟨classification, front, items, unmarked, same⟩
        rw [same] at ok
        rcases storable_of_insertions ok with ⟨question, rows⟩
        rw [newQuestion_storable_iff] at question
        have rows : ∀ (i : Nat) (item : ReplyChainItem), chain.available[i]? = some item →
            (chainRow service newId i item).storable = true := by
          intro i item there
          apply rows
          apply List.mem_of_getElem? (i := i)
          rw [List.getElem?_mapIdx, there]
          rfl
        constructor
        · exact markedItem_available_iff.1 available
        · exact all_fitsText_of_varchar question.1
        · intro item held
          rcases List.mem_iff_getElem?.1 held with ⟨i, there⟩
          exact all_fitsText_of_varchar (chainRow_storable_iff.1 (rows i item there)).2.1
        · apply (translated_fits_iff complete).1
          intro i item there
          exact (chainRow_storable_iff.1 (rows i item there)).2.2.2
  · intro persistable
    have available := markedItem_available_iff.2 persistable.target
    rcases @persist_of_available _ _ _ _ _ _ now service _ operatorTelegramUserId lead loaded
      available with ⟨classification, front, items, unmarked, same⟩
    have fits := (translated_fits_iff complete).2 persistable.answers
    have last : chain.available[front.length]? =
        some (markedItem source job.telegramChatId job.telegramMessageId) := by
      rw [items, List.getElem?_concat_length]
    have question : (newQuestion newId job chain classification (translated service front.length
        (markedItem source job.telegramChatId job.telegramMessageId)) now).storable = true :=
      newQuestion_storable_iff.2 ⟨(all_fitsVarchar_iff texts.1).2 persistable.title, lead.stored,
        fits _ _ last⟩
    have rows : ∀ row ∈ chain.available.mapIdx (chainRow service newId), row.storable = true := by
      intro row held
      rcases List.mem_mapIdx.1 held with ⟨i, short, rfl⟩
      have there := List.getElem_mem short
      have item_texts := texts.2 _ (from_items _ there)
      rcases complete _ there with ⟨text, _, has_text, _⟩
      apply chainRow_storable_iff.2
      refine ⟨?_, ?_, ?_, ?_⟩
      · have at_most : chain.available.length ≤ 10 :=
          (List.filter_sublist.length_le).trans loaded.bounded
        omega
      · exact (all_fitsVarchar_iff item_texts.1).2 (persistable.authors _ there)
      · rw [has_text] at item_texts ⊢
        exact item_texts.2
      · exact fits i _ (List.getElem?_eq_getElem short)
    have own : ∀ row ∈ chain.available.mapIdx (chainRow service newId), row.questionId = newId := by
      intro row held
      rcases List.mem_mapIdx.1 held with ⟨i, _, rfl⟩
      rfl
    have distinct : (chain.available.map (fun item => item.telegramMessageId)).Nodup :=
      loaded.distinct.sublist (List.filter_sublist.map _)
    rcases @insertions_eq _ _ _ _ now _ operatorTelegramUserId _ _ lead rfl rfl rfl question rows own
      (chainRows_apart distinct) with ⟨u, ok, asked, chained, told, erased⟩
    exact ⟨u, same.trans ok, leavesLead_of_inserted lead rfl rfl rfl rfl items rfl markedItem_id
      unmarked complete asked chained told erased⟩

end Persisting

/-- The job of a relevant post with a published chain. -/
def sampleLeadJob (chain : ReplyChain) : ProcessingJob where
  id := 5
  monitoredChatId := 1
  telegramChatId := -100
  telegramMessageId := 40
  topicId := none
  senderTelegramId := none
  senderDisplayName := none
  messageText := "How do we deploy?"
  telegramCreatedAt := 0
  status := .awaitingRelevantProcessing
  attemptCount := 1
  nextAttemptAt := 0
  lockedAt := none
  lockedBy := none
  lastErrorCode := none
  lastErrorMessage := none
  replyChainSnapshot := some (serializeReplyChain sampleTimestamps chain)
  createdAt := 0
  expiresAt := hours 24

/-- The job and its relevant run. -/
def sampleLeadRows (chain : ReplyChain) : Database where
  processingJobs := ⟨[sampleLeadJob chain], List.nodup_singleton _⟩
  classificationRuns := ⟨[{
    telegramChatId := -100, telegramMessageId := 40, stage := 1, result := .relevant,
    category := .technical, confidence := 9 / 10, reasonCode := .technicalProblem,
    contextUsed := false, model := "gpt-5-mini", inputTokens := 20, outputTokens := 10,
    estimatedCostUsd := 40, queuedAt := 0, createdAt := 0 }], List.nodup_singleton _⟩

theorem sampleLead {source : ReplyMessageSource} {chain : ReplyChain}
    (loads : getReplyChain source (-100) 40 = some chain)
    (storable : (serializeReplyChain sampleTimestamps chain).storable = true) :
    Lead sampleTimestamps source (sampleLeadJob chain) 7 (sampleLeadRows chain) where
  awaiting := rfl
  published := ⟨chain, loads, storable, rfl⟩
  stored := by
    show (Option.all (fitsVarchar 255) none && fitsText "How do we deploy?") = true
    decide
  relevant := ⟨_, List.mem_singleton_self _, rfl, rfl, rfl⟩
  undetected := rfl
  newQuestion question := fun held => absurd held (Table.not_mem_empty question)
  newChain row := fun held => absurd held (Table.not_mem_empty row)
  newNotification notification := fun held => absurd held (Table.not_mem_empty notification)

theorem sampleLead_read (chain : ReplyChain) :
    (sampleLeadJob chain).replyChainSnapshot.bind (deserializeReplyChain sampleTimestamps) =
      some chain :=
  deserialize_serialize sampleTimestamps chain

/-- The chain of the post. -/
def samplePostChain : ReplyChain where
  chatId := -100
  items := [⟨40, none, none, none, none, none, some 0, some "How do we deploy?", true, false⟩]

/-- A translator that detects English and fails to translate. -/
def sampleTranslator (language : String) : TranslationService where
  detectLanguage _ _ := some (some language)
  translateToRussian _ text source := some ⟨text, none, source, .failed, some "timeout"⟩

/-- The post of a chat is persisted without a translation. -/
theorem relevant_lead_persisted_iff_sample : ∃ u,
    persist 1 (some (sampleTranslator "en")) (sampleLeadJob samplePostChain) samplePostChain 7 0
      (sampleLeadRows samplePostChain) = .ok (7, u) ∧
    LeavesLead u (sampleLeadJob samplePostChain) samplePostChain 7 := by
  have lead : Lead sampleTimestamps samplePostSource (sampleLeadJob samplePostChain) 7
      (sampleLeadRows samplePostChain) := sampleLead rfl (by decide)
  apply (relevant_lead_persisted_iff lead (sampleLead_read samplePostChain)).2
  constructor
  · exact ⟨_, rfl, rfl⟩
  · intro title found
    cases found
  · intro item held name found
    cases List.mem_singleton.1 held
    cases found
  · rintro translator used i item text there has_text language result detected answered
    cases used
    cases detected
    cases answered
    show (Option.all fitsText none && Option.all (fitsVarchar 10) (some "en")) = true
    decide

/-- The history of a chat whose post was deleted before its chain was loaded. -/
def deletedPostSource : ReplyMessageSource where
  getReplyMessage _ _ := none
  getForumTopicTitle _ _ := none
  byIdentity _ _ _ found := by cases found

def deletedPostChain : ReplyChain where
  chatId := -100
  items := [⟨40, none, none, none, none, none, none, none, true, true⟩]
  stopReason := some .missingParent

/-- The lead of a deleted post is not persisted, although the job holds its text: the position of
the target is looked up among the available items. A language of more than ten characters stops a
lead as well. -/
theorem deleted_lead_not_persisted :
    Lead sampleTimestamps deletedPostSource (sampleLeadJob deletedPostChain) 7
      (sampleLeadRows deletedPostChain) ∧
    (sampleLeadJob deletedPostChain).replyChainSnapshot.bind
      (deserializeReplyChain sampleTimestamps) = some deletedPostChain ∧
    persist 1 none (sampleLeadJob deletedPostChain) deletedPostChain 7 0
      (sampleLeadRows deletedPostChain) = .error .valueError ∧
    Lead sampleTimestamps samplePostSource (sampleLeadJob samplePostChain) 7
      (sampleLeadRows samplePostChain) ∧
    persist 1 (some (sampleTranslator "en-x-unknown")) (sampleLeadJob samplePostChain)
      samplePostChain 7 0 (sampleLeadRows samplePostChain) = .error .dataError := by
  exact ⟨sampleLead rfl (by decide), sampleLead_read _, rfl, sampleLead rfl (by decide), rfl⟩

end LeadAssistant.Pipeline
