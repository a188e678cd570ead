/-
Module: LeadAssistant.Pipeline.Handoff
Layer: Pipeline
Purpose: What the listener publishes, the classifier can read. The loader's loop appends readable
  items only, whatever its history answers, and marks the newest of them; so the snapshot that was
  stored is decoded to the chain that was loaded, belongs to the chat of its job, and has the shape
  that `format_stage2_input` checks for.
Trusted boundary: human-reviewed spec
Main exports: Readable, Appends, stage2Block, Stage2Readable, snapshot_accepted
-/
import LeadAssistant.Listener.LoadedChain
import LeadAssistant.Pipeline.Outcomes

namespace LeadAssistant.Pipeline

open ReplyChainLoader

/-- An item that is not yet marked and shows its text, if it has one. -/
structure Readable (item : ReplyChainItem) : Prop where
  unmarked : item.isTarget = false
  shown : item.isUnavailable = item.text.isNone

/-- A traversal has gone on by readable items, at most as many as were allowed. -/
structure Appends (depth : Nat) (before after : List ReplyChainItem)
    (appended : List ReplyChainItem) : Prop where
  same : after = before ++ appended
  readable : ∀ item ∈ appended, Readable item
  bounded : appended.length ≤ depth

section Loading

variable {history : MessageHistory} {chatId messageId : Int} {visited : List Int} {depth : Nat}
  {t : Traversal} {items : List ReplyChainItem} {item : ReplyChainItem}

theorem Appends.none : Appends depth items items [] :=
  ⟨(List.append_nil items).symm, fun _ held => absurd held List.not_mem_nil, Nat.zero_le _⟩

theorem Appends.one (readable : Readable item) :
    Appends (depth + 1) items (items ++ [item]) [item] := by
  refine ⟨rfl, fun other held => ?_, Nat.le_add_left _ _⟩
  rw [List.mem_singleton.1 held]
  exact readable

/-- One item, and then what the rest of the traversal appends. -/
theorem Appends.cons {after appended : List ReplyChainItem} (readable : Readable item)
    (rest : Appends depth (items ++ [item]) after appended) :
    Appends (depth + 1) items after (item :: appended) := by
  refine ⟨?_, fun other held => ?_, Nat.succ_le_succ rest.bounded⟩
  · rw [rest.same, List.append_assoc, List.singleton_append]
  · rcases List.mem_cons.1 held with rfl | later
    · exact readable
    · exact rest.readable other later

theorem availableItem_readable {message : ReplyMessage} : Readable (availableItem message) :=
  ⟨rfl, rfl⟩

theorem unavailableItem_readable : Readable (unavailableItem messageId) := ⟨rfl, rfl⟩

/-- The loop appends readable items, and at least one for an id that it has not visited. -/
theorem traverse_appends : ∃ appended,
    Appends depth t.newestFirst (traverse history chatId depth messageId visited t).newestFirst
      appended ∧ (messageId ∉ visited → 0 < depth → appended ≠ []) := by
  induction depth generalizing messageId visited t with
  | zero =>
      refine ⟨[], ?_, fun _ positive => absurd positive (Nat.lt_irrefl 0)⟩
      unfold ReplyChainLoader.traverse
      split <;> exact .none
  | succ depth ih =>
      have nonempty : ∀ {item : ReplyChainItem} {rest : List ReplyChainItem},
          messageId ∉ visited → 0 < depth + 1 → item :: rest ≠ [] :=
        fun _ _ => List.cons_ne_nil _ _
      unfold ReplyChainLoader.traverse
      split
      · rename_i seen
        exact ⟨[], .none, fun unseen => absurd seen unseen⟩
      · split
        · exact ⟨_, .one unavailableItem_readable, nonempty⟩
        · rename_i message _
          split
          · exact ⟨_, .one unavailableItem_readable, nonempty⟩
          · split
            · exact ⟨_, .one unavailableItem_readable, nonempty⟩
            · split
              · rw [push_newestFirst]
                exact ⟨_, .one availableItem_readable, nonempty⟩
              · rename_i parentId _
                rcases @ih parentId (messageId :: visited) (t.push message) with
                  ⟨appended, rest, _⟩
                rw [push_newestFirst] at rest
                exact ⟨_, rest.cons availableItem_readable, nonempty⟩

end Loading

/-- The block of one item in the Stage-2 input. -/
def stage2Block (marker : String) (item : ReplyChainItem) : String :=
  marker ++ "\n" ++ item.text.getD "[unavailable message]"

/-- A chain of the given chat that Stage 2 reads: the target is the last of its items and alone
marked, and the input has the block of every item in the order of the chain. -/
structure Stage2Readable (chatId : Int) (chain : ReplyChain) : Prop where
  chat : chain.chatId = chatId
  rendered : ∃ older target, chain.items = older ++ [target] ∧
    (∀ item ∈ older, item.isTarget = false) ∧ target.isTarget = true ∧
    formatStage2Input chain = .ok (String.intercalate "\n\n"
      (older.map (stage2Block "[CONTEXT]") ++ [stage2Block "[TARGET]" target]))

section Reading

variable {chatId messageId : Int} {history : MessageHistory} {chain : ReplyChain}
  {older : List ReplyChainItem} {item target : ReplyChainItem}

theorem renderItem_context (readable : Readable item) :
    renderItem item = .ok (stage2Block "[CONTEXT]" item) := by
  unfold renderItem stage2Block
  rw [readable.unmarked, readable.shown]
  cases item.text <;> rfl

theorem renderItem_target (readable : Readable item) :
    renderItem { item with isTarget := true } =
      .ok (stage2Block "[TARGET]" { item with isTarget := true }) := by
  unfold renderItem stage2Block
  dsimp only
  rw [readable.shown]
  cases item.text <;> rfl

/-- Readable items with the last one marked pass every check of `format_stage2_input`. -/
theorem formatStage2Input_marked (items : chain.items = older ++ [{ item with isTarget := true }])
    (readable : ∀ other ∈ older, Readable other) (last : Readable item)
    (bounded : older.length < 10) :
    formatStage2Input chain = .ok (String.intercalate "\n\n"
      (older.map (stage2Block "[CONTEXT]") ++
        [stage2Block "[TARGET]" { item with isTarget := true }])) := by
  have alone : older.countP (fun other => other.isTarget) = 0 := by
    rw [List.countP_eq_zero]
    intro other held
    simp [(readable other held).unmarked]
  have contexts : older.mapM renderItem = .ok (older.map (stage2Block "[CONTEXT]")) :=
    Except.mapM_eq_ok (fun other held => renderItem_context (readable other held))
  unfold formatStage2Input
  rw [items, if_neg, if_neg]
  · rw [List.mapM_append, contexts, List.mapM_cons, renderItem_target last]
    rfl
  · simp [List.countP_append, alone]
  · rw [List.length_append, List.length_singleton]
    omega

/-- A loaded chain is readable. -/
theorem stage2Readable_of_getReplyChain
    (loaded : getReplyChain history chatId messageId = some chain) :
    Stage2Readable chatId chain := by
  unfold getReplyChain at loaded
  rw [if_neg (by decide)] at loaded
  rcases @traverse_appends history chatId messageId [] MAX_DEPTH {} with
    ⟨appended, ⟨same, readable, bounded⟩, nonempty⟩
  rw [List.nil_append] at same
  cases appended with
  | nil => exact absurd rfl (nonempty List.not_mem_nil (by decide))
  | cons target older =>
      cases loaded
      have listed : ∀ item ∈ older.reverse, Readable item :=
        fun item held => readable item (List.mem_cons_of_mem _ (List.mem_reverse.1 held))
      have items : ordered (traverse history chatId MAX_DEPTH messageId [] {}).newestFirst =
          older.reverse ++ [{ target with isTarget := true }] := by
        rw [same]
        rfl
      refine ⟨rfl, older.reverse, { target with isTarget := true }, items,
        fun item held => (listed item held).unmarked, rfl, ?_⟩
      apply formatStage2Input_marked items listed (readable target List.mem_cons_self)
      rw [List.length_reverse]
      exact Nat.lt_of_succ_le bounded

end Reading

section Handlers

variable {timestamps : TimestampCodec} {history : MessageHistory} {job claimed : ProcessingJob}
  {now later : Time} {db u : Database} {chain : ReplyChain} {adapter : ClassificationAdapter}
  {operatorTelegramUserId : Int} {service : Option TranslationService} {newId : UUID}

/-- A claimed job whose snapshot is the chain of its chat goes on to the work of its status. -/
theorem call_of_snapshot
    (snapshot : claimed.replyChainSnapshot = some (serializeReplyChain timestamps chain))
    (chat : chain.chatId = claimed.telegramChatId) :
    DownstreamClassificationHandler.call timestamps adapter operatorTelegramUserId service claimed
        newId later db =
      match claimed.status with
      | .awaitingReplyContext => Stage2ClassificationService.classify adapter claimed chain later db
      | .awaitingRelevantProcessing =>
          (RelevantQuestionPersistenceService.persist operatorTelegramUserId service claimed chain
            newId later db).map (fun persisted => persisted.2)
      | _ => .error DownstreamClassificationHandler.handoffError := by
  unfold DownstreamClassificationHandler.call
  rw [snapshot]
  dsimp only
  rw [deserialize_serialize]
  dsimp only
  refine (if_neg (not_not.2 chat)).trans ?_
  cases claimed.status <;> rfl

/-- Whatever the history of a chat answers, the snapshot that the listener publishes for a job is
read back as the chain that was loaded, and no check of the classifier on its chat or on its shape
rejects it. -/
theorem snapshot_accepted
    (published : ReplyChainSnapshotHandler.call timestamps history job now db = .ok u) :
    ∃ chain row, getReplyChain history job.telegramChatId job.telegramMessageId = some chain ∧
      Stage2Readable job.telegramChatId chain ∧
      u.processingJobs.get? job.id = some row ∧
      row.replyChainSnapshot.bind (deserializeReplyChain timestamps) = some chain ∧
      ∀ claimed : ProcessingJob, claimed.replyChainSnapshot = row.replyChainSnapshot →
        claimed.telegramChatId = job.telegramChatId →
        ∀ adapter operatorTelegramUserId service newId later db,
          DownstreamClassificationHandler.call timestamps adapter operatorTelegramUserId service
              claimed newId later db =
            match claimed.status with
            | .awaitingReplyContext =>
                Stage2ClassificationService.classify adapter claimed chain later db
            | .awaitingRelevantProcessing =>
                (RelevantQuestionPersistenceService.persist operatorTelegramUserId service claimed
                  chain newId later db).map (fun persisted => persisted.2)
            | _ => .error DownstreamClassificationHandler.handoffError := by
  rcases snapshot_spec published with ⟨chain, stored, loaded, _, _, leaves, _⟩
  have readable := stage2Readable_of_getReplyChain loaded
  have snapshot : (DownstreamJobRepository.loaded (serializeReplyChain timestamps chain) now
      stored).replyChainSnapshot = some (serializeReplyChain timestamps chain) := rfl
  refine ⟨chain, _, loaded, readable, (leaves job.id).trans (if_pos rfl), ?_, ?_⟩
  · rw [snapshot, Option.bind_some, deserialize_serialize]
  · intro claimed same chat adapter operatorTelegramUserId service newId later db
    exact call_of_snapshot (same.trans snapshot) (readable.chat.trans chat.symm)

/-- A history that answers every request with the same message, and a job in its chat. -/
def echoHistory : MessageHistory where
  getReplyMessage _ _ := some ⟨-100, 40, some 41, some 5, none, none, none, 0, "And then?"⟩
  getForumTopicTitle _ _ := some "Deployment"

/-- A claimed job that waits for its context. -/
def sampleContextJob : ProcessingJob where
  id := 3
  monitoredChatId := 1
  telegramChatId := -100
  telegramMessageId := 40
  topicId := none
  senderTelegramId := none
  senderDisplayName := none
  messageText := "And then?"
  telegramCreatedAt := 0
  status := .awaitingReplyContext
  attemptCount := 1
  nextAttemptAt := 0
  lockedAt := some 10
  lockedBy := some "listener"
  lastErrorCode := none
  lastErrorMessage := none
  replyChainSnapshot := none
  createdAt := 0
  expiresAt := days 7

/-- Its chain, which the echo lets run into a cycle. -/
theorem snapshot_accepted_sample :
    ∃ chain, getReplyChain echoHistory (-100) 40 = some chain ∧ Stage2Readable (-100) chain := by
  have stored : (ReplyChainSnapshotHandler.call sampleTimestamps echoHistory sampleContextJob 20
      { processingJobs := ⟨[sampleContextJob], List.nodup_singleton _⟩ }).isOk := by
    decide +kernel
  cases published : ReplyChainSnapshotHandler.call sampleTimestamps echoHistory sampleContextJob 20
      { processingJobs := ⟨[sampleContextJob], List.nodup_singleton _⟩ } with
  | error error =>
      rw [published] at stored
      cases stored
  | ok u =>
      rcases snapshot_accepted published with ⟨chain, _, loaded, readable, _⟩
      exact ⟨chain, loaded, readable⟩

end Handlers

end LeadAssistant.Pipeline
