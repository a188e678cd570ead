/-
Module: LeadAssistant.Listener.LoadedChain
Layer: Listener
Purpose: The shape of every chain that the loader returns, whatever its source answers: the target is
  the last item and the only one marked as such, the items are messages of the chat with text and
  time or markers without them, their ids are distinct, and there are ten at most.
Trusted boundary: none
Main exports: LoadedItem, markedItem, LoadedChain, loadedChain_of_getReplyChain,
  markedItem_available_iff
-/
import LeadAssistant.Listener.ReplyChain
import Mathlib.Data.List.Nodup

namespace LeadAssistant.ReplyChainLoader

variable {source : ReplyMessageSource} {chatId messageId : Int}

/-- An item as the traversal appends it. -/
inductive LoadedItem (source : ReplyMessageSource) (chatId : Int) : ReplyChainItem → Prop where
  | available (message : ReplyMessage)
      (found : source.getReplyMessage chatId message.telegramMessageId = some message)
      (inChat : message.telegramChatId = chatId) : LoadedItem source chatId (availableItem message)
  | unavailable (messageId : Int) : LoadedItem source chatId (unavailableItem messageId)

/-- What the traversal appends for the target. -/
def targetItem (source : ReplyMessageSource) (chatId messageId : Int) : ReplyChainItem :=
  match source.getReplyMessage chatId messageId with
  | some message =>
      if message.telegramChatId = chatId then availableItem message else unavailableItem messageId
  | none => unavailableItem messageId

/-- The same item, marked as the target. -/
def markedItem (source : ReplyMessageSource) (chatId messageId : Int) : ReplyChainItem :=
  { targetItem source chatId messageId with isTarget := true }

/-- The items of a traversal, newest first, beside the ids it has visited. -/
structure Walked (source : ReplyMessageSource) (chatId : Int) (visited : List Int)
    (items : List ReplyChainItem) : Prop where
  loaded : ∀ item ∈ items, LoadedItem source chatId item
  visited : ∀ item ∈ items, item.telegramMessageId ∈ visited
  distinct : (items.map (fun item => item.telegramMessageId)).Nodup

/-- What a traversal ends with. -/
structure Walk (source : ReplyMessageSource) (chatId : Int) (depth : Nat)
    (before after : List ReplyChainItem) : Prop where
  loaded : ∀ item ∈ after, LoadedItem source chatId item
  distinct : (after.map (fun item => item.telegramMessageId)).Nodup
  extends_ : before <+: after
  bounded : after.length ≤ before.length + depth

section Traversal

variable {visited : List Int} {items : List ReplyChainItem} {item : ReplyChainItem} {depth : Nat}
  {t : Traversal}

theorem Walked.append (walked : Walked source chatId visited items)
    (loaded : LoadedItem source chatId item) (fresh : item.telegramMessageId ∉ visited) :
    Walked source chatId (item.telegramMessageId :: visited) (items ++ [item]) := by
  constructor
  · intro other held
    rcases List.mem_append.1 held with before | last
    · exact walked.loaded other before
    · rw [List.mem_singleton.1 last]
      exact loaded
  · intro other held
    rcases List.mem_append.1 held with before | last
    · exact List.mem_cons_of_mem _ (walked.visited other before)
    · rw [List.mem_singleton.1 last]
      exact List.mem_cons_self
  · rw [List.map_append, List.map_singleton, List.nodup_append]
    refine ⟨walked.distinct, List.nodup_singleton _, ?_⟩
    rintro a before b last rfl
    rcases List.mem_map.1 before with ⟨other, held, rfl⟩
    rw [List.mem_singleton] at last
    exact fresh (last ▸ walked.visited other held)

theorem Walked.walk (walked : Walked source chatId visited items) :
    Walk source chatId depth items items :=
  ⟨walked.loaded, walked.distinct, List.prefix_rfl, Nat.le_add_right _ _⟩

/-- One more item at the end of a traversal. -/
theorem Walked.last (walked : Walked source chatId visited items)
    (loaded : LoadedItem source chatId item) (fresh : item.telegramMessageId ∉ visited) :
    Walk source chatId (depth + 1) items (items ++ [item]) := by
  have after := walked.append loaded fresh
  refine ⟨after.loaded, after.distinct, List.prefix_append _ _, ?_⟩
  rw [List.length_append, List.length_singleton]
  omega

theorem push_newestFirst {message : ReplyMessage} :
    (t.push message).newestFirst = t.newestFirst ++ [availableItem message] := by
  unfold Traversal.push
  dsimp only
  split <;> rfl

/-- The loop keeps the invariant: an id is visited before its item is appended. -/
theorem traverse_walk (walked : Walked source chatId visited t.newestFirst) :
    Walk source chatId depth t.newestFirst
      (traverse source chatId depth messageId visited t).newestFirst := by
  induction depth generalizing messageId visited t with
  | zero =>
      unfold ReplyChainLoader.traverse
      split <;> exact walked.walk
  | succ depth ih =>
      unfold ReplyChainLoader.traverse
      split
      · exact walked.walk
      · rename_i fresh
        split
        · exact walked.last (.unavailable messageId) fresh
        · rename_i message found
          have own := source.byIdentity _ _ _ found
          cases own
          split
          · exact walked.last (.unavailable _) fresh
          · rename_i inChat
            simp only [ne_eq, not_not] at inChat
            have loaded : LoadedItem source chatId (availableItem message) :=
              .available message found inChat
            split
            · exact walked.last (.unavailable _) fresh
            · split
              · rw [push_newestFirst]
                exact walked.last loaded fresh
              · rename_i parentId _
                have after : Walked source chatId (message.telegramMessageId :: visited)
                    (t.newestFirst ++ [availableItem message]) := walked.append loaded fresh
                rw [← push_newestFirst] at after
                have rest := @ih parentId _ _ after
                rw [push_newestFirst] at rest
                refine ⟨rest.loaded, rest.distinct,
                  (List.prefix_append _ _).trans rest.extends_, ?_⟩
                have bounded := rest.bounded
                rw [List.length_append, List.length_singleton] at bounded
                omega

/-- The first item is the target's. -/
theorem traverse_first : ∃ older,
    (traverse source chatId (depth + 1) messageId [] {}).newestFirst =
      targetItem source chatId messageId :: older := by
  have start : Walked source chatId [] [] :=
    ⟨fun _ held => absurd held List.not_mem_nil, fun _ held => absurd held List.not_mem_nil,
      List.nodup_nil⟩
  unfold traverse targetItem
  rw [if_neg List.not_mem_nil]
  cases found : source.getReplyMessage chatId messageId with
  | none => exact ⟨[], rfl⟩
  | some message =>
      have own := source.byIdentity _ _ _ found
      cases own
      dsimp only
      by_cases inChat : message.telegramChatId = chatId
      · have first : Walked source chatId [message.telegramMessageId] [availableItem message] :=
          start.append (.available message found inChat) List.not_mem_nil
        rw [if_neg (not_not.2 inChat), if_neg (fun later => later.1 rfl), if_pos inChat]
        cases message.replyToMessageId with
        | none => exact ⟨[], rfl⟩
        | some parentId =>
            rcases (traverse_walk (t := Traversal.push {} message) first).extends_ with ⟨older, same⟩
            exact ⟨older, same.symm⟩
      · rw [if_pos inChat, if_neg inChat]
        exact ⟨[], rfl⟩

end Traversal

/-- The shape of a loaded chain. -/
structure LoadedChain (source : ReplyMessageSource) (chatId messageId : Int) (chain : ReplyChain)
    (older : List ReplyChainItem) : Prop where
  chat : chain.chatId = chatId
  items : chain.items = older ++ [markedItem source chatId messageId]
  loaded : ∀ item ∈ older, LoadedItem source chatId item
  distinct : (chain.items.map (fun item => item.telegramMessageId)).Nodup
  bounded : chain.items.length ≤ MAX_DEPTH

theorem loadedChain_of_getReplyChain {chain : ReplyChain}
    (loaded : getReplyChain source chatId messageId = some chain) :
    ∃ older, LoadedChain source chatId messageId chain older := by
  unfold getReplyChain at loaded
  rw [if_neg (by decide)] at loaded
  cases loaded
  have start : Walked source chatId [] ({} : Traversal).newestFirst :=
    ⟨fun _ held => absurd held List.not_mem_nil, fun _ held => absurd held List.not_mem_nil,
      List.nodup_nil⟩
  have walk := @traverse_walk source chatId messageId [] MAX_DEPTH {} start
  rcases @traverse_first source chatId messageId 9 with ⟨older, first⟩
  have newest : (traverse source chatId MAX_DEPTH messageId [] {}).newestFirst =
      targetItem source chatId messageId :: older := first
  rw [newest] at walk
  refine ⟨older.reverse, rfl, ?_, ?_, ?_, ?_⟩
  · dsimp only
    rw [newest]
    rfl
  · intro item held
    exact walk.loaded item (List.mem_cons_of_mem _ (List.mem_reverse.1 held))
  · dsimp only
    rw [newest]
    have distinct := List.nodup_reverse.2 walk.distinct
    rw [List.map_cons, List.reverse_cons, ← List.map_reverse] at distinct
    unfold ordered
    rw [List.map_append]
    exact distinct
  · dsimp only
    rw [newest]
    unfold ordered
    have bounded := walk.bounded
    simp only [List.length_cons, List.length_nil, Nat.zero_add] at bounded
    rw [List.length_append, List.length_reverse]
    exact bounded

section Items

variable {item : ReplyChainItem} {chain : ReplyChain} {older : List ReplyChainItem}

theorem targetItem_loaded : LoadedItem source chatId (targetItem source chatId messageId) := by
  unfold targetItem
  split
  · rename_i message found
    have own := source.byIdentity _ _ _ found
    cases own
    split
    · rename_i inChat
      exact .available message found inChat
    · exact .unavailable _
  · exact .unavailable _

theorem markedItem_id : (markedItem source chatId messageId).telegramMessageId = messageId := by
  show (targetItem source chatId messageId).telegramMessageId = messageId
  unfold targetItem
  split
  · rename_i message found
    split
    · exact source.byIdentity _ _ _ found
    · rfl
  · rfl

/-- The target is available if the source has it in the chat. -/
theorem markedItem_available_iff : (markedItem source chatId messageId).isUnavailable = false ↔
    ∃ message, source.getReplyMessage chatId messageId = some message ∧
      message.telegramChatId = chatId := by
  show (targetItem source chatId messageId).isUnavailable = false ↔ _
  unfold targetItem
  cases found : source.getReplyMessage chatId messageId with
  | none => simp [unavailableItem]
  | some message =>
      by_cases inChat : message.telegramChatId = chatId
      · simp [inChat, availableItem]
      · simp [inChat, unavailableItem]

theorem LoadedItem.notTarget (loaded : LoadedItem source chatId item) : item.isTarget = false := by
  cases loaded <;> rfl

/-- An available item has its text and its time. -/
theorem LoadedItem.complete (loaded : LoadedItem source chatId item)
    (available : item.isUnavailable = false) :
    ∃ text telegramCreatedAt,
      item.text = some text ∧ item.telegramCreatedAt = some telegramCreatedAt := by
  cases loaded with
  | available message found inChat => exact ⟨_, _, rfl, rfl⟩
  | unavailable messageId => cases available

/-- The target is the only item that is marked. -/
theorem LoadedChain.targets (loaded : LoadedChain source chatId messageId chain older) :
    chain.items.filter (fun item => item.isTarget) =
      [markedItem source chatId messageId] := by
  have none_older : older.filter (fun item => item.isTarget) = [] := by
    rw [List.filter_eq_nil_iff]
    intro item held
    simp [(loaded.loaded item held).notTarget]
  rw [loaded.items, List.filter_append, none_older]
  rfl

end Items

end LeadAssistant.ReplyChainLoader
