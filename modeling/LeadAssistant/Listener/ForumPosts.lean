/-
Module: LeadAssistant.Listener.ForumPosts
Layer: Listener
Purpose: Reply chains over the messages of Telethon (`TelethonSessionClient.get_reply_message`). In a
  forum the reply header of a message that is no reply carries the topic in `reply_to_msg_id`.
  `_extract_topic_id` reads it so; `get_reply_message` hands the same field on as the parent, and the
  loader goes on to the topic's root.
Trusted boundary: human-reviewed spec
Main exports: MessageReplyHeader, TelegramMessage, extractTopicId, TelethonHistory.getReplyMessage,
  Thread, ReadAlone, OldestItem, post_is_oldest_iff, post_not_alone
-/
import LeadAssistant.Listener.ReplyWalk

namespace LeadAssistant

/-- `MessageReplyHeader`, as far as it is read. -/
structure MessageReplyHeader where
  forumTopic : Bool
  replyToMsgId : Option Int
  replyToTopId : Option Int
deriving Repr, DecidableEq

/-- A message of Telethon; a `reply_to` of another kind than `MessageReplyHeader` counts as none, and
the peer is given by its marked id. -/
structure TelegramMessage where
  id : Int
  peerId : Int
  replyTo : Option MessageReplyHeader
  createsTopic : Bool := false
  senderId : Option Int := none
  senderName : Option String := none
  date : Time := 0
  rawText : Option String := none
deriving Repr, DecidableEq

/-- What `get_messages` finds at an id: a `Message`, or a `MessageService` such as the creation of a
topic. -/
inductive FetchedMessage where
  | message (message : TelegramMessage)
  | service (message : TelegramMessage)
deriving Repr, DecidableEq

/-- `_extract_topic_id`. -/
def extractTopicId (message : TelegramMessage) : Option Int :=
  match message.replyTo.filter (fun reply => reply.forumTopic) with
  | some reply =>
      -- `or` also skips a zero.
      match reply.replyToTopId.filter (fun topId => topId ≠ 0) with
      | some topId => some topId
      | none => reply.replyToMsgId
  | none => if message.createsTopic then some message.id else none

/-- The `ReplyMessage` of a message. -/
def replyMessage (message : TelegramMessage) : ReplyMessage where
  telegramChatId := message.peerId
  telegramMessageId := message.id
  replyToMessageId := message.replyTo.bind (fun reply => reply.replyToMsgId)
  topicId := extractTopicId message
  replyToTopMessageId := message.replyTo.bind (fun reply => reply.replyToTopId)
  authorTelegramId := message.senderId
  authorDisplayName :=
    (message.senderName.map (fun name => String.ofList (name.toList.take 255))).filter
      (fun name => name ≠ "")
  telegramCreatedAt := message.date
  text := message.rawText.getD ""

/-- The messages that Telegram has, by chat and id, and the titles of its topics. -/
structure TelethonHistory where
  getMessages : Int → Int → Option FetchedMessage
  getForumTopicTitle : Int → Int → Option String

/-- `get_reply_message`. -/
def TelethonHistory.getReplyMessage (telethon : TelethonHistory) (chatId messageId : Int) :
    Option ReplyMessage :=
  match telethon.getMessages chatId messageId with
  | some (.message message) => some (replyMessage message)
  | some (.service _) | none => none

/-- The history that the loader reads. -/
def TelethonHistory.toMessageHistory (telethon : TelethonHistory) : MessageHistory where
  getReplyMessage := telethon.getReplyMessage
  getForumTopicTitle := telethon.getForumTopicTitle

namespace ForumPosts

open ReplyChainLoader Walks

/-- A message of a topic. -/
structure InTopic (telethon : TelethonHistory) (chatId topicId : Int) (message : TelegramMessage) :
    Prop where
  loaded : telethon.getMessages chatId message.id = some (.message message)
  chat : message.peerId = chatId
  topic : extractTopicId message = some topicId

/-- The header of a message that is posted in a topic and is no reply. -/
def topicPost (topicId : Int) : MessageReplyHeader where
  forumTopic := true
  replyToMsgId := some topicId
  replyToTopId := none

/-- A reply chain inside a topic, newest first: every message replies to the next one, and the oldest
is a post. -/
inductive Thread (telethon : TelethonHistory) (chatId topicId : Int) :
    List TelegramMessage → Prop where
  | post {post : TelegramMessage} (inside : InTopic telethon chatId topicId post)
      (posted : post.replyTo = some (topicPost topicId)) : Thread telethon chatId topicId [post]
  | reply {message parent : TelegramMessage} {older : List TelegramMessage}
      (inside : InTopic telethon chatId topicId message)
      (replies : (replyMessage message).replyToMessageId = some parent.id)
      (rest : Thread telethon chatId topicId (parent :: older)) :
      Thread telethon chatId topicId (message :: parent :: older)

/-- The chain is the message alone, available and marked as the target. -/
structure ReadAlone (chain : ReplyChain) (message : TelegramMessage) : Prop where
  items : chain.items = [{ availableItem (replyMessage message) with isTarget := true }]
  reason : chain.stopReason = none

/-- The message is the oldest item of the chain, so that nothing precedes it. -/
def OldestItem (chain : ReplyChain) (message : TelegramMessage) : Prop :=
  chain.items.head?.map unmarked = some (availableItem (replyMessage message))

section Threads

variable {telethon : TelethonHistory} {chatId topicId : Int} {message root : TelegramMessage}
  {older others before after messages : List TelegramMessage}

theorem Thread.inside (thread : Thread telethon chatId topicId messages) :
    ∀ message ∈ messages, InTopic telethon chatId topicId message := by
  induction thread with
  | post inside posted =>
      intro message held
      cases List.mem_singleton.1 held
      exact inside
  | reply inside replies rest ih =>
      intro message held
      rcases List.mem_cons.1 held with rfl | later
      · exact inside
      · exact ih message later

/-- A message leads to the next one, and the post to the root of its topic. -/
theorem Thread.follow (thread : Thread telethon chatId topicId (message :: older)) :
    (replyMessage message).replyToMessageId =
      some ((older.head?.map TelegramMessage.id).getD topicId) := by
  cases thread with
  | post inside posted =>
      unfold replyMessage
      rw [posted]
      rfl
  | reply inside replies rest => exact replies

theorem Thread.tail {parent : TelegramMessage}
    (thread : Thread telethon chatId topicId (message :: parent :: older)) :
    Thread telethon chatId topicId (parent :: older) := by
  cases thread with
  | reply inside replies rest => exact rest

theorem Thread.suffix (thread : Thread telethon chatId topicId (before ++ message :: after)) :
    Thread telethon chatId topicId (message :: after) := by
  induction before with
  | nil => exact thread
  | cons first before ih =>
      apply ih
      cases before with
      | nil => exact thread.tail
      | cons second before => exact thread.tail

/-- The root is a service message, so it is not in the thread. -/
theorem Thread.root_not_mem (thread : Thread telethon chatId topicId messages)
    (service : telethon.getMessages chatId topicId = some (.service root)) :
    topicId ∉ messages.map TelegramMessage.id := by
  intro held
  rcases List.mem_map.1 held with ⟨message, listed, own⟩
  have loaded := (thread.inside message listed).loaded
  rw [own, service] at loaded
  cases loaded

/-- The thread of a message is determined by it. -/
theorem Thread.unique (service : telethon.getMessages chatId topicId = some (.service root))
    (thread : Thread telethon chatId topicId (message :: older))
    (other : Thread telethon chatId topicId (message :: others)) : older = others := by
  induction older generalizing message others with
  | nil =>
      cases others with
      | nil => rfl
      | cons parent others =>
          have same : topicId = parent.id :=
            Option.some.inj (thread.follow.symm.trans other.follow)
          exact absurd (List.mem_map.2 ⟨parent, by simp, same.symm⟩) (other.root_not_mem service)
  | cons parent older ih =>
      have leads := thread.follow.symm.trans other.follow
      cases others with
      | nil =>
          have same : parent.id = topicId := Option.some.inj leads
          exact absurd (List.mem_map.2 ⟨parent, by simp, same⟩) (thread.root_not_mem service)
      | cons parent' others =>
          have same : parent.id = parent'.id := Option.some.inj leads
          have loaded := (thread.inside parent (by simp)).loaded
          rw [same, (other.inside parent' (by simp)).loaded] at loaded
          obtain rfl : parent' = parent := by cases loaded; rfl
          rw [ih thread.tail other.tail]

/-- No message of a thread comes twice. -/
theorem Thread.nodup (thread : Thread telethon chatId topicId messages)
    (service : telethon.getMessages chatId topicId = some (.service root)) :
    (messages.map TelegramMessage.id).Nodup := by
  induction messages with
  | nil => exact List.nodup_nil
  | cons message older ih =>
      rw [List.map_cons, List.nodup_cons]
      refine ⟨fun again => ?_, ?_⟩
      · rcases List.mem_map.1 again with ⟨other, listed, own⟩
        have loaded := (thread.inside other (List.mem_cons_of_mem _ listed)).loaded
        rw [own, (thread.inside message List.mem_cons_self).loaded] at loaded
        cases loaded
        rcases List.append_of_mem listed with ⟨before, after, split⟩
        have suffix : Thread telethon chatId topicId (message :: after) := by
          apply @Thread.suffix telethon chatId topicId message (message :: before) after
          rw [List.cons_append, ← split]
          exact thread
        -- The thread of the message would be shorter than itself.
        have lengths := congrArg List.length (thread.unique service suffix)
        rw [split, List.length_append, List.length_cons] at lengths
        omega
      · cases older with
        | nil => exact List.nodup_nil
        | cons parent older => exact ih thread.tail

/-- The step of the walk at a message. -/
def stepOf (message : TelegramMessage) : Int × ReplyMessage := (message.id, replyMessage message)

theorem next_of_split {target : Int} (thread : Thread telethon chatId topicId (before ++ after))
    (head : (before ++ after).head?.map TelegramMessage.id = some target) :
    (replyRules telethon.toMessageHistory chatId target).next (before.map stepOf) =
      some ((after.head?.map TelegramMessage.id).getD topicId) := by
  rcases List.eq_nil_or_concat before with rfl | ⟨init, last, rfl⟩
  · rw [List.nil_append] at head
    rw [head]
    rfl
  · rw [List.concat_eq_append, List.append_assoc, List.singleton_append] at thread
    rw [List.concat_eq_append, List.map_append, List.map_singleton, Rules.next_snoc]
    exact thread.suffix.follow

/-- The walk shows the messages of a topic. -/
theorem consult_of_inTopic (inside : InTopic telethon chatId topicId message)
    {steps : List (Int × ReplyMessage)}
    (head : ∀ first, steps.head? = some first → first.2.topicId = some topicId) :
    consult telethon.toMessageHistory chatId steps message.id = .ok (replyMessage message) := by
  have found : telethon.getReplyMessage chatId message.id = some (replyMessage message) := by
    unfold TelethonHistory.getReplyMessage
    rw [inside.loaded]
  have chat : (replyMessage message).telegramChatId = chatId := inside.chat
  have topic : (replyMessage message).topicId = some topicId := inside.topic
  unfold consult TelethonHistory.toMessageHistory
  dsimp only
  rw [found]
  dsimp only
  rw [if_neg (not_not_intro chat)]
  cases target : steps.head? with
  | none => rfl
  | some first =>
      dsimp only
      rw [head first target, if_neg (not_not_intro topic)]

theorem topicId_of_head (inside : ∀ message ∈ before, InTopic telethon chatId topicId message) :
    ∀ first, (before.map stepOf).head? = some first → first.2.topicId = some topicId := by
  intro first head
  rw [List.head?_map] at head
  rcases Option.map_eq_some_iff.1 head with ⟨message, held, rfl⟩
  exact (inside message (List.mem_of_head? held)).topic

theorem map_fst_stepOf : (before.map stepOf).map Prod.fst = before.map TelegramMessage.id := by
  rw [List.map_map]
  rfl

/-- A start of a thread is a stretch of the walk. -/
theorem stretch_of_split {target : Int}
    (service : telethon.getMessages chatId topicId = some (.service root))
    (thread : Thread telethon chatId topicId (before ++ after))
    (head : (before ++ after).head?.map TelegramMessage.id = some target) :
    Stretch (replyRules telethon.toMessageHistory chatId target) (before.map stepOf) := by
  induction before using List.reverseRecOn generalizing after with
  | nil => exact .nil
  | append_singleton before message ih =>
      rw [List.append_assoc, List.singleton_append] at thread head
      have next := next_of_split thread head
      have distinct := thread.nodup service
      have inside := thread.inside
      rw [List.map_append, List.map_singleton]
      refine .snoc (ih thread head) next ?_ ?_
      · rw [map_fst_stepOf]
        rw [List.map_append, List.map_cons] at distinct
        intro again
        exact (List.nodup_append.1 distinct).2.2 _ again _ List.mem_cons_self rfl
      · have earlier : ∀ other ∈ before, InTopic telethon chatId topicId other :=
          fun other held => inside other (List.mem_append_left _ held)
        exact consult_of_inTopic (inside message (by simp)) (topicId_of_head earlier)

/-- How the walk over a thread ends: at the root of the topic, or where the depth runs out. -/
theorem ends_of_thread {target : Int} {maxDepth : Nat}
    (service : telethon.getMessages chatId topicId = some (.service root))
    (thread : Thread telethon chatId topicId messages)
    (head : messages.head?.map TelegramMessage.id = some target) :
    ∃ ending, Ends (replyRules telethon.toMessageHistory chatId target) maxDepth
        ((messages.take maxDepth).map stepOf) ending ∧ reasonOf ending ≠ none ∧
      (markerOf ending = if messages.length < maxDepth then some topicId else none) := by
  have split : messages.take maxDepth ++ messages.drop maxDepth = messages :=
    List.take_append_drop maxDepth messages
  have next := next_of_split (split.symm ▸ thread) (split.symm ▸ head)
  by_cases short : messages.length < maxDepth
  · rw [if_pos short]
    have whole : messages.take maxDepth = messages := List.take_of_length_le (Nat.le_of_lt short)
    rw [List.drop_of_length_le (Nat.le_of_lt short), whole] at next
    have refused : consult telethon.toMessageHistory chatId (messages.map stepOf) topicId =
        .error .missingParent := by
      unfold consult TelethonHistory.toMessageHistory TelethonHistory.getReplyMessage
      dsimp only
      rw [service]
    refine ⟨.blocked topicId .missingParent, ?_, Option.some_ne_none _, rfl⟩
    rw [whole]
    refine .blocked (by rwa [List.length_map]) next ?_ refused
    rw [map_fst_stepOf]
    exact thread.root_not_mem service
  · rw [if_neg short]
    refine ⟨.bound _, .bound ?_ next, Option.some_ne_none _, rfl⟩
    rw [List.length_map, List.length_take]
    omega

/-- The chain of a loop that is over. -/
theorem exists_walk {history : MessageHistory} {target : Int} {maxDepth : Nat} {chain : ReplyChain}
    (loaded : getReplyChain history chatId target maxDepth = some chain) :
    ∃ steps ending, Stretch (replyRules history chatId target) steps ∧
      Ends (replyRules history chatId target) maxDepth steps ending ∧ steps.length ≤ maxDepth ∧
      chain.items = ordered (itemsOf steps (markerOf ending)) ∧
      chain.stopReason = reasonOf ending := by
  unfold getReplyChain at loaded
  split at loaded
  · cases loaded
  · rename_i admitted
    have start : (replyRules history chatId target).next [] = some target := rfl
    rcases exists_loopEnd .nil .nil start (Nat.zero_add maxDepth) (by omega) with
      ⟨steps, ending, loop⟩
    refine ⟨steps, ending, loop.stretch, loop.ends, loop.within, ?_, ?_⟩
    · rw [← loop.items, traverseLogged_fst]
      cases loaded
      rfl
    · rw [← loop.reason, traverseLogged_fst]
      cases loaded
      rfl

/-- The loaded chain of a thread: its newest messages, and a marker if there is room for one. -/
theorem chain_of_thread {target : Int} {maxDepth : Nat} {chain : ReplyChain}
    (service : telethon.getMessages chatId topicId = some (.service root))
    (thread : Thread telethon chatId topicId messages)
    (head : messages.head?.map TelegramMessage.id = some target)
    (loaded : getReplyChain telethon.toMessageHistory chatId target maxDepth = some chain) :
    chain.items.map unmarked = (itemsOf ((messages.take maxDepth).map stepOf)
      (if messages.length < maxDepth then some topicId else none)).reverse ∧
      chain.stopReason ≠ none := by
  have split : messages.take maxDepth ++ messages.drop maxDepth = messages :=
    List.take_append_drop maxDepth messages
  have stretch := stretch_of_split service (split.symm ▸ thread) (split.symm ▸ head)
  rcases @ends_of_thread telethon chatId topicId root messages target maxDepth service thread head
    with ⟨ending, ends, reason, marker⟩
  rcases exists_walk loaded with ⟨steps, ending', stretch', ends', within, items, reason'⟩
  have fits : ((messages.take maxDepth).map stepOf).length ≤ maxDepth := by
    rw [List.length_map]
    exact List.length_take_le _ _
  -- Both are the longest stretch within the depth.
  have begins := stretch.longest ends stretch' within
  have same : steps = (messages.take maxDepth).map stepOf :=
    begins.eq_of_length (begins.length_le.antisymm (stretch'.longest ends' stretch fits).length_le)
  subst same
  rw [ends'.unique ends] at items reason'
  rw [items, reason', unmarked_ordered, unmarked_itemsOf, marker]
  exact ⟨rfl, reason⟩

theorem oldestItem_iff {chain : ReplyChain} {steps : List (Int × ReplyMessage)}
    {marker : Option Int} (items : chain.items.map unmarked = (itemsOf steps marker).reverse) :
    OldestItem chain message ↔
      (itemsOf steps marker).getLast? = some (availableItem (replyMessage message)) := by
  unfold OldestItem
  rw [← List.head?_map, items, List.head?_reverse]

end Threads

/-- A post is never read alone without a reason to stop, and it is the oldest item of the chain of a
reply exactly where the depth runs out at it. -/
theorem post_is_oldest_iff {telethon : TelethonHistory} {chatId topicId : Int}
    {root target post : TelegramMessage} {newer : List TelegramMessage} {maxDepth : Nat}
    {chain : ReplyChain} (service : telethon.getMessages chatId topicId = some (.service root))
    (thread : Thread telethon chatId topicId (newer ++ [post]))
    (head : (newer ++ [post]).head? = some target)
    (loaded : getReplyChain telethon.toMessageHistory chatId target.id maxDepth = some chain) :
    (newer = [] → ¬ ReadAlone chain post) ∧
      (OldestItem chain post ↔ maxDepth = newer.length + 1) := by
  have first : (newer ++ [post]).head?.map TelegramMessage.id = some target.id := by
    rw [head, Option.map_some]
  have length : (newer ++ [post]).length = newer.length + 1 := List.length_append
  have positive : 1 ≤ maxDepth := by
    unfold getReplyChain at loaded
    split at loaded
    · cases loaded
    · omega
  rcases chain_of_thread service thread first loaded with ⟨items, reason⟩
  refine ⟨fun _ alone => reason alone.reason, ?_⟩
  rw [oldestItem_iff items, length]
  rcases Nat.lt_trichotomy maxDepth (newer.length + 1) with cut | whole | more
  · -- The oldest item is a message before the post.
    have taken : (newer ++ [post]).take maxDepth = newer.take maxDepth :=
      List.take_append_of_le_length (Nat.le_of_lt_succ cut)
    refine iff_of_false ?_ (Nat.ne_of_lt cut)
    rw [if_neg (by omega), getLast?_itemsOf_none, taken]
    intro last
    rcases Option.map_eq_some_iff.1 last with ⟨step, held, same⟩
    rcases List.mem_map.1 (List.mem_of_getLast? held) with ⟨message, listed, rfl⟩
    have own : message.id = post.id := congrArg ReplyChainItem.telegramMessageId same
    have distinct := thread.nodup service
    rw [List.map_append] at distinct
    exact (List.nodup_append.1 distinct).2.2 _
      (List.mem_map_of_mem (List.mem_of_mem_take listed)) _ List.mem_cons_self own
  · refine iff_of_true ?_ whole
    rw [if_neg (by omega), getLast?_itemsOf_none, List.take_of_length_le (by omega),
      List.map_append, List.map_singleton, List.getLast?_concat]
    rfl
  · refine iff_of_false ?_ (Nat.ne_of_gt more)
    rw [if_pos more, getLast?_itemsOf_some]
    intro same
    cases congrArg ReplyChainItem.isUnavailable (Option.some.inj same)

/-- A message that is posted in topic 42 and is no reply. -/
def samplePost : TelegramMessage where
  id := 50
  peerId := -1001
  replyTo := some (topicPost 42)
  rawText := some "How do we deploy?"

/-- A reply to it. -/
def sampleReply : TelegramMessage where
  id := 51
  peerId := -1001
  replyTo := some ⟨true, some 50, some 42⟩
  rawText := some "With what?"

/-- Their forum, in which the root of the topic is the message of its creation. -/
def sampleForum : TelethonHistory where
  getMessages _ id :=
    if id = 42 then some (.service { id := 42, peerId := -1001, replyTo := none, createsTopic := true })
    else if id = 50 then some (.message samplePost)
    else if id = 51 then some (.message sampleReply)
    else none
  getForumTopicTitle _ _ := some "Support"

theorem sampleThread : Thread sampleForum (-1001) 42 [sampleReply, samplePost] :=
  .reply ⟨rfl, rfl, rfl⟩ rfl (.post ⟨rfl, rfl, rfl⟩ rfl)

theorem post_is_oldest_iff_sample :
    (getReplyChain sampleForum.toMessageHistory (-1001) 51 2).any (fun chain =>
      chain.items.head?.map unmarked = some (availableItem (replyMessage samplePost))) = true := by
  cases loaded : getReplyChain sampleForum.toMessageHistory (-1001) 51 2 with
  | none => cases loaded
  | some chain =>
      have oldest := (@post_is_oldest_iff _ _ _ _ sampleReply samplePost [sampleReply] 2 chain rfl
        sampleThread rfl loaded).2.2 rfl
      rw [Option.any_some]
      exact decide_eq_true oldest

/-- With the default depth the post is read as a reply to a message that is missing, and so is the
message that replies to it. -/
theorem post_not_alone :
    ¬ (∀ chain, getReplyChain sampleForum.toMessageHistory (-1001) 50 = some chain →
      ReadAlone chain samplePost) ∧
    ¬ (∀ chain, getReplyChain sampleForum.toMessageHistory (-1001) 51 = some chain →
      OldestItem chain samplePost) := by
  refine ⟨fun claim => ?_, fun claim => ?_⟩
  · have alone := claim _ rfl
    cases alone.reason
  · have oldest := claim _ rfl
    exact absurd (congrArg (Option.map ReplyChainItem.isUnavailable) oldest) (by decide)

end ForumPosts

end LeadAssistant
