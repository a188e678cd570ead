/-
Module: LeadAssistant.Listener.ReplyWalk
Layer: Listener
Purpose: `get_reply_chain` is the bounded walk along the replies. The history may answer with any
  message, or none, for an id. A walk starts at the target, shows a message if it is in the chat and
  in the topic of the target, and goes on to the message it replies to; the loop of the loader takes
  the longest stretch within its depth and ends with a marker where a message was refused.
Trusted boundary: human-reviewed spec
Main exports: consult, replyRules, traverseLogged, BoundedWalk, getReplyChain_is_walk
-/
import LeadAssistant.Library.Walk
import LeadAssistant.Listener.ReplyChain

namespace LeadAssistant.ReplyChainLoader

open Walks

/-- What the walk finds at an id: a message of the chat and of the first message's topic, or the
reason why it is not shown. -/
def consult (history : MessageHistory) (chatId : Int) (steps : List (Int × ReplyMessage))
    (id : Int) : Except ReplyChainStopReason ReplyMessage :=
  match history.getReplyMessage chatId id with
  | none => .error .missingParent
  | some message =>
      if message.telegramChatId ≠ chatId then .error .crossChatParent
      else match steps.head? with
        | none => .ok message
        | some target =>
            if message.topicId ≠ target.2.topicId then .error .crossTopicParent else .ok message

/-- The walk from a target along the replies. -/
def replyRules (history : MessageHistory) (chatId target : Int) :
    Rules Int ReplyMessage ReplyChainStopReason where
  start := target
  look := consult history chatId
  follow message := message.replyToMessageId

/-- The loop, with the ids it asks the history for. -/
def traverseLogged (source : MessageHistory) (chatId : Int) :
    Nat → Int → List Int → Traversal → Traversal × List Int
  | 0, _, _, t =>
      if (t.newestFirst.getLast?.bind (fun item => item.replyToMessageId)).isSome then
        ({ t with stopReason := some .maxDepth }, [])
      else (t, [])
  | depth + 1, currentId, visited, t =>
      if currentId ∈ visited then ({ t with stopReason := some .cycle }, [])
      else match source.getReplyMessage chatId currentId with
        | none => (t.stopAt currentId .missingParent, [currentId])
        | some message =>
            if message.telegramChatId ≠ chatId then
              (t.stopAt currentId .crossChatParent, [currentId])
            else if t.newestFirst ≠ [] ∧ message.topicId ≠ t.targetTopicId then
              (t.stopAt currentId .crossTopicParent, [currentId])
            else match message.replyToMessageId with
              | none => (t.push message, [currentId])
              | some parentId =>
                  let rest := traverseLogged source chatId depth parentId (currentId :: visited)
                    (t.push message)
                  (rest.1, currentId :: rest.2)

/-- The ids that `get_reply_chain` looks up. -/
def lookups (source : MessageHistory) (chatId messageId : Int) (maxDepth : Nat) : List Int :=
  (traverseLogged source chatId maxDepth messageId [] {}).2

variable {history : MessageHistory} {chatId target : Int} {maxDepth : Nat}

/-- The logged loop is the loop. -/
theorem traverseLogged_fst {depth : Nat} {currentId : Int} {visited : List Int} {t : Traversal} :
    (traverseLogged history chatId depth currentId visited t).1 =
      traverse history chatId depth currentId visited t := by
  induction depth generalizing currentId visited t with
  | zero =>
      unfold traverseLogged ReplyChainLoader.traverse
      split <;> rfl
  | succ depth ih =>
      unfold traverseLogged ReplyChainLoader.traverse
      by_cases again : currentId ∈ visited
      · rw [if_pos again, if_pos again]
      · rw [if_neg again, if_neg again]
        cases history.getReplyMessage chatId currentId with
        | none => rfl
        | some message =>
            dsimp only
            split
            · rfl
            · split
              · rfl
              · cases message.replyToMessageId with
                | none => rfl
                | some parentId => exact ih

/-- The item of a refused message, if the walk is over for one. -/
def markerOf : Ending Int ReplyChainStopReason → Option Int
  | .blocked id _ => some id
  | .root | .cycle _ | .bound _ => none

/-- The stop reason of a walk. -/
def reasonOf : Ending Int ReplyChainStopReason → Option ReplyChainStopReason
  | .root => none
  | .cycle _ => some .cycle
  | .bound _ => some .maxDepth
  | .blocked _ cause => some cause

/-- The items of a walk, newest first. -/
def itemsOf (steps : List (Int × ReplyMessage)) (marker : Option Int) : List ReplyChainItem :=
  steps.map (fun step => availableItem step.2) ++ marker.toList.map unavailableItem

/-- The variables of the loop after some steps. -/
structure Follows (steps : List (Int × ReplyMessage)) (visited : List Int) (t : Traversal) :
    Prop where
  items : t.newestFirst = steps.map (fun step => availableItem step.2)
  reason : t.stopReason = none
  topic : ∀ first, steps.head? = some first → t.targetTopicId = first.2.topicId
  visited : ∀ id, id ∈ visited ↔ id ∈ steps.map Prod.fst

section Loop

variable {steps : List (Int × ReplyMessage)} {visited : List Int} {t : Traversal} {id : Int}
  {message : ReplyMessage}

theorem Follows.nil : Follows [] [] {} where
  items := rfl
  reason := rfl
  topic _ found := by cases found
  visited id := by simp

theorem Follows.push (follows : Follows steps visited t) :
    Follows (steps ++ [(id, message)]) (id :: visited) (t.push message) := by
  unfold Traversal.push
  constructor
  · dsimp only
    split <;> rw [follows.items, List.map_append, List.map_singleton]
  · dsimp only
    split
    · exact follows.reason
    · exact follows.reason
  · intro first found
    dsimp only
    cases steps with
    | nil =>
        have empty : t.newestFirst = [] := follows.items
        rw [if_pos empty]
        cases found
        rfl
    | cons target steps =>
        rw [if_neg (by rw [follows.items]; exact List.cons_ne_nil _ _)]
        exact follows.topic first found
  · intro other
    rw [List.mem_cons, follows.visited, List.map_append, List.mem_append, List.map_singleton,
      List.mem_singleton]
    exact or_comm

/-- The two checks of the loop after a message was found. -/
theorem Follows.consult_eq (follows : Follows steps visited t)
    (found : history.getReplyMessage chatId id = some message) :
    consult history chatId steps id =
      if message.telegramChatId ≠ chatId then .error .crossChatParent
      else if t.newestFirst ≠ [] ∧ message.topicId ≠ t.targetTopicId then .error .crossTopicParent
      else .ok message := by
  unfold consult
  rw [found]
  dsimp only
  split
  · rfl
  · cases steps with
    | nil =>
        rw [if_neg (fun both => both.1 follows.items)]
        rfl
    | cons target steps =>
        have started : t.newestFirst ≠ [] := by
          rw [follows.items]
          exact List.cons_ne_nil _ _
        have topic : t.targetTopicId = target.2.topicId := follows.topic target rfl
        rw [List.head?_cons, topic]
        dsimp only
        simp only [started, ne_eq, not_false_eq_true, true_and]

/-- What the loop leaves: a stretch that is over, its items and its reason, and the ids that were
looked up since `steps`. -/
structure LoopEnd (history : MessageHistory) (chatId target : Int) (maxDepth : Nat)
    (steps : List (Int × ReplyMessage)) (left : Traversal × List Int)
    (more : List (Int × ReplyMessage)) (ending : Ending Int ReplyChainStopReason) : Prop where
  stretch : Stretch (replyRules history chatId target) more
  ends : Ends (replyRules history chatId target) maxDepth more ending
  within : more.length ≤ maxDepth
  items : left.1.newestFirst = itemsOf more (markerOf ending)
  reason : left.1.stopReason = reasonOf ending
  asked : steps.map Prod.fst ++ left.2 = more.map Prod.fst ++ (markerOf ending).toList

/-- A refused message ends the loop with a marker. -/
theorem loopEnd_of_refused {cause : ReplyChainStopReason}
    (stretch : Stretch (replyRules history chatId target) steps) (follows : Follows steps visited t)
    (next : (replyRules history chatId target).next steps = some id)
    (short : steps.length < maxDepth) (fresh : id ∉ visited)
    (refused : consult history chatId steps id = .error cause) :
    LoopEnd history chatId target maxDepth steps (t.stopAt id cause, [id]) steps
      (.blocked id cause) where
  stretch := stretch
  ends := .blocked short next (fun again => fresh ((follows.visited id).2 again)) refused
  within := Nat.le_of_lt short
  items := by
    unfold Traversal.stopAt itemsOf
    dsimp only
    rw [follows.items]
    rfl
  reason := rfl
  asked := rfl

/-- A message that replies to nothing ends the loop. -/
theorem loopEnd_of_root
    (longer : Stretch (replyRules history chatId target) (steps ++ [(id, message)]))
    (follows : Follows (steps ++ [(id, message)]) visited t)
    (parent : message.replyToMessageId = none)
    (within : (steps ++ [(id, message)]).length ≤ maxDepth) :
    LoopEnd history chatId target maxDepth steps (t, [id]) (steps ++ [(id, message)]) .root where
  stretch := longer
  ends := .root (Rules.next_snoc.trans parent)
  within := within
  items := follows.items.trans (List.append_nil _).symm
  reason := follows.reason
  asked := by simp [markerOf]

/-- The loop went on after one more step. -/
theorem LoopEnd.resumed {more : List (Int × ReplyMessage)}
    {ending : Ending Int ReplyChainStopReason} {left : Traversal × List Int}
    (rest : LoopEnd history chatId target maxDepth (steps ++ [(id, message)]) left more ending) :
    LoopEnd history chatId target maxDepth steps (left.1, id :: left.2) more ending where
  stretch := rest.stretch
  ends := rest.ends
  within := rest.within
  items := rest.items
  reason := rest.reason
  asked := by
    have asked := rest.asked
    rw [List.map_append, List.map_singleton, List.append_assoc] at asked
    exact asked

/-- The loop goes along the walk until it is over. -/
theorem exists_loopEnd {depth : Nat}
    (stretch : Stretch (replyRules history chatId target) steps) (follows : Follows steps visited t)
    (next : (replyRules history chatId target).next steps = some id)
    (budget : steps.length + depth = maxDepth) (positive : 1 ≤ maxDepth) :
    ∃ more ending, LoopEnd history chatId target maxDepth steps
      (traverseLogged history chatId depth id visited t) more ending := by
  induction depth generalizing steps visited t id with
  | zero =>
      have full : steps.length = maxDepth := budget
      have parent : t.newestFirst.getLast?.bind (fun item => item.replyToMessageId) = some id := by
        rw [follows.items, List.getLast?_map]
        cases last : steps.getLast? with
        | none =>
            rw [List.getLast?_eq_none_iff.1 last, List.length_nil] at full
            omega
        | some step =>
            unfold Rules.next at next
            rw [last] at next
            exact next
      unfold traverseLogged
      rw [parent, Option.isSome_some, if_pos rfl]
      refine ⟨steps, .bound id, stretch, .bound full next, full.le, ?_, rfl, rfl⟩
      exact follows.items.trans (List.append_nil _).symm
  | succ depth ih =>
      have short : steps.length < maxDepth := by omega
      unfold traverseLogged
      by_cases again : id ∈ visited
      · rw [if_pos again]
        refine ⟨steps, .cycle id, stretch, .cycle short next ((follows.visited id).1 again),
          Nat.le_of_lt short, ?_, rfl, rfl⟩
        exact follows.items.trans (List.append_nil _).symm
      · rw [if_neg again]
        have fresh : id ∉ steps.map Prod.fst := fun held => again ((follows.visited id).2 held)
        cases found : history.getReplyMessage chatId id with
        | none =>
            have refused : consult history chatId steps id = .error .missingParent := by
              unfold consult
              rw [found]
            exact ⟨steps, _, loopEnd_of_refused stretch follows next short again refused⟩
        | some message =>
            have shown := follows.consult_eq found
            dsimp only
            by_cases foreign : message.telegramChatId ≠ chatId
            · rw [if_pos foreign] at shown ⊢
              exact ⟨steps, _, loopEnd_of_refused stretch follows next short again shown⟩
            · rw [if_neg foreign] at shown ⊢
              by_cases elsewhere : t.newestFirst ≠ [] ∧ message.topicId ≠ t.targetTopicId
              · rw [if_pos elsewhere] at shown ⊢
                exact ⟨steps, _, loopEnd_of_refused stretch follows next short again shown⟩
              · rw [if_neg elsewhere] at shown ⊢
                have longer : Stretch (replyRules history chatId target)
                    (steps ++ [(id, message)]) := .snoc stretch next fresh shown
                have length : (steps ++ [(id, message)]).length = steps.length + 1 := by
                  rw [List.length_append, List.length_singleton]
                cases parent : message.replyToMessageId with
                | none => exact ⟨_, .root, loopEnd_of_root longer follows.push parent (by omega)⟩
                | some parentId =>
                    have onward : (replyRules history chatId target).next
                        (steps ++ [(id, message)]) = some parentId := Rules.next_snoc.trans parent
                    rcases ih longer follows.push onward (by omega) with ⟨more, ending, rest⟩
                    exact ⟨more, ending, rest.resumed⟩

end Loop

/-! ### The chain of a walk -/

/-- An item without its mark as the target. -/
def unmarked (item : ReplyChainItem) : ReplyChainItem := { item with isTarget := false }

/-- A chain is the bounded walk from its target: `steps` is the longest stretch, and `marker` the id
of a refused message. -/
structure BoundedWalk (history : MessageHistory) (chatId target : Int) (maxDepth : Nat)
    (chain : ReplyChain) (asked : List Int) (steps : List (Int × ReplyMessage))
    (marker : Option Int) : Prop where
  stretch : Stretch (replyRules history chatId target) steps
  longest : ∀ others, Stretch (replyRules history chatId target) others →
    others.length ≤ maxDepth → others <+: steps
  marked : ∀ id, marker = some id ↔ steps.length < maxDepth ∧
    (replyRules history chatId target).next steps = some id ∧ id ∉ steps.map Prod.fst ∧
    ∃ cause, consult history chatId steps id = .error cause
  alone : ∀ cause, consult history chatId [] target = .error cause →
    steps = [] ∧ marker = some target
  items : chain.items.map unmarked = (itemsOf steps marker).reverse
  targets : chain.items.map (fun item => item.isTarget) =
    List.replicate (chain.items.length - 1) false ++ [true]
  nonempty : 1 ≤ chain.items.length
  bounded : chain.items.length ≤ maxDepth
  lookups : asked = steps.map Prod.fst ++ marker.toList
  few : asked.length ≤ maxDepth
  root : chain.stopReason = none ↔ ∃ item, chain.items.head? = some item ∧
    item.isUnavailable = false ∧ item.replyToMessageId = none
  cycle : chain.stopReason = some .cycle ↔ steps.length < maxDepth ∧
    ∃ id ∈ steps.map Prod.fst, (replyRules history chatId target).next steps = some id
  depth : chain.stopReason = some .maxDepth ↔ steps.length = maxDepth ∧
    ((replyRules history chatId target).next steps).isSome
  cause : ∀ reason, reason ≠ .cycle → reason ≠ .maxDepth → (chain.stopReason = some reason ↔
    ∃ id, marker = some id ∧ consult history chatId steps id = .error reason)

section Chain

variable {steps : List (Int × ReplyMessage)} {marker : Option Int} {items : List ReplyChainItem}
  {ending : Ending Int ReplyChainStopReason} {left : Traversal × List Int}

/-- A message is refused for one of three reasons. -/
theorem consult_error {id : Int} {cause : ReplyChainStopReason}
    (refused : consult history chatId steps id = .error cause) :
    cause ≠ .cycle ∧ cause ≠ .maxDepth := by
  unfold consult at refused
  split at refused
  · cases refused
    decide
  · split at refused
    · cases refused
      decide
    · split at refused
      · cases refused
      · split at refused
        · cases refused
          decide
        · cases refused

/-- The marker is for the next id, if it was not asked for yet and its message is refused. -/
theorem markerOf_iff {id : Int}
    (ends : Ends (replyRules history chatId target) maxDepth steps ending) :
    markerOf ending = some id ↔ steps.length < maxDepth ∧
      (replyRules history chatId target).next steps = some id ∧ id ∉ steps.map Prod.fst ∧
      ∃ cause, consult history chatId steps id = .error cause := by
  constructor
  · intro marked
    cases ends with
    | root | cycle | bound => cases marked
    | blocked short next fresh refused =>
        cases marked
        exact ⟨short, next, fresh, _, refused⟩
  · rintro ⟨short, next, fresh, cause, refused⟩
    rw [ends.unique (.blocked short next fresh refused)]
    rfl

theorem reasonOf_cycle_iff
    (ends : Ends (replyRules history chatId target) maxDepth steps ending) :
    reasonOf ending = some .cycle ↔ steps.length < maxDepth ∧
      ∃ id ∈ steps.map Prod.fst, (replyRules history chatId target).next steps = some id := by
  constructor
  · intro isCycle
    cases ends with
    | root | bound => cases isCycle
    | cycle short next again => exact ⟨short, _, again, next⟩
    | blocked _ _ _ refused =>
        cases isCycle
        exact absurd rfl (consult_error refused).1
  · rintro ⟨short, id, again, next⟩
    rw [ends.unique (.cycle short next again)]
    rfl

theorem reasonOf_maxDepth_iff
    (ends : Ends (replyRules history chatId target) maxDepth steps ending) :
    reasonOf ending = some .maxDepth ↔ steps.length = maxDepth ∧
      ((replyRules history chatId target).next steps).isSome := by
  constructor
  · intro isDepth
    cases ends with
    | root | cycle => cases isDepth
    | bound full next => exact ⟨full, by rw [next]; rfl⟩
    | blocked _ _ _ refused =>
        cases isDepth
        exact absurd rfl (consult_error refused).2
  · rintro ⟨full, next⟩
    rcases Option.isSome_iff_exists.1 next with ⟨id, next⟩
    rw [ends.unique (.bound full next)]
    rfl

/-- Any other reason is the one for which the message of the marker was refused. -/
theorem reasonOf_cause_iff {reason : ReplyChainStopReason}
    (ends : Ends (replyRules history chatId target) maxDepth steps ending)
    (notCycle : reason ≠ .cycle) (notDepth : reason ≠ .maxDepth) :
    reasonOf ending = some reason ↔
      ∃ id, markerOf ending = some id ∧ consult history chatId steps id = .error reason := by
  constructor
  · intro same
    cases ends with
    | root => cases same
    | cycle => cases same; exact absurd rfl notCycle
    | bound => cases same; exact absurd rfl notDepth
    | blocked _ _ _ refused =>
        cases same
        exact ⟨_, rfl, refused⟩
  · rintro ⟨id, marked, refused⟩
    cases ends with
    | root | cycle | bound => cases marked
    | blocked _ _ _ refused' =>
        cases marked
        cases refused'.symm.trans refused
        rfl

theorem unmarked_itemsOf : (itemsOf steps marker).map unmarked = itemsOf steps marker := by
  unfold itemsOf
  rw [List.map_append, List.map_map, List.map_map]
  rfl

theorem isTarget_itemsOf :
    (itemsOf steps marker).map (fun item => item.isTarget) =
      List.replicate (itemsOf steps marker).length false := by
  rw [List.eq_replicate_iff]
  refine ⟨List.length_map _, fun flag held => ?_⟩
  rcases List.mem_map.1 held with ⟨item, listed, rfl⟩
  rw [← unmarked_itemsOf] at listed
  rcases List.mem_map.1 listed with ⟨other, _, rfl⟩
  rfl

theorem unmarked_ordered : (ordered items).map unmarked = (items.map unmarked).reverse := by
  cases items with
  | nil => rfl
  | cons target older =>
      show _ = (unmarked target :: older.map unmarked).reverse
      unfold ordered
      rw [List.reverse_cons, List.map_append, List.map_reverse]
      rfl

theorem isTarget_ordered (started : items ≠ []) : (ordered items).map (fun item => item.isTarget) =
    (items.tail.map (fun item => item.isTarget)).reverse ++ [true] := by
  cases items with
  | nil => exact absurd rfl started
  | cons target older =>
      unfold ordered
      rw [List.map_append, List.map_reverse]
      rfl

theorem length_ordered : (ordered items).length = items.length := by
  have lengths := congrArg List.length (@unmarked_ordered items)
  simpa using lengths

/-- A walk that is over has shown a message or refused one. -/
theorem LoopEnd.itemsOf_ne_nil {first : List (Int × ReplyMessage)}
    (loop : LoopEnd history chatId target maxDepth first left steps ending)
    (positive : 1 ≤ maxDepth) : itemsOf steps (markerOf ending) ≠ [] := by
  intro empty
  rcases List.append_eq_nil_iff.1 empty with ⟨unshown, unmarked⟩
  have none_shown := List.map_eq_nil_iff.1 unshown
  have ends := loop.ends
  subst none_shown
  cases ends with
  | root next => cases next
  | cycle _ _ again => exact absurd again List.not_mem_nil
  | bound full => rw [List.length_nil] at full; omega
  | blocked => cases unmarked

theorem LoopEnd.length_itemsOf {first : List (Int × ReplyMessage)}
    (loop : LoopEnd history chatId target maxDepth first left steps ending) :
    (itemsOf steps (markerOf ending)).length ≤ maxDepth := by
  have within := loop.within
  unfold itemsOf
  rw [List.length_append, List.length_map, List.length_map]
  cases loop.ends with
  | root | cycle | bound => exact within
  | blocked short => exact short

theorem getLast?_itemsOf_some {id : Int} :
    (itemsOf steps (some id)).getLast? = some (unavailableItem id) :=
  List.getLast?_concat

theorem getLast?_itemsOf_none :
    (itemsOf steps none).getLast? = steps.getLast?.map (fun step => availableItem step.2) := by
  unfold itemsOf
  rw [Option.toList_none, List.map_nil, List.append_nil, List.getLast?_map]

/-- The message that was shown last leads to the next key. -/
theorem exists_last_of_next {next : Option Int}
    (ahead : (replyRules history chatId target).next steps = next) (started : steps ≠ []) :
    ∃ step, steps.getLast? = some step ∧ step.2.replyToMessageId = next := by
  cases last : steps.getLast? with
  | none => exact absurd (List.getLast?_eq_none_iff.1 last) started
  | some step =>
      unfold Rules.next at ahead
      rw [last] at ahead
      exact ⟨step, rfl, ahead⟩

/-- The oldest item is an available root exactly when the walk has come to a root. -/
theorem LoopEnd.root_iff {first : List (Int × ReplyMessage)}
    (loop : LoopEnd history chatId target maxDepth first left steps ending)
    (positive : 1 ≤ maxDepth) : ending = .root ↔ ∃ item,
      (itemsOf steps (markerOf ending)).getLast? = some item ∧ item.isUnavailable = false ∧
        item.replyToMessageId = none := by
  have started := loop.itemsOf_ne_nil positive
  have shown : markerOf ending = none → steps ≠ [] := by
    rintro unmarked rfl
    rw [unmarked] at started
    exact started rfl
  -- Without a marker the oldest item leads to the next key.
  have oldest : ∀ next, markerOf ending = none →
      (replyRules history chatId target).next steps = next → ∃ item,
        (itemsOf steps (markerOf ending)).getLast? = some item ∧ item.isUnavailable = false ∧
          item.replyToMessageId = next := by
    intro next unmarked ahead
    rcases exists_last_of_next ahead (shown unmarked) with ⟨step, last, leads⟩
    rw [unmarked, getLast?_itemsOf_none, last]
    exact ⟨_, rfl, rfl, leads⟩
  cases loop.ends with
  | root ahead => exact iff_of_true rfl (oldest none rfl ahead)
  | cycle _ ahead _ | bound _ ahead =>
      rcases oldest _ rfl ahead with ⟨item, last, _, leads⟩
      refine iff_of_false (by simp) ?_
      rintro ⟨other, last', _, isRoot⟩
      cases last.symm.trans last'
      cases leads.symm.trans isRoot
  | blocked =>
      refine iff_of_false (by simp) ?_
      rintro ⟨item, last, available, _⟩
      cases getLast?_itemsOf_some.symm.trans last
      cases available

/-- What the first request finds decides whether anything is shown. -/
theorem Stretch.first_shown (stretch : Stretch (replyRules history chatId target) steps)
    (started : steps ≠ []) : ∃ message, consult history chatId [] target = .ok message := by
  induction stretch with
  | nil => exact absurd rfl started
  | @snoc before key found stretch next _ shown ih =>
      cases before with
      | nil =>
          cases next
          exact ⟨found, shown⟩
      | cons step before => exact ih (List.cons_ne_nil _ _)

theorem LoopEnd.alone {first : List (Int × ReplyMessage)}
    (loop : LoopEnd history chatId target maxDepth first left steps ending)
    (positive : 1 ≤ maxDepth) {cause : ReplyChainStopReason}
    (refused : consult history chatId [] target = .error cause) :
    steps = [] ∧ markerOf ending = some target := by
  have unshown : steps = [] := by
    by_contra started
    rcases Stretch.first_shown loop.stretch started with ⟨message, shown⟩
    cases shown.symm.trans refused
  have ended : Ends (replyRules history chatId target) maxDepth [] (.blocked target cause) :=
    .blocked positive rfl List.not_mem_nil refused
  have ends := loop.ends
  rw [unshown] at ends
  rw [ends.unique ended]
  exact ⟨unshown, rfl⟩

/-- The chain of a loop that is over is the bounded walk. -/
theorem LoopEnd.boundedWalk {chain : ReplyChain}
    (loop : LoopEnd history chatId target maxDepth [] left steps ending) (positive : 1 ≤ maxDepth)
    (chainItems : chain.items = ordered left.1.newestFirst)
    (chainReason : chain.stopReason = left.1.stopReason) :
    BoundedWalk history chatId target maxDepth chain left.2 steps (markerOf ending) := by
  have started := loop.itemsOf_ne_nil positive
  have asked : left.2 = steps.map Prod.fst ++ (markerOf ending).toList := loop.asked
  have length : chain.items.length = (itemsOf steps (markerOf ending)).length := by
    rw [chainItems, loop.items, length_ordered]
  have items : chain.items.map unmarked = (itemsOf steps (markerOf ending)).reverse := by
    rw [chainItems, loop.items, unmarked_ordered, unmarked_itemsOf]
  have few : left.2.length = (itemsOf steps (markerOf ending)).length := by
    rw [asked]
    unfold itemsOf
    simp only [List.length_append, List.length_map]
  have reason : chain.stopReason = reasonOf ending := chainReason.trans loop.reason
  constructor
  · exact loop.stretch
  · exact fun others other within => loop.stretch.longest loop.ends other within
  · exact fun id => markerOf_iff loop.ends
  · exact fun cause refused => loop.alone positive refused
  · exact items
  · rw [chainItems, loop.items, isTarget_ordered started, length_ordered, List.map_tail,
      isTarget_itemsOf, List.tail_replicate, List.reverse_replicate]
  · rw [length]
    exact List.length_pos_iff.2 started
  · exact length ▸ loop.length_itemsOf
  · exact asked
  · exact few ▸ loop.length_itemsOf
  · have heads : chain.items.head?.map unmarked =
        (itemsOf steps (markerOf ending)).getLast? := by
      rw [← List.head?_map, items, List.head?_reverse]
    rw [reason]
    refine Iff.trans ?_ ((loop.root_iff positive).trans ?_)
    · cases ending <;> simp [reasonOf]
    · rw [← heads]
      cases chain.items.head? with
      | none => simp
      | some item => simp [unmarked]
  · rw [reason]
    exact reasonOf_cycle_iff loop.ends
  · rw [reason]
    exact reasonOf_maxDepth_iff loop.ends
  · intro cause notCycle notDepth
    rw [reason]
    exact reasonOf_cause_iff loop.ends notCycle notDepth

end Chain

/-- For every history, every target and every admitted depth, the loaded chain is the bounded walk
along the replies, and the history is asked for the ids of the walk. -/
theorem getReplyChain_is_walk {history : MessageHistory} {chatId target : Int} {maxDepth : Nat}
    (positive : 1 ≤ maxDepth) (bounded : maxDepth ≤ MAX_DEPTH) : ∃ chain steps marker,
      getReplyChain history chatId target maxDepth = some chain ∧
      BoundedWalk history chatId target maxDepth chain (lookups history chatId target maxDepth)
        steps marker := by
  have start : (replyRules history chatId target).next [] = some target := rfl
  rcases exists_loopEnd .nil .nil start (Nat.zero_add maxDepth) positive with
    ⟨steps, ending, loop⟩
  have admitted : ¬ (maxDepth < 1 ∨ MAX_DEPTH < maxDepth) := by omega
  unfold getReplyChain
  rw [if_neg admitted]
  refine ⟨_, steps, markerOf ending, rfl, loop.boundedWalk positive ?_ ?_⟩
  · rw [traverseLogged_fst]
  · rw [traverseLogged_fst]

/-- A history of two messages that reply to each other. -/
def sampleHistory : MessageHistory where
  getReplyMessage chatId id :=
    if id = 40 then some ⟨chatId, 40, some 41, none, none, none, none, 0, "How do we deploy?"⟩
    else if id = 41 then some ⟨chatId, 41, some 40, none, none, none, none, 0, "With what?"⟩
    else none
  getForumTopicTitle _ _ := none

/-- Two items allow no third request, so the walk ends at its depth; with three it finds the
cycle. -/
theorem getReplyChain_is_walk_sample :
    (∃ chain steps marker, getReplyChain sampleHistory (-100) 40 2 = some chain ∧
      BoundedWalk sampleHistory (-100) 40 2 chain (lookups sampleHistory (-100) 40 2) steps marker) ∧
    (getReplyChain sampleHistory (-100) 40 2).map (fun chain => chain.stopReason) =
      some (some .maxDepth) ∧
    (getReplyChain sampleHistory (-100) 40 3).map (fun chain => chain.stopReason) =
      some (some .cycle) :=
  ⟨getReplyChain_is_walk (by decide) (by decide), by decide, by decide⟩

end LeadAssistant.ReplyChainLoader
