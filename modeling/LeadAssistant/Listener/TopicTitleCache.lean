/-
Module: LeadAssistant.Listener.TopicTitleCache
Layer: Listener
Purpose: `TopicTitleCache` (`listener/mtproto/client.py`) and what it holds after any calls. A put
  and a hit are uses of a topic, a miss is none; the cache holds the topics that were used last,
  each with the title of its last put.
Trusted boundary: human-reviewed spec
Main exports: TopicTitleCache, TopicTitleCache.get, TopicTitleCache.put, TopicTitleCache.step,
  TopicTitleCache.ExactLru, exact_lru
-/
import LeadAssistant.Library.Log
import LeadAssistant.Library.Recency
import LeadAssistant.Library.Transition

namespace LeadAssistant

/-- A chat and a topic of it. -/
abbrev TopicKey := Int × Int

/-- Bounded LRU cache, including safe negative lookups for deleted topics. -/
structure TopicTitleCache where
  maxSize : Nat
  positive : 1 ≤ maxSize
  items : List (TopicKey × Option String) := []

namespace TopicTitleCache

/-- `__init__`; `none` is the `ValueError` for a size that is not positive. -/
def make (maxSize : Nat := 1000) : Option TopicTitleCache :=
  if positive : 1 ≤ maxSize then some { maxSize := maxSize, positive := positive } else none

def get (cache : TopicTitleCache) (chatId topicId : Int) :
    (Bool × Option String) × TopicTitleCache :=
  let key := (chatId, topicId)
  match Recency.getItem? cache.items key with
  | none => ((false, none), cache)
  | some title => ((true, title), { cache with items := Recency.moveToEnd cache.items key })

def put (cache : TopicTitleCache) (chatId topicId : Int) (title : Option String) :
    TopicTitleCache :=
  let key := (chatId, topicId)
  { cache with
    items := Recency.evict cache.maxSize
      (Recency.moveToEnd (Dict.setItem cache.items key title) key) }

/-! ### Calls and what they leave -/

inductive Call where
  | get (chatId topicId : Int)
  | put (chatId topicId : Int) (title : Option String)
deriving Repr, DecidableEq

/-- A call with the answer of a `get`. -/
structure Entry where
  call : Call
  answer : Option (Bool × Option String) := none
deriving Repr, DecidableEq

/-- The topic that a call used: a put or a hit is a use, a miss is none. -/
def Entry.use? : Entry → Option TopicKey
  | ⟨.put chatId topicId _, _⟩ => some (chatId, topicId)
  | ⟨.get chatId topicId, some (true, _)⟩ => some (chatId, topicId)
  | ⟨.get _ _, _⟩ => none

/-- The topics that were used, oldest use first. -/
def usesOf (log : List Entry) : List TopicKey := log.filterMap Entry.use?

/-- The title of the last put of a topic. -/
def lastPut? (log : List Entry) (key : TopicKey) : Option (Option String) :=
  log.reverse.findSome? (fun entry =>
    match entry.call with
    | .put chatId topicId title => if (chatId, topicId) = key then some title else none
    | .get _ _ => none)

/-- A cache, and the calls so far, oldest first. -/
structure History where
  cache : TopicTitleCache
  log : List Entry := []

def step (s : History) (call : Call) : Option History :=
  match call with
  | .get chatId topicId =>
      let (answer, cache) := s.cache.get chatId topicId
      some ⟨cache, s.log ++ [⟨call, some answer⟩]⟩
  | .put chatId topicId title =>
      some ⟨s.cache.put chatId topicId title, s.log ++ [⟨call, none⟩]⟩

/-- The cache is an exact LRU: it holds the distinct topics that were used last, as many as fit, and
a `get` answers with the last put of a topic that is held. -/
structure ExactLru (maxSize : Nat) (s : History) : Prop where
  bounded : s.cache.items.length ≤ maxSize
  keys : s.cache.items.map Prod.fst = (usesOf s.log).dedup.rtake maxSize
  hit : ∀ chatId topicId, (chatId, topicId) ∈ s.cache.items.map Prod.fst →
    ∃ title, lastPut? s.log (chatId, topicId) = some title ∧
      (s.cache.get chatId topicId).1 = (true, title)
  miss : ∀ chatId topicId, (chatId, topicId) ∉ s.cache.items.map Prod.fst →
    (s.cache.get chatId topicId).1 = (false, none)

/-- The cache after these uses, with the value that each topic was given last. -/
def Tracks (cache : TopicTitleCache) (uses : List TopicKey)
    (value : TopicKey → Option (Option String)) : Prop :=
  Recency.Exact cache.maxSize uses value cache.items

section Tracking

variable {cache : TopicTitleCache} {uses : List TopicKey}
  {value : TopicKey → Option (Option String)} {chatId topicId : Int} {title : Option String}

/-- A cache that was just made tracks nothing, whatever the topics are worth. -/
theorem tracks_of_make {maxSize : Nat} (made : make maxSize = some cache) :
    cache.maxSize = maxSize ∧ cache.Tracks [] value := by
  unfold make at made
  split at made
  · cases made
    exact ⟨rfl, .nil⟩
  · cases made

/-- A hit answers with the value, and is a use. -/
theorem get_of_held (tracks : cache.Tracks uses value)
    (there : (chatId, topicId) ∈ Recency.held cache.maxSize uses) :
    ∃ title touched, value (chatId, topicId) = some title ∧
      cache.get chatId topicId = ((true, title), touched) ∧ touched.maxSize = cache.maxSize ∧
      touched.Tracks (uses ++ [(chatId, topicId)]) value := by
  have found : Recency.getItem? cache.items (chatId, topicId) = value (chatId, topicId) :=
    tracks.getItem?_eq.trans (if_pos there)
  cases given : value (chatId, topicId) with
  | none =>
      rw [← tracks.keys] at there
      rcases List.mem_map.1 there with ⟨entry, listed, own⟩
      have stored := tracks.values entry listed
      rw [own, given] at stored
      cases stored
  | some title =>
      rw [given] at found
      refine ⟨title, { cache with items := Recency.moveToEnd cache.items (chatId, topicId) }, rfl,
        ?_, rfl, tracks.touch there⟩
      unfold get
      dsimp only
      rw [found]

/-- A miss changes nothing. -/
theorem get_of_absent (tracks : cache.Tracks uses value)
    (absent : (chatId, topicId) ∉ Recency.held cache.maxSize uses) :
    cache.get chatId topicId = ((false, none), cache) := by
  have found : Recency.getItem? cache.items (chatId, topicId) = none :=
    tracks.getItem?_eq.trans (if_neg absent)
  unfold get
  dsimp only
  rw [found]

theorem put_tracks (tracks : cache.Tracks uses value) :
    (cache.put chatId topicId title).Tracks (uses ++ [(chatId, topicId)])
      (Function.update value (chatId, topicId) (some title)) := by
  rcases cache with ⟨maxSize, positive, items⟩
  cases maxSize with
  | zero => exact absurd positive (Nat.not_succ_le_zero 0)
  | succ size => exact Recency.Exact.put tracks

end Tracking

section Runs

variable {cache : TopicTitleCache} {log : List Entry} {entry : Entry} {chatId topicId : Int}
  {s t : History} {maxSize : Nat}

theorem usesOf_snoc : usesOf (log ++ [entry]) = usesOf log ++ entry.use?.toList := by
  unfold usesOf
  rw [List.filterMap_append]
  cases used : entry.use? <;> simp [used]

theorem lastPut?_snoc_get {answer : Option (Bool × Option String)} :
    lastPut? (log ++ [⟨.get chatId topicId, answer⟩]) = lastPut? log := by
  funext key
  exact Log.latest_snoc_of_none rfl

theorem lastPut?_snoc_put {title : Option String} {answer : Option (Bool × Option String)} :
    lastPut? (log ++ [⟨.put chatId topicId title, answer⟩]) =
      Function.update (lastPut? log) (chatId, topicId) (some title) := by
  funext key
  by_cases own : (chatId, topicId) = key
  · rw [← own, Function.update_self]
    exact Log.latest_snoc_of_some (if_pos rfl)
  · rw [Function.update_of_ne (fun same => own same.symm)]
    exact Log.latest_snoc_of_none (if_neg own)

/-- The cache agrees with the calls so far. -/
structure History.Ok (maxSize : Nat) (s : History) : Prop where
  size : s.cache.maxSize = maxSize
  tracks : s.cache.Tracks (usesOf s.log) (lastPut? s.log)

theorem ok_step (ok : s.Ok maxSize) {call : Call} (next : step s call = some t) :
    t.Ok maxSize := by
  cases call with
  | get chatId topicId =>
      dsimp only [step] at next
      by_cases there : (chatId, topicId) ∈ Recency.held s.cache.maxSize (usesOf s.log)
      · rcases get_of_held ok.tracks there with ⟨title, touched, _, answer, same, tracks⟩
        rw [answer] at next
        cases next
        refine ⟨same.trans ok.size, ?_⟩
        rw [usesOf_snoc, lastPut?_snoc_get]
        exact tracks
      · rw [get_of_absent ok.tracks there] at next
        cases next
        refine ⟨ok.size, ?_⟩
        rw [usesOf_snoc, lastPut?_snoc_get]
        exact (List.append_nil (usesOf s.log)).symm ▸ ok.tracks
  | put chatId topicId title =>
      cases next
      refine ⟨ok.size, ?_⟩
      rw [usesOf_snoc, lastPut?_snoc_put]
      exact put_tracks ok.tracks

theorem History.Ok.exactLru (ok : s.Ok maxSize) : ExactLru maxSize s where
  bounded := by
    rw [← ok.size, ← List.length_map Prod.fst, ok.tracks.keys]
    exact Recency.length_held_le
  keys := ok.size ▸ ok.tracks.keys
  hit chatId topicId there := by
    rw [ok.tracks.keys] at there
    rcases get_of_held ok.tracks there with ⟨title, _, given, answer, _, _⟩
    exact ⟨title, given, congrArg Prod.fst answer⟩
  miss chatId topicId absent := by
    rw [ok.tracks.keys] at absent
    exact congrArg Prod.fst (get_of_absent ok.tracks absent)

end Runs

open Transition in
/-- After any calls, a cache of any size is an exact LRU. -/
theorem exact_lru {maxSize : Nat} {cache : TopicTitleCache} {calls : List Call} {s : History}
    (made : make maxSize = some cache) (run : Run step anyEvent ⟨cache, []⟩ calls s) :
    ExactLru maxSize s := by
  have start : History.Ok maxSize ⟨cache, []⟩ :=
    ⟨(@tracks_of_make cache (lastPut? []) maxSize made).1, (tracks_of_make made).2⟩
  exact (run.invariant start (fun _ _ _ ok _ next => ok_step ok next)).exactLru

open Transition in
/-- Of three topics the one that was used last stays, and so does a title that is absent. -/
theorem exact_lru_sample : ∃ cache s, make 2 = some cache ∧ ExactLru 2 s ∧
    s.cache.items = [((-1001, 1), some "General"), ((-1001, 2), none)] := by
  have computed : (exec step anyEvent ⟨⟨2, by decide, []⟩, []⟩
      [.put (-1001) 1 (some "General"), .put (-1002) 1 (some "General elsewhere"),
        .get (-1001) 1, .get (-1002) 2, .put (-1001) 2 none]).map (fun s => s.cache.items) =
      some [((-1001, 1), some "General"), ((-1001, 2), none)] := by
    decide +kernel
  rcases Run.exists_of_exec computed with ⟨s, run, items⟩
  exact ⟨_, s, rfl, exact_lru rfl run, items⟩

end TopicTitleCache

end LeadAssistant
