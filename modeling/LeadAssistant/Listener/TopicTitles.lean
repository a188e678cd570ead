/-
Module: LeadAssistant.Listener.TopicTitles
Layer: Listener
Purpose: `get_forum_topic_title` (`listener/mtproto/client.py`), which asks Telegram for a topic
  that its cache does not hold. A lookup that ends in an error is put like a topic without a title,
  so the calls that follow do not ask again while the topic stays in the cache.
Trusted boundary: human-reviewed spec
Main exports: ForumTopic, loadTopicTitle, getForumTopicTitle, Session.step, Session.Remembers,
  Session.Clean, remembers_iff_clean, error_remembered
-/
import LeadAssistant.Listener.TelethonClient
import LeadAssistant.Listener.TopicTitleCache

namespace LeadAssistant

open TopicTitleCache

/-- A topic of the answer of `GetForumTopicsByIDRequest`; a title that is no string is absent. -/
inductive ForumTopic where
  | deleted (id : Int)
  | topic (id : Int) (title : Option String)
deriving Repr, DecidableEq

/-- How a lookup ends. -/
abbrev TopicAnswer := Except TelethonError (List ForumTopic)

/-- The title of the first topic that has the id and a title. -/
def titleOf (topicId : Int) (topics : List ForumTopic) : Option String :=
  topics.findSome? (fun
    | .deleted _ => none
    | .topic id title =>
        if id = topicId then title.map (fun title => String.ofList (title.toList.take 255))
        else none)

/-- `_load_topic_title`; what is no `ValueError` and no `RPCError` leaves it. -/
def loadTopicTitle (topicId : Int) : TopicAnswer → Except TelethonError (Option String)
  | .ok topics => .ok (titleOf topicId topics)
  | .error .connection => .error .connection
  | .error .other => .error .other
  | .error _ => .ok none

/-- A call: the topic, what Telegram answered if it was asked, and what the caller got. -/
structure TopicLookup where
  key : TopicKey
  asked : Option TopicAnswer
  returned : Except TelethonError (Option String)

/-- `get_forum_topic_title`; Telegram answers a lookup with `answer`. -/
def getForumTopicTitle (cache : TopicTitleCache) (chatId topicId : Int) (answer : TopicAnswer) :
    TopicLookup × TopicTitleCache :=
  let ((cached, title), cache) := cache.get chatId topicId
  if cached then (⟨(chatId, topicId), none, .ok title⟩, cache)
  else
    match loadTopicTitle topicId answer with
    | .ok title =>
        (⟨(chatId, topicId), some answer, .ok title⟩, cache.put chatId topicId title)
    | .error error => (⟨(chatId, topicId), some answer, .error error⟩, cache)

namespace TopicTitles

/-- A client's cache, and the calls so far, oldest first. -/
structure Session where
  cache : TopicTitleCache
  log : List TopicLookup := []

/-- A call for a topic, and how Telegram would answer. -/
structure TitleCall where
  chatId : Int
  topicId : Int
  answer : TopicAnswer

def Session.call (s : Session) (call : TitleCall) : TopicLookup :=
  (getForumTopicTitle s.cache call.chatId call.topicId call.answer).1

def Session.step (s : Session) (call : TitleCall) : Option Session :=
  let (lookup, cache) := getForumTopicTitle s.cache call.chatId call.topicId call.answer
  some ⟨cache, s.log ++ [lookup]⟩

/-- The topics of the calls that returned; each of them was found or put. -/
def usesOf (log : List TopicLookup) : List TopicKey :=
  (log.filter (fun lookup => lookup.returned.isOk)).map TopicLookup.key

/-- How the latest lookup of a topic ended. -/
def latest? (log : List TopicLookup) (key : TopicKey) : Option TopicAnswer :=
  log.reverse.findSome? (fun lookup => if lookup.key = key then lookup.asked else none)

/-- The topic was not given up since its last use. -/
def Session.StillCached (s : Session) (key : TopicKey) : Prop :=
  key ∈ Recency.held s.cache.maxSize (usesOf s.log)

/-- A title that was found is returned without asking as long as it is cached, and an error of the
latest lookup makes no call return `None` without asking. -/
structure Session.Remembers (s : Session) (call : TitleCall) : Prop where
  title : ∀ topics, latest? s.log (call.chatId, call.topicId) = some (.ok topics) →
    s.StillCached (call.chatId, call.topicId) →
      s.call call = ⟨(call.chatId, call.topicId), none, .ok (titleOf call.topicId topics)⟩
  error : ∀ error, latest? s.log (call.chatId, call.topicId) = some (.error error) →
    (s.call call).returned = .ok none → (s.call call).asked.isSome

/-- The latest lookup of the topic was no error, or was given up since. -/
def Session.Clean (s : Session) (call : TitleCall) : Prop :=
  ∀ error, latest? s.log (call.chatId, call.topicId) = some (.error error) →
    ¬ s.StillCached (call.chatId, call.topicId)

section Lookups

variable {log : List TopicLookup} {lookup : TopicLookup} {key : TopicKey} {answer : TopicAnswer}
  {title : Option String} {error : TelethonError} {cache : TopicTitleCache}
  {chatId topicId : Int} {s t : Session} {call : TitleCall}

/-- What a topic of the cache was put with: the outcome of its latest lookup. -/
def valueOf (log : List TopicLookup) (key : TopicKey) : Option (Option String) :=
  (latest? log key).bind (fun answer => (loadTopicTitle key.2 answer).toOption)

theorem usesOf_snoc : usesOf (log ++ [lookup]) =
    usesOf log ++ if lookup.returned.isOk then [lookup.key] else [] := by
  unfold usesOf
  rw [List.filter_append, List.map_append]
  cases returned : lookup.returned.isOk <;> simp [returned]

/-- An answer from the cache is no lookup. -/
theorem latest?_snoc_cached (cached : lookup.asked = none) :
    latest? (log ++ [lookup]) = latest? log := by
  funext key
  refine Log.latest_snoc_of_none ?_
  rw [cached, ite_self]

theorem latest?_snoc_asked (asked : lookup.asked = some answer) :
    latest? (log ++ [lookup]) = Function.update (latest? log) lookup.key (some answer) := by
  funext key
  by_cases own : lookup.key = key
  · rw [← own, Function.update_self]
    exact Log.latest_snoc_of_some ((if_pos rfl).trans asked)
  · rw [Function.update_of_ne (fun same => own same.symm)]
    exact Log.latest_snoc_of_none (if_neg own)

theorem valueOf_snoc_cached (cached : lookup.asked = none) :
    valueOf (log ++ [lookup]) = valueOf log := by
  unfold valueOf
  rw [latest?_snoc_cached cached]

theorem valueOf_snoc_asked (asked : lookup.asked = some answer) :
    valueOf (log ++ [lookup]) = Function.update (valueOf log) lookup.key
      (loadTopicTitle lookup.key.2 answer).toOption := by
  funext key
  unfold valueOf
  rw [latest?_snoc_asked asked]
  by_cases own : key = lookup.key
  · rw [own, Function.update_self, Function.update_self]
    rfl
  · rw [Function.update_of_ne own, Function.update_of_ne own]

/-- A topic of the cache is not asked for. -/
theorem getForumTopicTitle_of_hit {touched : TopicTitleCache}
    (hit : cache.get chatId topicId = ((true, title), touched)) :
    getForumTopicTitle cache chatId topicId answer =
      (⟨(chatId, topicId), none, .ok title⟩, touched) := by
  unfold getForumTopicTitle
  rw [hit]
  rfl

/-- A lookup that ends without an exception is put. -/
theorem getForumTopicTitle_of_loaded
    (miss : cache.get chatId topicId = ((false, none), cache))
    (loaded : loadTopicTitle topicId answer = .ok title) :
    getForumTopicTitle cache chatId topicId answer =
      (⟨(chatId, topicId), some answer, .ok title⟩, cache.put chatId topicId title) := by
  unfold getForumTopicTitle
  rw [miss]
  dsimp only
  rw [if_neg Bool.false_ne_true, loaded]

theorem getForumTopicTitle_of_raised
    (miss : cache.get chatId topicId = ((false, none), cache))
    (raised : loadTopicTitle topicId answer = .error error) :
    getForumTopicTitle cache chatId topicId answer =
      (⟨(chatId, topicId), some answer, .error error⟩, cache) := by
  unfold getForumTopicTitle
  rw [miss]
  dsimp only
  rw [if_neg Bool.false_ne_true, raised]

/-- The cache agrees with the calls so far. -/
def Session.Ok (s : Session) : Prop := s.cache.Tracks (usesOf s.log) (valueOf s.log)

theorem ok_step (ok : s.Ok) (next : s.step call = some t) : t.Ok := by
  rcases call with ⟨chatId, topicId, answer⟩
  unfold Session.step at next
  by_cases there : s.StillCached (chatId, topicId)
  · rcases get_of_held ok there with ⟨title, touched, _, hit, _, tracks⟩
    rw [getForumTopicTitle_of_hit hit] at next
    cases next
    unfold Session.Ok
    rw [usesOf_snoc, valueOf_snoc_cached rfl]
    exact tracks
  · have miss := get_of_absent ok there
    cases loaded : loadTopicTitle topicId answer with
    | ok title =>
        rw [getForumTopicTitle_of_loaded miss loaded] at next
        cases next
        unfold Session.Ok
        rw [usesOf_snoc, valueOf_snoc_asked rfl, loaded]
        exact put_tracks ok
    | error error =>
        rw [getForumTopicTitle_of_raised miss loaded] at next
        cases next
        unfold Session.Ok
        rw [usesOf_snoc, valueOf_snoc_asked rfl]
        refine (List.append_nil (usesOf s.log)).symm ▸ ok.congr (fun key held => ?_)
        -- The topic that was asked for is not held.
        have other : key ≠ (chatId, topicId) := by
          rintro rfl
          exact there held
        exact Function.update_of_ne other _ _

/-- A topic that is still cached is answered from its latest lookup. -/
theorem Session.Ok.call_of_cached (ok : s.Ok) (there : s.StillCached (call.chatId, call.topicId)) :
    ∃ answer title, latest? s.log (call.chatId, call.topicId) = some answer ∧
      loadTopicTitle call.topicId answer = .ok title ∧
      s.call call = ⟨(call.chatId, call.topicId), none, .ok title⟩ := by
  rcases get_of_held ok there with ⟨title, touched, given, hit, _, _⟩
  rcases Option.bind_eq_some_iff.1 given with ⟨answer, asked, loaded⟩
  refine ⟨answer, title, asked, ?_, congrArg Prod.fst (getForumTopicTitle_of_hit hit)⟩
  cases outcome : loadTopicTitle call.topicId answer with
  | ok found =>
      rw [outcome] at loaded
      cases loaded
      rfl
  | error error =>
      rw [outcome] at loaded
      cases loaded

theorem Session.Ok.call_of_absent (ok : s.Ok)
    (absent : ¬ s.StillCached (call.chatId, call.topicId)) :
    (s.call call).asked = some call.answer := by
  have miss := get_of_absent ok absent
  unfold Session.call
  cases loaded : loadTopicTitle call.topicId call.answer with
  | ok title => rw [getForumTopicTitle_of_loaded miss loaded]
  | error error => rw [getForumTopicTitle_of_raised miss loaded]

theorem loadTopicTitle_error (loaded : loadTopicTitle topicId (.error error) = .ok title) :
    title = none := by
  cases error <;> cases loaded <;> rfl

theorem Session.Ok.remembers_iff (ok : s.Ok) : s.Remembers call ↔ s.Clean call := by
  constructor
  · intro remembers error failed there
    rcases ok.call_of_cached there with ⟨answer, title, asked, loaded, answered⟩
    rw [failed] at asked
    cases asked
    have silent := remembers.error error failed
    rw [answered, loadTopicTitle_error loaded] at silent
    cases silent rfl
  · intro clean
    refine ⟨?_, ?_⟩
    · intro topics found there
      rcases ok.call_of_cached there with ⟨answer, title, asked, loaded, answered⟩
      rw [found] at asked
      cases asked
      cases loaded
      exact answered
    · intro error failed _
      rw [ok.call_of_absent (clean error failed)]
      rfl

end Lookups

open Transition in
/-- After any calls, a call remembers exactly what it should as long as the latest lookup of its
topic was no error or was given up. -/
theorem remembers_iff_clean {maxSize : Nat} {cache : TopicTitleCache} {calls : List TitleCall}
    {s : Session} (made : make maxSize = some cache)
    (run : Run Session.step anyEvent ⟨cache, []⟩ calls s) (call : TitleCall) :
    s.Remembers call ↔ s.Clean call := by
  have start : Session.Ok ⟨cache, []⟩ := (tracks_of_make made).2
  exact (run.invariant start (fun _ _ _ ok _ next => ok_step ok next)).remembers_iff

/-- A client whose first call for a topic was refused with a flood wait that is too long to sleep
through. -/
def afterFloodWait : Session :=
  { cache := { maxSize := 1000, positive := by decide, items := [((-1001, 42), none)] }
    log := [⟨(-1001, 42), some (.error (.floodWait 300)), .ok none⟩] }

/-- The topic that Telegram now knows. -/
def supportCall : TitleCall := ⟨-1001, 42, .ok [.topic 42 (some "Support")]⟩

open Transition in
theorem remembers_iff_clean_sample :
    ∃ s : Session, s.Remembers supportCall ∧
      (s.call supportCall).returned = .ok (some "Support") := by
  have run : Run Session.step anyEvent ⟨⟨1000, by decide, []⟩, []⟩
      [supportCall] ⟨⟨1000, by decide, [((-1001, 42), some "Support")]⟩,
        [⟨(-1001, 42), some supportCall.answer, .ok (some "Support")⟩]⟩ :=
    .snoc .nil trivial rfl
  refine ⟨_, (@remembers_iff_clean 1000 _ _ _ rfl run supportCall).2 ?_, rfl⟩
  intro error failed
  cases failed

open Transition in
/-- After a flood wait the title is `None`, and Telegram is not asked. -/
theorem error_remembered : ¬ ∀ (cache : TopicTitleCache) (calls : List TitleCall) (s : Session),
    make = some cache → Run Session.step anyEvent ⟨cache, []⟩ calls s →
      ∀ call, s.Remembers call := by
  intro claim
  have run : Run Session.step anyEvent ⟨⟨1000, by decide, []⟩, []⟩
      [⟨-1001, 42, .error (.floodWait 300)⟩] afterFloodWait := .snoc .nil trivial rfl
  have asked := (claim _ _ _ rfl run supportCall).error (.floodWait 300) rfl rfl
  cases asked

end TopicTitles

end LeadAssistant
