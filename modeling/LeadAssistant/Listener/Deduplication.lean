/-
Module: LeadAssistant.Listener.Deduplication
Layer: Listener
Purpose: Content deduplication as calls one after another: registrations of fingerprints and
  retention passes, on one clock that never goes back. The fingerprint table agrees with the whole
  history of calls, so a decision does not depend on what retention has removed.
Trusted boundary: human-reviewed spec
Main exports: Call, Ledger, step, sequential_deduplication
-/
import LeadAssistant.Library.Log
import LeadAssistant.Library.SlidingWindow
import LeadAssistant.Library.Transition
import LeadAssistant.Repositories.Jobs
import LeadAssistant.Repositories.Retention

namespace LeadAssistant.Deduplication

open Relational SlidingWindow Transition

/-- One `register_fingerprint` call. -/
structure Request where
  telegramChatId : Int
  fingerprint : String
  now : Time
deriving Repr, DecidableEq

def Request.key (request : Request) : Int × String :=
  (request.telegramChatId, request.fingerprint)

/-- A call with its answer. -/
structure Call where
  request : Request
  admitted : Bool
deriving Repr, DecidableEq

/-- The database, the time of the last event, and the calls made so far, which nothing reads. -/
structure Ledger where
  db : Database
  clock : Time
  calls : List Call := []

inductive Event where
  | register (request : Request)
  | cleanup (locked : RowLocks) (now : Time) (temporaryTtl relevantRetention : Int)
      (batchSize : Nat)

/-- The call an event makes. -/
def Event.request? : Event → Option Request
  | .register request => some request
  | .cleanup .. => none

def step (window : Int) (l : Ledger) : Event → Option Ledger
  | .register request =>
      if l.clock ≤ request.now then
        let answer := JobRepository.registerFingerprint request.telegramChatId
          request.fingerprint window request.now request.now l.db
        some ⟨answer.2, request.now, l.calls ++ [⟨request, answer.1⟩]⟩
      else none
  | .cleanup locked now temporaryTtl relevantRetention batchSize =>
      if l.clock ≤ now then
        some ⟨(RetentionRepository.cleanupOnce locked temporaryTtl relevantRetention window batchSize
          now l.db).2, now, l.calls⟩
      else none

/-- The start: no call has been made and no fingerprint is stored. -/
structure Ledger.Fresh (l : Ledger) : Prop where
  noFingerprint : ∀ row, row ∉ l.db.recentMessageFingerprints
  noCall : l.calls = []

/-- The sightings of a list of calls. -/
def sightings (calls : List Call) : List ((Int × String) × Time) :=
  calls.map (fun call => (call.request.key, call.request.now))

/-- The last sighting that the table has of a key. -/
def lastSeen (db : Database) (key : Int × String) : Option Time :=
  JobRepository.existing key.1 key.2 db.recentMessageFingerprints

/-- What the law says of a request after the given calls. -/
def Admissible (window : Int) (earlier : List Call) (request : Request) : Prop :=
  ¬ ∃ call ∈ earlier, call.request.key = request.key ∧ request.now - window < call.request.now

theorem admissible_iff {window : Int} {earlier : List Call} {request : Request} :
    Admissible window earlier request ↔
      Outside (sightings earlier) (request.now - window) request.key := by
  unfold Admissible Outside sightings
  constructor
  · intro none_inside t sighted
    rcases List.mem_map.1 sighted with ⟨call, made, same⟩
    simp only [Prod.mk.injEq] at same
    by_contra inside
    rw [← same.2] at inside
    exact none_inside ⟨call, made, same.1, not_le.1 inside⟩
  · rintro outside ⟨call, made, same, inside⟩
    have old := outside call.request.now (List.mem_map.2 ⟨call, made, by rw [same]⟩)
    exact absurd inside (not_lt.2 old)

/-- The table agrees with the calls, none of which is in the future. -/
structure Sound (window : Int) (l : Ledger) : Prop where
  past : ∀ sighting ∈ sightings l.calls, sighting.2 ≤ l.clock
  agrees : Agrees (sightings l.calls) (l.clock - window) (lastSeen l.db)

theorem Sound.of_fresh {window : Int} {l : Ledger} (fresh : l.Fresh) : Sound window l := by
  have empty : lastSeen l.db = fun _ => none := by
    funext key
    unfold lastSeen JobRepository.existing
    rw [Option.map_eq_none_iff, Table.get?_eq_none_iff]
    intro row held
    exact absurd held (fresh.noFingerprint row)
  constructor
  · simp [fresh.noCall, sightings]
  · rw [fresh.noCall, empty]
    exact Agrees.nil

section Registration

variable {window : Int} {db : Database} {request : Request}

/-- After a registration the key was seen now, and no other key changed. -/
theorem lastSeen_register {key : Int × String} :
    lastSeen (JobRepository.registerFingerprint request.telegramChatId request.fingerprint window
      request.now request.now db).2 key =
      if key = request.key then some request.now else lastSeen db key := by
  exact JobRepository.existing_recordSighting

/-- The answer depends on the table's last sighting alone. -/
theorem registered_iff :
    (JobRepository.registerFingerprint request.telegramChatId request.fingerprint window
      request.now request.now db).1 = true ↔
      ∀ t ∈ lastSeen db request.key, t ≤ request.now - window := by
  have prior : lastSeen db request.key = JobRepository.existing request.telegramChatId
      request.fingerprint db.recentMessageFingerprints := rfl
  rw [prior]
  unfold JobRepository.registerFingerprint JobRepository.admits
  cases JobRepository.existing request.telegramChatId request.fingerprint
    db.recentMessageFingerprints <;> simp

end Registration

/-- A retention pass forgets only keys last seen before the window. -/
theorem lastSeen_cleanup {locked : RowLocks} {window temporaryTtl relevantRetention : Int}
    {batchSize : Nat} {now : Time} {db : Database} (key : Int × String) :
    let cleaned := (RetentionRepository.cleanupOnce locked temporaryTtl relevantRetention window
      batchSize now db).2
    lastSeen cleaned key = lastSeen db key ∨
      lastSeen cleaned key = none ∧ ∃ t, lastSeen db key = some t ∧ t ≤ now - window := by
  intro cleaned
  let time : RecentMessageFingerprint → Time := fun row => row.lastSeenAt
  rcases @Table.get?_deleteBatch _ _ _ _ _ _ db.recentMessageFingerprints
    (fun row => RetentionRepository.expiredFingerprint now window row && !locked.fingerprint row.key)
    time batchSize key
    with same | ⟨gone, row, found, expired⟩
  · left
    exact congrArg (Option.map time) same
  · right
    constructor
    · exact congrArg (Option.map time) gone
    · have expired := (Bool.and_eq_true_iff.1 expired).1
      unfold RetentionRepository.expiredFingerprint at expired
      rw [decide_eq_true_eq] at expired
      exact ⟨row.lastSeenAt, congrArg (Option.map time) found, expired.le⟩

section Steps

variable {window : Int} {l u : Ledger} {e : Event}

theorem step_cleanup {locked : RowLocks} {now : Time} {temporaryTtl relevantRetention : Int}
    {batchSize : Nat}
    (next : step window l (.cleanup locked now temporaryTtl relevantRetention batchSize) = some u) :
    l.clock ≤ now ∧ u = ⟨(RetentionRepository.cleanupOnce locked temporaryTtl relevantRetention
      window batchSize now l.db).2, now, l.calls⟩ := by
  simp only [step] at next
  split at next
  · rename_i forward
    exact ⟨forward, (Option.some.inj next).symm⟩
  · cases next

theorem step_register {request : Request} (next : step window l (.register request) = some u) :
    l.clock ≤ request.now ∧
      u = ⟨(JobRepository.registerFingerprint request.telegramChatId request.fingerprint window
          request.now request.now l.db).2, request.now,
        l.calls ++ [⟨request, (JobRepository.registerFingerprint request.telegramChatId
          request.fingerprint window request.now request.now l.db).1⟩]⟩ := by
  simp only [step] at next
  split at next
  · rename_i forward
    exact ⟨forward, (Option.some.inj next).symm⟩
  · cases next

/-- A step appends the call of its event, answered as the law says. -/
theorem step_calls (sound : Sound window l) (next : step window l e = some u) :
    match e.request? with
    | none => u.calls = l.calls
    | some request => ∃ admitted, u.calls = l.calls ++ [⟨request, admitted⟩] ∧
        (admitted = true ↔ Admissible window l.calls request) := by
  cases e with
  | cleanup locked now temporaryTtl relevantRetention batchSize =>
      rcases step_cleanup next with ⟨_, rfl⟩
      rfl
  | register request =>
      rcases step_register next with ⟨forward, rfl⟩
      have current := sound.agrees.later (Int.sub_le_sub_right forward window)
      refine ⟨_, rfl, ?_⟩
      rw [registered_iff, admissible_iff]
      exact current.outside_iff

theorem sound_step (sound : Sound window l) (next : step window l e = some u) :
    Sound window u := by
  cases e with
  | cleanup locked now temporaryTtl relevantRetention batchSize =>
      rcases step_cleanup next with ⟨forward, rfl⟩
      have current := sound.agrees.later (Int.sub_le_sub_right forward window)
      constructor
      · exact fun sighting made => (sound.past sighting made).trans forward
      · exact current.forget lastSeen_cleanup
  | register request =>
      rcases step_register next with ⟨forward, rfl⟩
      have current := sound.agrees.later (Int.sub_le_sub_right forward window)
      have past : ∀ sighting ∈ sightings l.calls, sighting.2 ≤ request.now :=
        fun sighting made => (sound.past sighting made).trans forward
      constructor
      · intro sighting made
        simp only [sightings, List.map_append, List.map_cons, List.map_nil, List.mem_append,
          List.mem_singleton] at made
        rcases made with before | rfl
        · exact past sighting before
        · exact le_refl _
      · simp only [sightings, List.map_append, List.map_cons, List.map_nil]
        apply current.record past
        · rw [lastSeen_register, if_pos rfl]
        · intro key ne
          rw [lastSeen_register, if_neg ne]

end Steps

section Runs

variable {window : Int} {l t : Ledger} {es : List Event}

theorem sound_run (fresh : l.Fresh) (run : Run (step window) anyEvent l es t) : Sound window t :=
  run.invariant (Sound.of_fresh fresh) (fun _ _ _ sound _ next => sound_step sound next)

/-- The calls of a run are the registrations among its events. -/
theorem requests_run (fresh : l.Fresh) (run : Run (step window) anyEvent l es t) :
    t.calls.map (fun call => call.request) = es.filterMap Event.request? := by
  induction run with
  | nil => simp [fresh.noCall]
  | @snoc t u es e before _ next ih =>
      have made := step_calls (sound_run fresh before) next
      rw [List.filterMap_append, ← ih]
      cases asked : e.request? with
      | none =>
          rw [asked] at made
          simp [made, asked]
      | some request =>
          rw [asked] at made
          rcases made with ⟨admitted, appended, _⟩
          simp [appended, asked]

/-- Every call of a run is answered as the law says of the calls before it. -/
theorem admitted_run (fresh : l.Fresh) (run : Run (step window) anyEvent l es t) :
    Log.EachAfter (fun before call => call.admitted = true ↔ Admissible window before call.request)
      t.calls := by
  induction run with
  | nil =>
      rw [fresh.noCall]
      exact Log.eachAfter_nil
  | @snoc t u es e earlier _ next ih =>
      have made := step_calls (sound_run fresh earlier) next
      cases asked : e.request? with
      | none =>
          rw [asked] at made
          rw [made]
          exact ih
      | some request =>
          rw [asked] at made
          rcases made with ⟨admitted, appended, decided⟩
          rw [appended, Log.eachAfter_snoc_iff]
          exact ⟨ih, decided⟩

end Runs

/-- The request of a call and the law determine its answer. -/
theorem call_eq {window : Int} {before : List Call} {call call' : Call}
    (law : call.admitted = true ↔ Admissible window before call.request)
    (law' : call'.admitted = true ↔ Admissible window before call'.request)
    (same : call.request = call'.request) : call = call' := by
  rw [← same, ← law] at law'
  have admitted : call'.admitted = call.admitted := Bool.eq_iff_iff.2 law'
  cases call
  cases call'
  simp_all

/-- Sequential deduplication: a run makes exactly the calls among its events, a call is admitted if
and only if no earlier call for its key lies inside the window, and two runs that make the same
calls answer them alike, whatever retention passes they take. -/
theorem sequential_deduplication {window : Int} {l t : Ledger} {es : List Event} (fresh : l.Fresh)
    (run : Run (step window) anyEvent l es t) :
    t.calls.map (fun call => call.request) = es.filterMap Event.request? ∧
    (∀ before call after, t.calls = before ++ call :: after →
      (call.admitted = true ↔ Admissible window before call.request)) ∧
    ∀ {l' t' : Ledger} {es' : List Event}, l'.Fresh → Run (step window) anyEvent l' es' t' →
      es'.filterMap Event.request? = es.filterMap Event.request? → t'.calls = t.calls := by
  refine ⟨requests_run fresh run, admitted_run fresh run, ?_⟩
  intro l' t' es' fresh' run' same
  apply Log.eq_of_eachAfter call_eq _ (admitted_run fresh' run') (admitted_run fresh run)
  rw [requests_run fresh run, requests_run fresh' run', same]

/-- Three sightings of one post, with the row of the second removed before the third. -/
def sampleEvents : List Event :=
  [.register ⟨-100, "a", 0⟩, .register ⟨-100, "a", 5⟩, .cleanup {} 16 100 100 1,
    .register ⟨-100, "a", 16⟩]

theorem sequential_deduplication_sample : ∃ t : Ledger,
    t.calls = [⟨⟨-100, "a", 0⟩, true⟩, ⟨⟨-100, "a", 5⟩, false⟩, ⟨⟨-100, "a", 16⟩, true⟩] ∧
    Admissible 10 [⟨⟨-100, "a", 0⟩, true⟩, ⟨⟨-100, "a", 5⟩, false⟩] ⟨-100, "a", 16⟩ := by
  have computed : (exec (step 10) anyEvent ⟨{}, 0, []⟩ sampleEvents).map (fun t => t.calls) =
      some [⟨⟨-100, "a", 0⟩, true⟩, ⟨⟨-100, "a", 5⟩, false⟩, ⟨⟨-100, "a", 16⟩, true⟩] := by
    decide +kernel
  rcases Run.exists_of_exec computed with ⟨t, run, calls⟩
  have fresh : Ledger.Fresh ⟨{}, 0, []⟩ := ⟨fun row => Table.not_mem_empty row, rfl⟩
  have law := (sequential_deduplication fresh run).2.1
  exact ⟨t, calls, (law [⟨⟨-100, "a", 0⟩, true⟩, ⟨⟨-100, "a", 5⟩, false⟩]
    ⟨⟨-100, "a", 16⟩, true⟩ [] calls).1 rfl⟩

end LeadAssistant.Deduplication
