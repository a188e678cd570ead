/-
Module: LeadAssistant.Library.Outbox
Layer: Library
Purpose: Items that are delivered by calls to the outside, with a bounded number of attempts. A
  worker claims an item in a transaction, makes one call, and settles the item by the answer; the
  transaction may end without that at any point, and a call may be accepted without an answer that
  says so. What was accepted and called is accounted for item by item.
Trusted boundary: none
Main exports: Outbox.Status, Outbox.State, Outbox.Step, Outbox.Sound, Outbox.Step.sound
-/
import Mathlib.Logic.Function.Basic

namespace Outbox

/-- Where an item stands, with the number of settled attempts that have failed. -/
inductive Status where
  | waiting (failures : Nat)
  | delivered (failures : Nat)
  | givenUp
deriving Repr, DecidableEq

/-- How far the transaction that has claimed an item is. A call was accepted or not, and its answer
says that it was or does not. -/
inductive Stage where
  | claimed
  | answered (accepted acknowledged : Bool)
deriving Repr, DecidableEq

/-- The items, the open transactions, and for each item the number of calls, of accepted calls, of
accepted calls that were settled as failures, and of calls and accepted calls whose transaction has
not settled them. -/
structure State (κ : Type*) where
  status : κ → Option Status
  opened : κ → Option Stage
  calls : κ → Nat
  accepted : κ → Nat
  unacknowledged : κ → Nat
  dropped : κ → Nat
  lost : κ → Nat

variable {κ : Type*} [DecidableEq κ]

/-- The function with a value added at one place. -/
def bump (f : κ → Nat) (k : κ) (n : Nat) : κ → Nat := Function.update f k (f k + n)

/-- The status after an attempt that was not acknowledged. -/
def Status.afterFailure (limit failures : Nat) : Status :=
  if failures < limit then .waiting (failures + 1) else .givenUp

/-- One step; `limit` is the number of attempts that are made again. -/
inductive Step (limit : Nat) (s : State κ) : State κ → Prop where
  | add (k : κ) (new : s.status k = none) :
      Step limit s { s with status := Function.update s.status k (some (.waiting 0)) }
  | claim (k : κ) (failures : Nat) (waiting : s.status k = some (.waiting failures))
      (free : s.opened k = none) :
      Step limit s { s with opened := Function.update s.opened k (some .claimed) }
  | answer (k : κ) (accepted acknowledged : Bool) (claimed : s.opened k = some .claimed)
      (honest : acknowledged = true → accepted = true) :
      Step limit s { s with
        opened := Function.update s.opened k (some (.answered accepted acknowledged))
        calls := bump s.calls k 1
        accepted := bump s.accepted k accepted.toNat }
  | succeed (k : κ) (failures : Nat) (accepted : Bool)
      (waiting : s.status k = some (.waiting failures))
      (answered : s.opened k = some (.answered accepted true)) :
      Step limit s { s with
        status := Function.update s.status k (some (.delivered failures))
        opened := Function.update s.opened k none }
  | fail (k : κ) (failures : Nat) (accepted : Bool)
      (waiting : s.status k = some (.waiting failures))
      (answered : s.opened k = some (.answered accepted false)) :
      Step limit s { s with
        status := Function.update s.status k (some (.afterFailure limit failures))
        opened := Function.update s.opened k none
        unacknowledged := bump s.unacknowledged k accepted.toNat }
  | release (k : κ) (claimed : s.opened k = some .claimed) :
      Step limit s { s with opened := Function.update s.opened k none }
  | abandon (k : κ) (accepted acknowledged : Bool)
      (answered : s.opened k = some (.answered accepted acknowledged)) :
      Step limit s { s with
        opened := Function.update s.opened k none
        dropped := bump s.dropped k 1
        lost := bump s.lost k accepted.toNat }

/-- The attempts that a status counts. -/
def attempts (limit : Nat) : Option Status → Nat
  | none => 0
  | some (.waiting failures) => failures
  | some (.delivered failures) => failures + 1
  | some .givenUp => limit + 1

/-- The deliveries that a status counts. -/
def deliveries : Option Status → Nat
  | some (.delivered _) => 1
  | _ => 0

/-- The calls of an open transaction, and those of them that were accepted. -/
def openCalls : Option Stage → Nat
  | some (.answered ..) => 1
  | _ => 0

def openAccepted : Option Stage → Nat
  | some (.answered accepted _) => accepted.toNat
  | _ => 0

/-- The books of one item. -/
structure Balanced (limit : Nat) (status : Option Status) (opened : Option Stage)
    (calls accepted unacknowledged dropped lost : Nat) : Prop where
  calls : calls = attempts limit status + dropped + openCalls opened
  accepted : accepted = deliveries status + unacknowledged + lost + openAccepted opened
  bounded : attempts limit status ≤ limit + 1
  retried : ∀ failures, status = some (.waiting failures) → failures ≤ limit
  honest : ∀ a, opened = some (.answered a true) → a = true
  known : opened.isSome → ∃ failures, status = some (.waiting failures)

/-- The books of every item are balanced. -/
def Sound (limit : Nat) (s : State κ) : Prop :=
  ∀ k, Balanced limit (s.status k) (s.opened k) (s.calls k) (s.accepted k) (s.unacknowledged k)
    (s.dropped k) (s.lost k)

variable {limit : Nat} {s t : State κ}

theorem bump_self (f : κ → Nat) (k : κ) (n : Nat) : bump f k n k = f k + n :=
  Function.update_self ..

theorem bump_other {f : κ → Nat} {k other : κ} {n : Nat} (apart : other ≠ k) :
    bump f k n other = f other :=
  Function.update_of_ne apart ..

/-! ### The books of one item -/

section Books

variable {status : Option Status} {opened : Option Stage} {failures c a u d l : Nat}
  {accepted acknowledged : Bool}

theorem Balanced.added (before : Balanced limit none opened c a u d l) :
    Balanced limit (some (.waiting 0)) opened c a u d l := by
  have idle : opened = none := by
    by_contra some_opened
    obtain ⟨failures, waiting⟩ := before.known (Option.isSome_iff_ne_none.2 some_opened)
    cases waiting
  subst idle
  constructor
  · exact before.calls
  · exact before.accepted
  · simp [attempts]
  · rintro failures ⟨⟩
    exact Nat.zero_le _
  · rintro a ⟨⟩
  · rintro ⟨⟩

theorem Balanced.claimed (before : Balanced limit (some (.waiting failures)) none c a u d l) :
    Balanced limit (some (.waiting failures)) (some .claimed) c a u d l where
  calls := before.calls
  accepted := before.accepted
  bounded := before.bounded
  retried := before.retried
  honest := by rintro a ⟨⟩
  known _ := ⟨failures, rfl⟩

theorem Balanced.answered (before : Balanced limit status (some .claimed) c a u d l)
    (honest : acknowledged = true → accepted = true) :
    Balanced limit status (some (.answered accepted acknowledged)) (c + 1) (a + accepted.toNat)
      u d l := by
  refine ⟨?_, ?_, before.bounded, before.retried, ?_, fun _ => before.known rfl⟩
  · have calls := before.calls
    simp only [openCalls] at calls ⊢
    omega
  · have books := before.accepted
    simp only [openAccepted] at books ⊢
    omega
  · rintro a ⟨⟩
    exact honest rfl

theorem Balanced.succeeded
    (before : Balanced limit (some (.waiting failures)) (some (.answered accepted true)) c a u d l) :
    Balanced limit (some (.delivered failures)) none c a u d l := by
  have retried := before.retried failures rfl
  have certain := before.honest accepted rfl
  refine ⟨?_, ?_, ?_, ?_, ?_, ?_⟩
  · have calls := before.calls
    simp only [attempts, openCalls] at calls ⊢
    omega
  · have books := before.accepted
    rw [certain] at books
    simp only [deliveries, openAccepted, Bool.toNat_true] at books ⊢
    omega
  · simp only [attempts]
    omega
  · rintro n ⟨⟩
  · rintro a ⟨⟩
  · rintro ⟨⟩

theorem attempts_afterFailure (retried : failures ≤ limit) :
    attempts limit (some (.afterFailure limit failures)) = failures + 1 := by
  unfold Status.afterFailure
  split
  · rfl
  · simp only [attempts]
    omega

theorem deliveries_afterFailure : deliveries (some (.afterFailure limit failures)) = 0 := by
  unfold Status.afterFailure
  split <;> rfl

theorem Balanced.failed
    (before : Balanced limit (some (.waiting failures)) (some (.answered accepted false)) c a u d l) :
    Balanced limit (some (.afterFailure limit failures)) none c a (u + accepted.toNat) d l := by
  have retried := before.retried failures rfl
  have counted := attempts_afterFailure retried
  refine ⟨?_, ?_, ?_, ?_, ?_, ?_⟩
  · have calls := before.calls
    rw [counted]
    simp only [attempts, openCalls] at calls ⊢
    omega
  · have books := before.accepted
    rw [deliveries_afterFailure]
    simp only [deliveries, openAccepted] at books ⊢
    omega
  · omega
  · intro n again
    unfold Status.afterFailure at again
    split at again
    · cases again
      omega
    · cases again
  · rintro a ⟨⟩
  · rintro ⟨⟩

theorem Balanced.released (before : Balanced limit status (some .claimed) c a u d l) :
    Balanced limit status none c a u d l :=
  ⟨before.calls, before.accepted, before.bounded, before.retried, (by rintro a ⟨⟩), (by rintro ⟨⟩)⟩

theorem Balanced.abandoned
    (before : Balanced limit status (some (.answered accepted acknowledged)) c a u d l) :
    Balanced limit status none c a u (d + 1) (l + accepted.toNat) := by
  refine ⟨?_, ?_, before.bounded, before.retried, (by rintro a ⟨⟩), (by rintro ⟨⟩)⟩
  · have calls := before.calls
    simp only [openCalls] at calls ⊢
    omega
  · have books := before.accepted
    simp only [openAccepted] at books ⊢
    omega

end Books

/-- A step keeps the books of every item. -/
theorem Step.sound (step : Step limit s t) (sound : Sound limit s) : Sound limit t := by
  intro other
  have before := sound other
  cases step with
  | add k new =>
      by_cases same : other = k
      · subst same
        rw [new] at before
        simpa only [Function.update_self] using before.added
      · simpa only [Function.update_of_ne same] using before
  | claim k failures waiting free =>
      by_cases same : other = k
      · subst same
        rw [waiting, free] at before
        simpa only [Function.update_self, waiting] using before.claimed
      · simpa only [Function.update_of_ne same] using before
  | answer k accepted acknowledged claimed honest =>
      by_cases same : other = k
      · subst same
        rw [claimed] at before
        simpa only [Function.update_self, bump_self] using before.answered honest
      · simpa only [Function.update_of_ne same, bump_other same] using before
  | succeed k failures accepted waiting answered =>
      by_cases same : other = k
      · subst same
        rw [waiting, answered] at before
        simpa only [Function.update_self] using before.succeeded
      · simpa only [Function.update_of_ne same] using before
  | fail k failures accepted waiting answered =>
      by_cases same : other = k
      · subst same
        rw [waiting, answered] at before
        simpa only [Function.update_self, bump_self] using before.failed
      · simpa only [Function.update_of_ne same, bump_other same] using before
  | release k claimed =>
      by_cases same : other = k
      · subst same
        rw [claimed] at before
        simpa only [Function.update_self] using before.released
      · simpa only [Function.update_of_ne same] using before
  | abandon k accepted acknowledged answered =>
      by_cases same : other = k
      · subst same
        rw [answered] at before
        simpa only [Function.update_self, bump_self] using before.abandoned
      · simpa only [Function.update_of_ne same, bump_other same] using before

end Outbox
