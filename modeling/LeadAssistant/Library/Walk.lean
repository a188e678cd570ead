/-
Module: LeadAssistant.Library.Walk
Layer: Library
Purpose: Walks along a partial successor. What stands at a key may depend on the steps taken so far,
  and may refuse to be shown. A stretch never asks for a key twice. The walk is deterministic, so
  stretches are ordered by length, and one that has come to an end within a bound is the longest.
Trusted boundary: none
Main exports: Walks.Rules, Walks.Stretch, Walks.Ends, Walks.Stretch.longest, Walks.Ends.unique
-/
import Mathlib.Data.List.Basic
import Mathlib.Data.List.Infix

namespace Walks

/-- Where a walk starts, what it finds at a key, and where that leads. -/
structure Rules (κ α ε : Type*) where
  start : κ
  look : List (κ × α) → κ → Except ε α
  follow : α → Option κ

/-- The reasons for which a walk is over. -/
inductive Ending (κ ε : Type*) where
  | root
  | cycle (key : κ)
  | bound (key : κ)
  | blocked (key : κ) (cause : ε)

variable {κ α ε : Type*} {rules : Rules κ α ε} {steps others : List (κ × α)} {bound : Nat}

namespace Rules

/-- The key that comes after some steps. -/
def next (rules : Rules κ α ε) (steps : List (κ × α)) : Option κ :=
  match steps.getLast? with
  | none => some rules.start
  | some step => rules.follow step.2

@[simp] theorem next_snoc {step : κ × α} : rules.next (steps ++ [step]) = rules.follow step.2 := by
  unfold next
  rw [List.getLast?_concat]

end Rules

/-- The steps of a walk from its start: each is found at the key after the steps before it, which
has not been asked for yet. -/
inductive Stretch (rules : Rules κ α ε) : List (κ × α) → Prop where
  | nil : Stretch rules []
  | snoc {steps : List (κ × α)} {key : κ} {found : α} (before : Stretch rules steps)
      (next : rules.next steps = some key) (fresh : key ∉ steps.map Prod.fst)
      (shown : rules.look steps key = .ok found) : Stretch rules (steps ++ [(key, found)])

/-- How a walk of at most `bound` steps is over after some steps. -/
inductive Ends (rules : Rules κ α ε) (bound : Nat) (steps : List (κ × α)) : Ending κ ε → Prop where
  | root (next : rules.next steps = none) : Ends rules bound steps .root
  | cycle {key : κ} (short : steps.length < bound) (next : rules.next steps = some key)
      (again : key ∈ steps.map Prod.fst) : Ends rules bound steps (.cycle key)
  | bound {key : κ} (full : steps.length = bound) (next : rules.next steps = some key) :
      Ends rules bound steps (.bound key)
  | blocked {key : κ} {cause : ε} (short : steps.length < bound)
      (next : rules.next steps = some key) (fresh : key ∉ steps.map Prod.fst)
      (refused : rules.look steps key = .error cause) : Ends rules bound steps (.blocked key cause)

/-- The walk is deterministic: of two stretches the shorter one begins the other. -/
theorem Stretch.prefix_of_length_le (stretch : Stretch rules steps)
    (other : Stretch rules others) (short : others.length ≤ steps.length) : others <+: steps := by
  induction stretch generalizing others with
  | nil => rw [List.length_eq_zero_iff.1 (Nat.le_zero.1 short)]
  | @snoc steps key found before next _ shown ih =>
      cases other with
      | nil => exact List.nil_prefix
      | @snoc others key' found' before' next' fresh' shown' =>
          rw [List.length_append, List.length_append, List.length_singleton,
            List.length_singleton, Nat.add_le_add_iff_right] at short
          have begins := ih before' short
          rcases Nat.lt_or_ge others.length steps.length with shorter | same
          · have whole := ih (.snoc before' next' fresh' shown') (by
              rw [List.length_append, List.length_singleton]
              exact shorter)
            exact whole.trans (List.prefix_append _ _)
          · have equal := begins.eq_of_length (Nat.le_antisymm short same)
            subst equal
            have key_eq : key' = key := Option.some.inj (next'.symm.trans next)
            subst key_eq
            have found_eq : found' = found := Except.ok.inj (shown'.symm.trans shown)
            rw [found_eq]

/-- A stretch that is over is the longest within the bound. -/
theorem Stretch.longest {ending : Ending κ ε} (stretch : Stretch rules steps)
    (ends : Ends rules bound steps ending) (other : Stretch rules others)
    (within : others.length ≤ bound) : others <+: steps := by
  induction other with
  | nil => exact List.nil_prefix
  | @snoc others key found before next fresh shown ih =>
      rw [List.length_append, List.length_singleton] at within
      have begins := ih (Nat.le_of_succ_le within)
      rcases Nat.lt_or_ge others.length steps.length with shorter | longer
      · refine stretch.prefix_of_length_le (.snoc before next fresh shown) ?_
        rw [List.length_append, List.length_singleton]
        exact shorter
      · -- The stretch itself would go on, against the way in which it is over.
        have equal := begins.eq_of_length (Nat.le_antisymm begins.length_le longer)
        subst equal
        cases ends with
        | root ahead => cases ahead.symm.trans next
        | cycle _ ahead again =>
            cases ahead.symm.trans next
            exact absurd again fresh
        | bound full _ => omega
        | blocked _ ahead _ refused =>
            cases ahead.symm.trans next
            cases refused.symm.trans shown

/-- A walk is over in one way. -/
theorem Ends.unique {ending other : Ending κ ε} (ends : Ends rules bound steps ending)
    (ends' : Ends rules bound steps other) : ending = other := by
  cases ends with
  | root next =>
      cases ends' with
      | root => rfl
      | cycle _ next' | bound _ next' | blocked _ next' => cases next.symm.trans next'
  | cycle short next again =>
      cases ends' with
      | root next' => cases next.symm.trans next'
      | cycle _ next' => cases next.symm.trans next'; rfl
      | bound full => omega
      | blocked _ next' fresh =>
          cases next.symm.trans next'
          exact absurd again fresh
  | bound full next =>
      cases ends' with
      | root next' => cases next.symm.trans next'
      | cycle short | blocked short => omega
      | bound _ next' => cases next.symm.trans next'; rfl
  | blocked short next fresh refused =>
      cases ends' with
      | root next' => cases next.symm.trans next'
      | cycle _ next' again =>
          cases next.symm.trans next'
          exact absurd again fresh
      | bound full => omega
      | blocked _ next' _ refused' =>
          cases next.symm.trans next'
          cases refused.symm.trans refused'
          rfl

end Walks
