/-
Module: LeadAssistant.Library.Packing
Layer: Library
Purpose: Greedy packing of items into groups of bounded width. A gap stands between neighbours in a
  group. The groups hold every item once and in order, and when every item fits on its own, every
  group fits.
Trusted boundary: none
Main exports: Packing.pack, Packing.flatten_pack, Packing.width_le_of_mem_pack
-/
import Mathlib.Algebra.GroupWithZero.Nat
import Mathlib.Data.List.Basic

namespace Packing

variable {α : Type*} (size : α → Nat) (gap limit : Nat)

/-- What a group takes up. -/
def width : List α → Nat
  | [] => 0
  | [item] => size item
  | item :: next :: group => size item + gap + width (next :: group)

/-- The groups that are closed, and the one that is being filled. -/
structure Groups (α : Type*) where
  closed : List (List α) := []
  current : List α := []

/-- Put one more item down. -/
def place (groups : Groups α) (item : α) : Groups α :=
  if groups.current ≠ [] ∧ limit < width size gap groups.current + gap + size item then
    { closed := groups.closed ++ [groups.current], current := [item] }
  else { groups with current := groups.current ++ [item] }

/-- Close the last group, unless it is empty. -/
def Groups.close (groups : Groups α) : List (List α) :=
  if groups.current ≠ [] then groups.closed ++ [groups.current] else groups.closed

/-- Pack items greedily. -/
def pack (items : List α) : List (List α) :=
  (items.foldl (place size gap limit) {}).close

variable {size : α → Nat} {gap limit : Nat} {item : α} {items : List α} {groups : Groups α}

theorem size_le_width {group : List α} : size item ≤ width size gap (item :: group) := by
  cases group with
  | nil => exact Nat.le_refl _
  | cons next group =>
      rw [width]
      omega

theorem width_snoc {group : List α} (filled : group ≠ []) :
    width size gap (group ++ [item]) = width size gap group + gap + size item := by
  induction group with
  | nil => exact absurd rfl filled
  | cons first group ih =>
      cases group with
      | nil => rfl
      | cons next group =>
          have shorter := ih (List.cons_ne_nil next group)
          simp only [List.cons_append, width] at shorter ⊢
          omega

theorem width_eq_sum {group : List α} : width size 0 group = (group.map size).sum := by
  induction group with
  | nil => rfl
  | cons first group ih =>
      cases group with
      | nil => simp [width]
      | cons next group =>
          rw [List.map_cons, List.sum_cons, ← ih]
          simp only [width, Nat.add_zero]

/-- What packing keeps: the items that were placed, in order, in groups that fit. -/
structure Packed (size : α → Nat) (gap limit : Nat) (items : List α) (groups : Groups α) :
    Prop where
  kept : groups.closed.flatten ++ groups.current = items
  fit : ∀ group ∈ groups.closed, width size gap group ≤ limit
  current_fits : width size gap groups.current ≤ limit

theorem Packed.place (packed : Packed size gap limit items groups) (fits : size item ≤ limit) :
    Packed size gap limit (items ++ [item]) (place size gap limit groups item) := by
  unfold Packing.place
  split
  case isTrue =>
    refine ⟨?_, ?_, fits⟩
    · rw [← packed.kept]
      simp
    · intro group held
      rcases List.mem_append.mp held with before | last
      · exact packed.fit group before
      · obtain rfl := List.mem_singleton.mp last
        exact packed.current_fits
  case isFalse room =>
    refine ⟨?_, packed.fit, ?_⟩
    · rw [← packed.kept, List.append_assoc]
    · by_cases empty : groups.current = []
      · rw [empty]
        exact fits
      · rw [width_snoc empty]
        exact Nat.not_lt.mp (fun full => room ⟨empty, full⟩)

theorem Packed.foldl {more : List α} (packed : Packed size gap limit items groups)
    (fits : ∀ item ∈ more, size item ≤ limit) :
    Packed size gap limit (items ++ more) (more.foldl (Packing.place size gap limit) groups) := by
  induction more generalizing items groups with
  | nil => simpa using packed
  | cons item more ih =>
      have placed := packed.place (fits item List.mem_cons_self)
      have rest := ih placed (fun other held => fits other (List.mem_cons_of_mem _ held))
      simpa using rest

theorem packed_foldl (fits : ∀ item ∈ items, size item ≤ limit) :
    Packed size gap limit items (items.foldl (place size gap limit) {}) := by
  have start : Packed size gap limit [] ({} : Groups α) :=
    ⟨rfl, fun _ held => absurd held List.not_mem_nil, Nat.zero_le limit⟩
  simpa using start.foldl fits

theorem Packed.flatten_close (packed : Packed size gap limit items groups) :
    groups.close.flatten = items := by
  unfold Groups.close
  split
  case isTrue => simpa using packed.kept
  case isFalse empty =>
    rw [← packed.kept, not_not.mp empty, List.append_nil]

theorem Packed.fit_close (packed : Packed size gap limit items groups) {group : List α}
    (held : group ∈ groups.close) : width size gap group ≤ limit := by
  unfold Groups.close at held
  split at held
  case isTrue =>
    rcases List.mem_append.mp held with before | last
    · exact packed.fit group before
    · obtain rfl := List.mem_singleton.mp last
      exact packed.current_fits
  case isFalse => exact packed.fit group held

/-- Every item is packed once, and in order. -/
theorem flatten_pack (fits : ∀ item ∈ items, size item ≤ limit) :
    (pack size gap limit items).flatten = items :=
  (packed_foldl fits).flatten_close

/-- Every group fits. -/
theorem width_le_of_mem_pack (fits : ∀ item ∈ items, size item ≤ limit) {group : List α}
    (held : group ∈ pack size gap limit items) : width size gap group ≤ limit :=
  (packed_foldl fits).fit_close held

end Packing
