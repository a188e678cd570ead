/-
Module: LeadAssistant.Library.Recency
Layer: Library
Purpose: Ordered dictionaries whose order is that of use, with the least recently used entry first,
  and which keep a bounded number of entries. What such a dictionary holds is a function of the
  uses: the last ones of the distinct keys, in the order of their last use.
Trusted boundary: none
Main exports: Recency.moveToEnd, Recency.evict, Recency.held, Recency.Exact, Recency.Exact.touch,
  Recency.Exact.put, Recency.Exact.getItem?_eq
-/
import LeadAssistant.Library.Dict
import Mathlib.Data.List.Dedup
import Mathlib.Data.List.DropRight

namespace Recency

variable {κ ν : Type*}

section Last

variable {keys before after : List κ} {d : List (κ × ν)} {size : Nat}

/-- `d.popitem(last=False)`, as long as there are more than `size` entries. -/
def evict (size : Nat) : List (κ × ν) → List (κ × ν)
  | [] => []
  | entry :: d => if size < (entry :: d).length then evict size d else entry :: d

theorem rtake_append (enough : size ≤ after.length) :
    (before ++ after).rtake size = after.rtake size := by
  unfold List.rtake
  rw [List.length_append, List.drop_append, List.drop_eq_nil_of_le (by omega), List.nil_append]
  congr 1
  omega

theorem rtake_of_length_le (short : keys.length ≤ size) : keys.rtake size = keys := by
  unfold List.rtake
  rw [Nat.sub_eq_zero_of_le short, List.drop_zero]

theorem evict_eq : evict size d = d.rtake size := by
  induction d with
  | nil => exact (List.rtake_nil size).symm
  | cons entry d ih =>
      unfold evict
      by_cases more : size < (entry :: d).length
      · rw [if_pos more, ih]
        exact (@rtake_append _ [entry] d size (Nat.le_of_lt_succ more)).symm
      · rw [if_neg more, rtake_of_length_le (Nat.le_of_not_lt more)]

end Last

variable [DecidableEq κ]

/-- `d.get(key)`. -/
def getItem? (d : List (κ × ν)) (key : κ) : Option ν :=
  (d.find? (fun entry => entry.1 = key)).map Prod.snd

/-- `d.move_to_end(key)`. -/
def moveToEnd (d : List (κ × ν)) (key : κ) : List (κ × ν) :=
  d.filter (fun entry => entry.1 ≠ key) ++ d.filter (fun entry => entry.1 = key)

/-- The keys that were used last, the least recently used one first. -/
def held (size : Nat) (uses : List κ) : List κ := uses.dedup.rtake size

/-- The dictionary holds the keys that were used last, each with its value. -/
structure Exact (size : Nat) (uses : List κ) (value : κ → Option ν) (d : List (κ × ν)) : Prop where
  keys : d.map Prod.fst = held size uses
  values : ∀ entry ∈ d, value entry.1 = some entry.2

variable {d : List (κ × ν)} {keys uses : List κ} {key : κ} {value : κ → Option ν} {new : ν}
  {size : Nat}

/-! ### The order of use -/

theorem dedup_snoc :
    (uses ++ [key]).dedup = uses.dedup.filter (fun other => other ≠ key) ++ [key] := by
  induction uses with
  | nil => rfl
  | cons first uses ih =>
      rw [List.cons_append, List.dedup_cons, List.dedup_cons, ih]
      by_cases own : first = key
      · subst own
        rw [if_pos (by simp)]
        split
        · rfl
        · rw [List.filter_cons_of_neg (by simp)]
      · have later : first ∈ uses ++ [key] ↔ first ∈ uses := by simp [own]
        rw [if_congr later rfl rfl]
        split
        · rfl
        · rw [List.filter_cons_of_pos (by simpa using own), List.cons_append]

/-- Without one key, the last `size` keys are among the last `size + 1`. -/
theorem rtake_filter (distinct : keys.Nodup) :
    (keys.filter (fun other => other ≠ key)).rtake size =
      ((keys.rtake (size + 1)).filter (fun other => other ≠ key)).rtake size := by
  by_cases short : keys.length ≤ size + 1
  · rw [rtake_of_length_le short]
  · have length : (keys.rtake (size + 1)).length = size + 1 := by
      unfold List.rtake
      rw [List.length_drop]
      omega
    have once : (keys.rtake (size + 1)).count key ≤ 1 :=
      List.nodup_iff_count_le_one.1 (distinct.sublist (List.drop_sublist _ _)) key
    have parts := List.length_eq_length_filter_add (l := keys.rtake (size + 1))
      (fun other => decide (other = key))
    rw [List.filter_eq, List.length_replicate, length] at parts
    have enough : size ≤ ((keys.rtake (size + 1)).filter (fun other => other ≠ key)).length := by
      simp only [← decide_not] at parts
      simp only [ne_eq]
      omega
    have split : keys = keys.take (keys.length - (size + 1)) ++ keys.rtake (size + 1) :=
      (List.take_append_drop _ _).symm
    conv_lhs => rw [split, List.filter_append]
    exact rtake_append enough

/-- A use makes its key the last one. -/
theorem held_snoc : held (size + 1) (uses ++ [key]) =
    ((held (size + 1) uses).filter (fun other => other ≠ key) ++ [key]).rtake (size + 1) := by
  unfold held
  rw [dedup_snoc, List.rtake_concat_succ, List.rtake_concat_succ,
    rtake_filter (List.nodup_dedup uses)]

theorem nodup_held : (held size uses).Nodup :=
  (List.nodup_dedup uses).sublist (List.drop_sublist _ _)

theorem length_held_le : (held size uses).length ≤ size := by
  unfold held List.rtake
  rw [List.length_drop]
  omega

/-- A key that is held only moves. -/
theorem held_snoc_of_mem (there : key ∈ held size uses) :
    held size (uses ++ [key]) =
      (held size uses).filter (fun other => other ≠ key) ++ [key] := by
  have some_key : 0 < (held size uses).length := List.length_pos_of_mem there
  have bound : (held size uses).length ≤ size := length_held_le
  have fewer : ((held size uses).filter (fun other => other ≠ key)).length <
      (held size uses).length := by
    apply List.length_filter_lt_length_iff_exists.2
    exact ⟨key, there, by simp⟩
  cases size with
  | zero => omega
  | succ size =>
      rw [held_snoc, rtake_of_length_le]
      rw [List.length_append, List.length_singleton]
      omega

/-! ### The dictionary -/

theorem mem_moveToEnd {entry : κ × ν} : entry ∈ moveToEnd d key ↔ entry ∈ d := by
  unfold moveToEnd
  rw [List.mem_append, List.mem_filter, List.mem_filter, ← and_or_left, decide_eq_true_eq,
    decide_eq_true_eq, or_comm]
  exact and_iff_left (Decidable.em _)

theorem keys_moveToEnd (distinct : (d.map Prod.fst).Nodup) (there : key ∈ d.map Prod.fst) :
    (moveToEnd d key).map Prod.fst =
      (d.map Prod.fst).filter (fun other => other ≠ key) ++ [key] := by
  have own : (d.map Prod.fst).filter (fun other => other = key) = [key] := by
    rw [List.filter_eq, List.count_eq_one_of_mem distinct there]
    rfl
  unfold moveToEnd
  rw [List.map_append, ← own, List.filter_map, List.filter_map]
  rfl

theorem keys_setItem : (Dict.setItem d key new).map Prod.fst =
    if key ∈ d.map Prod.fst then d.map Prod.fst else d.map Prod.fst ++ [key] := by
  have there : d.any (fun entry => entry.1 = key) = true ↔ key ∈ d.map Prod.fst := by
    simp only [List.any_eq_true, decide_eq_true_eq, List.mem_map]
  unfold Dict.setItem
  rw [if_congr there rfl rfl]
  split
  · rw [List.map_map]
    refine List.map_congr_left (fun entry _ => ?_)
    by_cases own : entry.1 = key <;> simp [own]
  · rw [List.map_append, List.map_singleton]

namespace Exact

theorem nil : Exact size [] value [] :=
  ⟨(List.rtake_nil size).symm, fun _ there => absurd there List.not_mem_nil⟩

theorem distinct (exact_dict : Exact size uses value d) : (d.map Prod.fst).Nodup :=
  exact_dict.keys ▸ nodup_held

/-- Only the values of the keys that are held matter. -/
theorem congr {other : κ → Option ν} (exact_dict : Exact size uses value d)
    (same : ∀ key ∈ held size uses, other key = value key) : Exact size uses other d where
  keys := exact_dict.keys
  values entry listed := by
    rw [same entry.1 (exact_dict.keys ▸ List.mem_map_of_mem listed)]
    exact exact_dict.values entry listed

/-- Looking a key up. -/
theorem getItem?_eq (exact_dict : Exact size uses value d) :
    getItem? d key = if key ∈ held size uses then value key else none := by
  unfold getItem?
  rw [← exact_dict.keys]
  cases found : d.find? (fun entry => entry.1 = key) with
  | none =>
      rw [if_neg, Option.map_none]
      intro there
      rcases List.mem_map.1 there with ⟨entry, listed, own⟩
      exact List.find?_eq_none.1 found entry listed (decide_eq_true own)
  | some entry =>
      have listed := List.mem_of_find?_eq_some found
      have own := List.find?_some found
      rw [decide_eq_true_eq] at own
      rw [if_pos (own ▸ List.mem_map_of_mem listed), ← own]
      exact (exact_dict.values entry listed).symm

/-- The use of a key that is held. -/
theorem touch (exact_dict : Exact size uses value d) (there : key ∈ held size uses) :
    Exact size (uses ++ [key]) value (moveToEnd d key) where
  keys := by
    rw [keys_moveToEnd exact_dict.distinct (exact_dict.keys ▸ there), held_snoc_of_mem there,
      exact_dict.keys]
  values entry listed := exact_dict.values entry (mem_moveToEnd.1 listed)

/-- An assignment, after which entries are given up until the size is kept. -/
theorem put (exact_dict : Exact (size + 1) uses value d) :
    Exact (size + 1) (uses ++ [key]) (Function.update value key (some new))
      (evict (size + 1) (moveToEnd (Dict.setItem d key new) key)) where
  keys := by
    have listed : key ∈ (Dict.setItem d key new).map Prod.fst := by
      rw [keys_setItem]
      split <;> simp_all
    have distinct : ((Dict.setItem d key new).map Prod.fst).Nodup := by
      rw [keys_setItem]
      split
      · exact exact_dict.distinct
      · rename_i absent
        exact List.nodup_append.2 ⟨exact_dict.distinct, List.nodup_singleton _, by
          intro other there last single same
          rw [List.mem_singleton] at single
          exact absent (single ▸ same ▸ there)⟩
    have others : ((Dict.setItem d key new).map Prod.fst).filter (fun other => other ≠ key) =
        (d.map Prod.fst).filter (fun other => other ≠ key) := by
      rw [keys_setItem]
      split
      · rfl
      · rw [List.filter_append, List.filter_cons_of_neg (by simp), List.filter_nil,
          List.append_nil]
    rw [evict_eq, held_snoc, ← exact_dict.keys, ← others, ← keys_moveToEnd distinct listed]
    unfold List.rtake
    rw [List.map_drop, List.length_map]
  values entry listed := by
    rw [evict_eq] at listed
    have assigned := mem_moveToEnd.1 (List.mem_of_mem_drop listed)
    rcases Dict.mem_setItem.1 assigned with ⟨old, other⟩ | rfl
    · rw [Function.update_of_ne other]
      exact exact_dict.values entry old
    · exact Function.update_self ..

end Exact

end Recency
