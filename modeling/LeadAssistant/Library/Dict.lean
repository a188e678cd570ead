/-
Module: LeadAssistant.Library.Dict
Layer: Library
Purpose: Dictionaries in insertion order, as they are built by a sequence of assignments. An
  assignment to a key that is there replaces its value where it stands, so what remains of a
  sequence are the last assignments of its keys.
Trusted boundary: none
Main exports: Dict.setItem, Dict.ofPairs, Dict.visible, Dict.mem_ofPairs,
  Dict.forall_visible_congr
-/
import Mathlib.Data.List.Forall2
import Mathlib.Data.List.Induction

namespace Dict

variable {κ ν : Type*} [DecidableEq κ]

/-- `d[key] = value`. -/
def setItem (d : List (κ × ν)) (key : κ) (value : ν) : List (κ × ν) :=
  if d.any (fun entry => entry.1 = key) then
    d.map (fun entry => if entry.1 = key then (key, value) else entry)
  else d ++ [(key, value)]

/-- Some assignments, one after another. -/
def ofPairs (pairs : List (κ × ν)) : List (κ × ν) :=
  pairs.foldl (fun d pair => setItem d pair.1 pair.2) []

/-- The assignments whose key is not assigned again. -/
def visible : List (κ × ν) → List (κ × ν)
  | [] => []
  | pair :: pairs =>
      if pairs.any (fun later => later.1 = pair.1) then visible pairs else pair :: visible pairs

variable {d pairs : List (κ × ν)} {key : κ} {value : ν} {entry : κ × ν}

theorem mem_setItem :
    entry ∈ setItem d key value ↔ (entry ∈ d ∧ entry.1 ≠ key) ∨ entry = (key, value) := by
  unfold setItem
  split
  · rename_i there
    rw [List.mem_map]
    constructor
    · rintro ⟨other, held, rfl⟩
      by_cases own : other.1 = key
      · exact Or.inr (if_pos own)
      · rw [if_neg own]
        exact Or.inl ⟨held, own⟩
    · rintro (⟨held, other⟩ | rfl)
      · exact ⟨entry, held, if_neg other⟩
      · rcases List.any_eq_true.1 there with ⟨other, held, own⟩
        exact ⟨other, held, if_pos (of_decide_eq_true own)⟩
  · rename_i absent
    rw [List.mem_append, List.mem_singleton]
    refine or_congr_left ⟨fun held => ⟨held, fun own => absent ?_⟩, And.left⟩
    exact List.any_eq_true.2 ⟨entry, held, by simp [own]⟩

theorem mem_visible_snoc : entry ∈ visible (pairs ++ [(key, value)]) ↔
    (entry ∈ visible pairs ∧ entry.1 ≠ key) ∨ entry = (key, value) := by
  induction pairs with
  | nil => simp [visible]
  | cons pair pairs ih =>
      rw [List.cons_append, visible, visible]
      by_cases later : pairs.any (fun later => later.1 = pair.1) = true
      · have later' : (pairs ++ [(key, value)]).any (fun later => later.1 = pair.1) = true := by
          rw [List.any_append, later, Bool.true_or]
        rw [if_pos later, if_pos later']
        exact ih
      · by_cases own : key = pair.1
        · have later' : (pairs ++ [(key, value)]).any (fun later => later.1 = pair.1) = true := by
            simp [own]
          rw [if_neg later, if_pos later', ih, List.mem_cons]
          refine or_congr_left ⟨fun ⟨held, other⟩ => ⟨Or.inr held, other⟩, ?_⟩
          rintro ⟨rfl | held, other⟩
          · exact absurd own.symm other
          · exact ⟨held, other⟩
        · have last : ¬ (pairs ++ [(key, value)]).any (fun later => later.1 = pair.1) = true := by
            rw [List.any_append, Bool.or_eq_true]
            rintro (before | last)
            · exact later before
            · simp [own] at last
          rw [if_neg later, if_neg last, List.mem_cons, List.mem_cons, ih]
          constructor
          · rintro (rfl | ⟨held, other⟩ | rfl)
            · exact Or.inl ⟨Or.inl rfl, fun same => own same.symm⟩
            · exact Or.inl ⟨Or.inr held, other⟩
            · exact Or.inr rfl
          · rintro (⟨rfl | held, other⟩ | rfl)
            · exact Or.inl rfl
            · exact Or.inr (Or.inl ⟨held, other⟩)
            · exact Or.inr (Or.inr rfl)

/-- What remains of a sequence of assignments. -/
theorem mem_ofPairs : entry ∈ ofPairs pairs ↔ entry ∈ visible pairs := by
  induction pairs using List.reverseRecOn with
  | nil => rfl
  | append_singleton pairs pair ih =>
      have last : ofPairs (pairs ++ [pair]) = setItem (ofPairs pairs) pair.1 pair.2 := by
        unfold ofPairs
        rw [List.foldl_append]
        rfl
      rw [last, mem_setItem, mem_visible_snoc, ih]

/-- Assignments to the same keys, with properties that agree one by one, agree in what remains. -/
theorem forall_visible_congr {ν' : Type*} {pairs' : List (κ × ν')} {p : κ × ν → Prop}
    {q : κ × ν' → Prop}
    (agree : List.Forall₂ (fun a b => a.1 = b.1 ∧ (p a ↔ q b)) pairs pairs') :
    (∀ entry ∈ visible pairs, p entry) ↔ ∀ entry ∈ visible pairs', q entry := by
  induction agree with
  | nil => simp [visible]
  | @cons a b pairs pairs' first rest ih =>
      have keys : pairs.any (fun later => later.1 = a.1) =
          pairs'.any (fun later => later.1 = b.1) := by
        rw [first.1]
        clear ih first
        induction rest with
        | nil => rfl
        | cons first _ ih => rw [List.any_cons, List.any_cons, ih, first.1]
      rw [visible, visible, keys]
      split
      · exact ih
      · rw [List.forall_mem_cons, List.forall_mem_cons, ih, first.2]

end Dict
