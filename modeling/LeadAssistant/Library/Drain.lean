/-
Module: LeadAssistant.Library.Drain
Layer: Library
Purpose: Bounded deletions empty a backlog. A bounded deletion that spares a row which it might have
  deleted takes as many rows before it as its limit allows, so a run can make only so many of them
  while the row stays.
Trusted boundary: none
Main exports: Table.upTo, Table.card_upTo_deleteBatch, Run.cost_le
-/
import LeadAssistant.Library.Table
import LeadAssistant.Library.Transition
import Mathlib.Data.Finset.Card
import Mathlib.Data.List.Sort

namespace Relational.Table

variable {ρ κ ω : Type*} [LinearOrder ω] {key : ρ → κ} {t : Table key}
  {p : ρ → Bool} {order : ρ → ω} {n : Nat} {row : ρ}

/-- What a batch takes comes before what it spares. -/
theorem le_of_mem_batch (held : row ∈ t) (satisfies : p row = true)
    (spared : row ∉ t.batch p order n) {other : ρ} (chosen : other ∈ t.batch p order n) :
    order other ≤ order row := by
  have sorted := List.pairwise_insertionSort (fun a b => order a ≤ order b) (t.rows.filter p)
  rw [← List.take_append_drop n (List.insertionSort _ _)] at sorted
  have listed : row ∈ (t.rows.filter p).insertionSort (fun a b => order a ≤ order b) := by
    rw [List.mem_insertionSort]
    exact List.mem_filter.2 ⟨held, satisfies⟩
  rw [← List.take_append_drop n (List.insertionSort _ _), List.mem_append] at listed
  exact (List.pairwise_append.1 sorted).2.2 other chosen row (listed.resolve_left spared)

/-- A batch that spares a row is full. -/
theorem length_batch (held : row ∈ t) (satisfies : p row = true)
    (spared : row ∉ t.batch p order n) : (t.batch p order n).length = n := by
  unfold batch
  rw [List.length_take, List.length_insertionSort]
  apply min_eq_left
  by_contra short
  exact spared ((mem_batch_of_length_le (Nat.le_of_lt (Nat.not_le.1 short))).2 ⟨held, satisfies⟩)

theorem nodup_keys_batch : ((t.batch p order n).map key).Nodup := by
  have all : (((t.rows.filter p).insertionSort (fun a b => order a ≤ order b)).map key).Nodup :=
    ((List.perm_insertionSort _ _).map key).nodup_iff.2
      (t.keysNodup.sublist (List.filter_sublist.map key))
  exact all.sublist ((List.take_sublist n _).map key)

variable [DecidableEq κ]

/-- The keys of the rows up to a place in an order. -/
def upTo (t : Table key) (order : ρ → ω) (bound : ω) : Finset κ :=
  ((t.rows.filter (fun row => order row ≤ bound)).map key).toFinset

theorem mem_upTo {bound : ω} {k : κ} :
    k ∈ t.upTo order bound ↔ ∃ row ∈ t, key row = k ∧ order row ≤ bound := by
  unfold upTo
  simp only [List.mem_toFinset, List.mem_map, List.mem_filter, decide_eq_true_eq, mem_rows]
  constructor
  · rintro ⟨row, ⟨held, early⟩, same⟩
    exact ⟨row, held, same, early⟩
  · rintro ⟨row, held, same, early⟩
    exact ⟨row, ⟨held, early⟩, same⟩

theorem card_upTo_pos (held : row ∈ t) : 0 < (t.upTo order (order row)).card :=
  Finset.card_pos.2 ⟨key row, mem_upTo.2 ⟨row, held, rfl, le_rfl⟩⟩

/-- A bounded deletion that spares a row takes its whole limit of rows up to it. -/
theorem card_upTo_deleteBatch (held : row ∈ t) (satisfies : p row = true)
    (spared : row ∈ t.deleteBatch p order n) :
    ((t.deleteBatch p order n).upTo order (order row)).card + n ≤
      (t.upTo order (order row)).card := by
  have unchosen := (mem_deleteBatch.1 spared).2
  let chosen := ((t.batch p order n).map key).toFinset
  have size : chosen.card = n := by
    rw [List.toFinset_card_of_nodup nodup_keys_batch, List.length_map]
    exact length_batch held satisfies unchosen
  have early : chosen ⊆ t.upTo order (order row) := by
    intro k named
    obtain ⟨other, picked, rfl⟩ := List.mem_map.1 (List.mem_toFinset.1 named)
    exact mem_upTo.2 ⟨other, (mem_of_batch picked).1, rfl,
      le_of_mem_batch held satisfies unchosen picked⟩
  have left : (t.deleteBatch p order n).upTo order (order row) ⊆
      t.upTo order (order row) \ chosen := by
    intro k there
    obtain ⟨other, stays, rfl, before⟩ := mem_upTo.1 there
    obtain ⟨old, unpicked⟩ := mem_deleteBatch.1 stays
    refine Finset.mem_sdiff.2 ⟨mem_upTo.2 ⟨other, old, rfl, before⟩, fun named => ?_⟩
    obtain ⟨twin, picked, same⟩ := List.mem_map.1 (List.mem_toFinset.1 named)
    exact unpicked (eq_of_key_eq (mem_of_batch picked).1 old same ▸ picked)
  calc ((t.deleteBatch p order n).upTo order (order row)).card + n
      ≤ (t.upTo order (order row) \ chosen).card + n :=
        Nat.add_le_add_right (Finset.card_le_card left) n
    _ = (t.upTo order (order row)).card - chosen.card + n := by
        rw [Finset.card_sdiff_of_subset early]
    _ = (t.upTo order (order row)).card := by
        rw [← size]
        exact Nat.sub_add_cancel (Finset.card_le_card early)

end Relational.Table

namespace Transition

variable {σ ε : Type*} {step : σ → ε → Option σ} {guard : σ → ε → Prop} {s t : σ} {es : List ε}

/-- While something holds, each step of a kind costs a part of a potential, and no step adds to it. -/
theorem Run.cost_le {potential : σ → Nat} {holds : σ → Prop} {kind : ε → Bool} {cost : Nat}
    (run : Run step guard s es t)
    (before : ∀ s e u, guard s e → step s e = some u → holds u → holds s)
    (one : ∀ s e u, guard s e → step s e = some u → holds u →
      potential u + (if kind e then cost else 0) ≤ potential s)
    (still : holds t) : potential t + cost * es.countP kind ≤ potential s := by
  induction run with
  | nil => simp
  | @snoc t u es e _ allowed next ih =>
      have paid := one t e u allowed next still
      have earlier := ih (before t e u allowed next still)
      rw [List.countP_append, List.countP_singleton, Nat.mul_add]
      cases counts : kind e with
      | true =>
          simp only [counts, if_true] at paid ⊢
          omega
      | false =>
          simp only [counts, Bool.false_eq_true, if_false] at paid ⊢
          omega

end Transition
