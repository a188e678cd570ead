/-
Module: LeadAssistant.Library.Table
Layer: Library
Purpose: Relational tables with a primary key. A table is a list of rows together with the proof
  that no two rows have the same key, so a state with a duplicated key cannot be built. The
  operations are the statements a program sends to a database: `INSERT` (refused on a taken key),
  `UPDATE ... WHERE`, `DELETE ... WHERE` and a lookup by key. Each has one membership lemma, by
  which the proofs about a program speak of rows and never unfold an operation.
Trusted boundary: none
Main exports: Table, Table.get?, Table.insert?, Table.updateWhere, Table.update, Table.upsert,
  Table.deleteWhere
-/
import Mathlib.Data.List.Nodup
import Mathlib.Data.List.MinMax
import Mathlib.Data.List.Sort

namespace Relational

variable {ρ κ : Type*} {key : ρ → κ}

/-- Rows of type `ρ` with pairwise different keys. -/
structure Table {ρ κ : Type*} (key : ρ → κ) where
  rows : List ρ
  keysNodup : (rows.map key).Nodup

namespace Table

instance : Membership ρ (Table key) := ⟨fun t row => row ∈ t.rows⟩

instance : EmptyCollection (Table key) := ⟨⟨[], List.nodup_nil⟩⟩

instance : Inhabited (Table key) := ⟨∅⟩

@[simp] theorem mem_rows {t : Table key} {row : ρ} : row ∈ t.rows ↔ row ∈ t := Iff.rfl

@[simp] theorem not_mem_empty (row : ρ) : row ∉ (∅ : Table key) := List.not_mem_nil

@[simp] theorem mem_mk {rows : List ρ} {nodup : (rows.map key).Nodup} {row : ρ} :
    row ∈ (⟨rows, nodup⟩ : Table key) ↔ row ∈ rows := Iff.rfl

@[ext] theorem ext {t u : Table key} (same : t.rows = u.rows) : t = u := by
  cases t
  cases u
  cases same
  rfl

/-- Two rows of one table with the same key are the same row. -/
theorem eq_of_key_eq {t : Table key} {a b : ρ} (ha : a ∈ t) (hb : b ∈ t)
    (same : key a = key b) : a = b :=
  List.inj_on_of_nodup_map t.keysNodup ha hb same

section Lookup

variable [DecidableEq κ]

/-- The row with the given key. -/
def get? (t : Table key) (k : κ) : Option ρ :=
  t.rows.find? (fun row => key row = k)

theorem get?_eq_some_iff {t : Table key} {k : κ} {row : ρ} :
    t.get? k = some row ↔ row ∈ t ∧ key row = k := by
  constructor
  · intro found
    exact ⟨List.mem_of_find?_eq_some found, by simpa using List.find?_some found⟩
  · rintro ⟨held, same⟩
    cases found : t.get? k with
    | none =>
        have absent := List.find?_eq_none.1 found row held
        simp [same] at absent
    | some other =>
        have held' : other ∈ t := List.mem_of_find?_eq_some found
        have same' : key other = k := by simpa using List.find?_some found
        rw [eq_of_key_eq held' held (same'.trans same.symm)]

theorem get?_eq_none_iff {t : Table key} {k : κ} :
    t.get? k = none ↔ ∀ row ∈ t, key row ≠ k := by
  simp [get?, List.find?_eq_none]

theorem get?_of_mem {t : Table key} {row : ρ} (held : row ∈ t) : t.get? (key row) = some row :=
  get?_eq_some_iff.2 ⟨held, rfl⟩

theorem mem_of_get? {t : Table key} {k : κ} {row : ρ} (found : t.get? k = some row) : row ∈ t :=
  (get?_eq_some_iff.1 found).1

theorem key_of_get? {t : Table key} {k : κ} {row : ρ} (found : t.get? k = some row) :
    key row = k :=
  (get?_eq_some_iff.1 found).2

end Lookup

section Insert

variable [DecidableEq κ]

/-- `INSERT`: refused when the key is taken. -/
def insert? (t : Table key) (row : ρ) : Option (Table key) :=
  if taken : key row ∈ t.rows.map key then none
  else some ⟨t.rows ++ [row], by
    rw [List.map_append, List.map_singleton, List.nodup_append]
    refine ⟨t.keysNodup, List.nodup_singleton _, ?_⟩
    rintro a ha b hb rfl
    exact taken (List.mem_singleton.1 hb ▸ ha)⟩

theorem insert?_eq_none_iff {t : Table key} {row : ρ} :
    t.insert? row = none ↔ ∃ other ∈ t, key other = key row := by
  unfold insert?
  split
  · rename_i taken
    simpa using List.mem_map.1 taken
  · rename_i free
    simpa [List.mem_map] using free

theorem mem_insert? {t u : Table key} {row : ρ} (inserted : t.insert? row = some u) {x : ρ} :
    x ∈ u ↔ x ∈ t ∨ x = row := by
  unfold insert? at inserted
  split at inserted
  · simp at inserted
  · simp only [Option.some.injEq] at inserted
    subst inserted
    simp

theorem rows_insert? {t u : Table key} {row : ρ} (inserted : t.insert? row = some u) :
    u.rows = t.rows ++ [row] := by
  unfold insert? at inserted
  split at inserted
  · simp at inserted
  · simp only [Option.some.injEq] at inserted
    subst inserted
    rfl

/-- An accepted row has a key of its own. -/
theorem fresh_of_insert? {t u : Table key} {row : ρ} (inserted : t.insert? row = some u) :
    ∀ other ∈ t, key other ≠ key row := by
  intro other held same
  have refused := insert?_eq_none_iff.2 ⟨other, held, same⟩
  simp [refused] at inserted

theorem get?_insert? {t u : Table key} {row : ρ} {k : κ} (inserted : t.insert? row = some u) :
    u.get? k = if k = key row then some row else t.get? k := by
  by_cases eq : k = key row
  · rw [if_pos eq, get?_eq_some_iff, mem_insert? inserted]
    exact ⟨Or.inr rfl, eq.symm⟩
  · rw [if_neg eq]
    cases found : t.get? k with
    | some other =>
        rw [get?_eq_some_iff] at found ⊢
        exact ⟨(mem_insert? inserted).2 (Or.inl found.1), found.2⟩
    | none =>
        rw [get?_eq_none_iff] at found ⊢
        intro other held same
        rcases (mem_insert? inserted).1 held with held | rfl
        · exact found other held same
        · exact eq same.symm

theorem ne_of_insert? {t u : Table key} {row : ρ} (inserted : t.insert? row = some u) : u ≠ t := by
  rintro rfl
  have held := (mem_insert? inserted).2 (Or.inr rfl)
  exact fresh_of_insert? inserted row held rfl

theorem exists_insert? {t : Table key} {row : ρ} (free : ∀ other ∈ t, key other ≠ key row) :
    ∃ u, t.insert? row = some u := by
  cases inserted : t.insert? row with
  | some u => exact ⟨u, rfl⟩
  | none =>
      obtain ⟨other, held, same⟩ := insert?_eq_none_iff.1 inserted
      exact absurd same (free other held)

end Insert

section Update

/-- `UPDATE ... WHERE`: change the chosen rows, never their keys. -/
def updateWhere (t : Table key) (p : ρ → Bool) (f : ρ → ρ)
    (keeps : ∀ row, p row = true → key (f row) = key row) : Table key :=
  ⟨t.rows.map (fun row => if p row then f row else row), by
    have same : (t.rows.map (fun row => if p row then f row else row)).map key =
        t.rows.map key := by
      rw [List.map_map]
      apply List.map_congr_left
      intro row _
      simp only [Function.comp]
      split
      · exact keeps row ‹_›
      · rfl
    rw [same]
    exact t.keysNodup⟩

theorem mem_updateWhere {t : Table key} {p : ρ → Bool} {f : ρ → ρ}
    {keeps : ∀ row, p row = true → key (f row) = key row} {x : ρ} :
    x ∈ t.updateWhere p f keeps ↔ (x ∈ t ∧ p x = false) ∨ ∃ y ∈ t, p y = true ∧ x = f y := by
  unfold updateWhere
  simp only [mem_mk, List.mem_map, mem_rows]
  constructor
  · rintro ⟨y, held, rfl⟩
    cases chosen : p y with
    | true => exact Or.inr ⟨y, held, chosen, by simp⟩
    | false => exact Or.inl ⟨by simpa using held, by simpa using chosen⟩
  · rintro (⟨held, skipped⟩ | ⟨y, held, chosen, rfl⟩)
    · exact ⟨x, held, by simp [skipped]⟩
    · exact ⟨y, held, by simp [chosen]⟩

theorem updateWhere_eq_self_iff {t : Table key} {p : ρ → Bool} {f : ρ → ρ}
    {keeps : ∀ row, p row = true → key (f row) = key row} :
    t.updateWhere p f keeps = t ↔ ∀ row ∈ t, p row = true → f row = row := by
  constructor
  · intro same row held chosen
    have changed : f row ∈ t.updateWhere p f keeps := by
      rw [mem_updateWhere]
      exact Or.inr ⟨row, held, chosen, rfl⟩
    rw [same] at changed
    exact eq_of_key_eq changed held (keeps row chosen)
  · intro fixed
    apply ext
    apply (List.map_congr_left _).trans (List.map_id _)
    intro row held
    cases chosen : p row with
    | true => simpa using fixed row held chosen
    | false => simp

variable [DecidableEq κ]

/-- `UPDATE ... WHERE key = k`. -/
def update (t : Table key) (k : κ) (f : ρ → ρ)
    (keeps : ∀ row, key row = k → key (f row) = key row := by intro _ _; rfl) : Table key :=
  t.updateWhere (fun row => key row = k) f (fun row same => keeps row (by simpa using same))

theorem mem_update {t : Table key} {k : κ} {f : ρ → ρ}
    {keeps : ∀ row, key row = k → key (f row) = key row} {x : ρ} :
    x ∈ t.update k f keeps ↔ (x ∈ t ∧ key x ≠ k) ∨ ∃ y ∈ t, key y = k ∧ x = f y := by
  simp [update, mem_updateWhere]

theorem mem_update_of_ne {t : Table key} {k : κ} {f : ρ → ρ}
    {keeps : ∀ row, key row = k → key (f row) = key row} {x : ρ} (held : x ∈ t)
    (ne : key x ≠ k) : x ∈ t.update k f keeps :=
  mem_update.2 (Or.inl ⟨held, ne⟩)

theorem mem_update_of_eq {t : Table key} {k : κ} {f : ρ → ρ}
    {keeps : ∀ row, key row = k → key (f row) = key row} {x : ρ} (held : x ∈ t)
    (same : key x = k) : f x ∈ t.update k f keeps :=
  mem_update.2 (Or.inr ⟨x, held, same, rfl⟩)

/-- A lookup after `UPDATE ... WHERE` finds the row it found before, changed where chosen. -/
theorem get?_updateWhere {t : Table key} {p : ρ → Bool} {f : ρ → ρ}
    {keeps : ∀ row, p row = true → key (f row) = key row} {k : κ} :
    (t.updateWhere p f keeps).get? k = (t.get? k).map (fun row => if p row then f row else row) := by
  cases found : t.get? k with
  | none =>
      rw [get?_eq_none_iff] at found
      rw [Option.map_none, get?_eq_none_iff]
      intro row held
      rcases mem_updateWhere.1 held with ⟨held', _⟩ | ⟨y, held', chosen, rfl⟩
      · exact found row held'
      · exact (keeps y chosen).symm ▸ found y held'
  | some row =>
      rw [get?_eq_some_iff] at found
      rw [Option.map_some, get?_eq_some_iff, mem_updateWhere]
      cases chosen : p row with
      | true =>
          simp only [if_true]
          exact ⟨Or.inr ⟨row, found.1, chosen, rfl⟩, (keeps row chosen).trans found.2⟩
      | false =>
          simp only [Bool.false_eq_true, if_false]
          exact ⟨Or.inl ⟨found.1, chosen⟩, found.2⟩

theorem get?_update {t : Table key} {k k' : κ} {f : ρ → ρ}
    {keeps : ∀ row, key row = k → key (f row) = key row} :
    (t.update k f keeps).get? k' = if k' = k then (t.get? k').map f else t.get? k' := by
  unfold update
  rw [get?_updateWhere]
  cases found : t.get? k' with
  | none => simp
  | some row =>
      have same := key_of_get? found
      by_cases eq : k' = k
      · simp [eq, same]
      · simp [eq, same]

theorem update_update {t : Table key} {k : κ} {f g : ρ → ρ}
    {keeps : ∀ row, key row = k → key (f row) = key row}
    {keeps' : ∀ row, key row = k → key (g row) = key row} :
    (t.update k f keeps).update k g keeps' =
      t.update k (fun row => g (f row)) (fun row same =>
        (keeps' (f row) ((keeps row same).trans same)).trans (keeps row same)) := by
  apply ext
  apply List.map_map.trans
  apply List.map_congr_left
  intro row _
  by_cases same : key row = k
  · simp [same, keeps row same]
  · simp [same]

theorem update_eq_self_iff {t : Table key} {k : κ} {f : ρ → ρ}
    {keeps : ∀ row, key row = k → key (f row) = key row} :
    t.update k f keeps = t ↔ ∀ row, t.get? k = some row → f row = row := by
  unfold update
  rw [updateWhere_eq_self_iff]
  constructor
  · intro fixed row found
    exact fixed row (mem_of_get? found) (by simpa using key_of_get? found)
  · intro fixed row held chosen
    exact fixed row (get?_eq_some_iff.2 ⟨held, by simpa using chosen⟩)

/-- Write back a whole row that was read under a row lock. -/
def put (t : Table key) (row : ρ) : Table key :=
  t.update (key row) (fun _ => row) (fun _ same => same.symm)

theorem mem_put {t : Table key} {row x : ρ} (found : (t.get? (key row)).isSome) :
    x ∈ t.put row ↔ (x ∈ t ∧ key x ≠ key row) ∨ x = row := by
  obtain ⟨old, found⟩ := Option.isSome_iff_exists.1 found
  rw [get?_eq_some_iff] at found
  simp only [put, mem_update]
  constructor
  · rintro (kept | ⟨_, _, _, rfl⟩)
    · exact Or.inl kept
    · exact Or.inr rfl
  · rintro (kept | rfl)
    · exact Or.inl kept
    · exact Or.inr ⟨old, found.1, found.2, rfl⟩

theorem get?_put {t : Table key} {row : ρ} {k : κ} (found : (t.get? (key row)).isSome) :
    (t.put row).get? k = if k = key row then some row else t.get? k := by
  obtain ⟨old, found⟩ := Option.isSome_iff_exists.1 found
  rw [put, get?_update]
  by_cases own : k = key row
  · rw [if_pos own, if_pos own, own, found]
    rfl
  · rw [if_neg own, if_neg own]

theorem get?_put_self {t : Table key} {row : ρ} (found : (t.get? (key row)).isSome) :
    (t.put row).get? (key row) = some row := by
  rw [get?_put found, if_pos rfl]

/-- `INSERT ... ON CONFLICT DO UPDATE`, with the row that is to be there afterwards. -/
def upsert (t : Table key) (row : ρ) : Table key :=
  match t.insert? row with
  | some u => u
  | none => t.put row

theorem get?_upsert {t : Table key} {row : ρ} {k : κ} :
    (t.upsert row).get? k = if k = key row then some row else t.get? k := by
  unfold upsert
  cases inserted : t.insert? row with
  | some u => exact get?_insert? inserted
  | none =>
      rcases insert?_eq_none_iff.1 inserted with ⟨old, held, same⟩
      have found : t.get? (key row) = some old := get?_eq_some_iff.2 ⟨held, same⟩
      exact get?_put (Option.isSome_of_eq_some found)

end Update

section Delete

/-- `DELETE ... WHERE`. -/
def deleteWhere (t : Table key) (p : ρ → Bool) : Table key :=
  ⟨t.rows.filter (fun row => !p row), t.keysNodup.sublist (List.filter_sublist.map key)⟩

theorem mem_deleteWhere {t : Table key} {p : ρ → Bool} {x : ρ} :
    x ∈ t.deleteWhere p ↔ x ∈ t ∧ p x = false := by
  simp [deleteWhere]

/-- A lookup after `DELETE ... WHERE` finds the row it found before, unless it was chosen. -/
theorem get?_deleteWhere [DecidableEq κ] {t : Table key} {p : ρ → Bool} {k : κ} :
    (t.deleteWhere p).get? k = (t.get? k).filter (fun row => !p row) := by
  cases found : t.get? k with
  | none =>
      rw [get?_eq_none_iff] at found
      rw [Option.filter_none, get?_eq_none_iff]
      exact fun row held => found row (mem_deleteWhere.1 held).1
  | some row =>
      have held := mem_of_get? found
      cases chosen : p row with
      | true =>
          rw [Option.filter_some_neg (by simp [chosen]), get?_eq_none_iff]
          intro other kept same
          have kept := mem_deleteWhere.1 kept
          rw [eq_of_key_eq kept.1 held (same.trans (key_of_get? found).symm), chosen] at kept
          exact Bool.noConfusion kept.2
      | false =>
          rw [Option.filter_some_pos (by simp [chosen]), get?_eq_some_iff]
          exact ⟨mem_deleteWhere.2 ⟨held, chosen⟩, key_of_get? found⟩

theorem deleteWhere_eq_self_iff {t : Table key} {p : ρ → Bool} :
    t.deleteWhere p = t ↔ ∀ row ∈ t, p row = false := by
  constructor
  · intro same row held
    rw [← same] at held
    exact (mem_deleteWhere.1 held).2
  · intro spared
    apply ext
    apply List.filter_eq_self.2
    intro row held
    simp [spared row held]

/-- `SELECT ... WHERE ... ORDER BY ... LIMIT n`; ties are taken in table order. -/
def batch {ω : Type*} [LinearOrder ω] (t : Table key) (p : ρ → Bool) (order : ρ → ω) (n : Nat) :
    List ρ :=
  ((t.rows.filter p).insertionSort (fun a b => order a ≤ order b)).take n

theorem mem_of_batch {ω : Type*} [LinearOrder ω] {t : Table key} {p : ρ → Bool} {order : ρ → ω}
    {n : Nat} {row : ρ} (chosen : row ∈ t.batch p order n) : row ∈ t ∧ p row = true := by
  have sorted := List.mem_of_mem_take chosen
  rw [List.mem_insertionSort] at sorted
  simpa using sorted

/-- The rows whose keys a batch names satisfy its condition. -/
theorem of_key_mem_batch {ω : Type*} [LinearOrder ω] {t : Table key} {p : ρ → Bool} {order : ρ → ω}
    {n : Nat} {row : ρ} (held : row ∈ t) (named : key row ∈ (t.batch p order n).map key) :
    p row = true := by
  obtain ⟨other, chosen, same⟩ := List.mem_map.1 named
  obtain ⟨there, satisfies⟩ := mem_of_batch chosen
  exact eq_of_key_eq there held same ▸ satisfies

/-- A batch that the limit does not cut takes every row that satisfies the condition. -/
theorem mem_batch_of_length_le {ω : Type*} [LinearOrder ω] {t : Table key} {p : ρ → Bool}
    {order : ρ → ω} {n : Nat} (fits : (t.rows.filter p).length ≤ n) {row : ρ} :
    row ∈ t.batch p order n ↔ row ∈ t ∧ p row = true := by
  refine ⟨mem_of_batch, fun ⟨held, chosen⟩ => ?_⟩
  unfold batch
  rw [List.take_of_length_le (by rwa [List.length_insertionSort]), List.mem_insertionSort]
  exact List.mem_filter.2 ⟨held, chosen⟩

variable [DecidableEq κ]

/-- `DELETE ... WHERE key IN` such a batch. -/
def deleteBatch {ω : Type*} [LinearOrder ω] (t : Table key) (p : ρ → Bool) (order : ρ → ω)
    (n : Nat) : Table key :=
  t.deleteWhere (fun row => key row ∈ (t.batch p order n).map key)

theorem deleteBatch_eq {ω : Type*} [LinearOrder ω] {t : Table key} {p q : ρ → Bool} {order : ρ → ω}
    {n : Nat} (named : ∀ row, q row = true ↔ key row ∈ (t.batch p order n).map key) :
    t.deleteBatch p order n = t.deleteWhere q := by
  unfold deleteBatch
  congr 1
  funext row
  rw [Bool.eq_iff_iff, named row, decide_eq_true_iff]

theorem mem_deleteBatch {ω : Type*} [LinearOrder ω] {t : Table key} {p : ρ → Bool}
    {order : ρ → ω} {n : Nat} {row : ρ} :
    row ∈ t.deleteBatch p order n ↔ row ∈ t ∧ row ∉ t.batch p order n := by
  unfold deleteBatch
  rw [mem_deleteWhere, decide_eq_false_iff_not]
  refine and_congr_right (fun held => not_congr ⟨fun chosen => ?_, List.mem_map_of_mem⟩)
  rcases List.mem_map.1 chosen with ⟨other, picked, same⟩
  exact eq_of_key_eq (mem_of_batch picked).1 held same ▸ picked

/-- A bounded deletion takes rows away, and only rows that satisfy its condition. -/
theorem get?_deleteBatch {ω : Type*} [LinearOrder ω] {t : Table key} {p : ρ → Bool}
    {order : ρ → ω} {n : Nat} {k : κ} :
    (t.deleteBatch p order n).get? k = t.get? k ∨
      (t.deleteBatch p order n).get? k = none ∧ ∃ row, t.get? k = some row ∧ p row = true := by
  unfold deleteBatch
  rw [get?_deleteWhere]
  cases found : t.get? k with
  | none => exact Or.inl rfl
  | some row =>
      by_cases chosen : key row ∈ (t.batch p order n).map key
      · right
        rcases List.mem_map.1 chosen with ⟨other, picked, same⟩
        have expired := mem_of_batch picked
        have is_row : other = row := eq_of_key_eq expired.1 (mem_of_get? found) same
        exact ⟨Option.filter_some_neg (by simp [chosen]), row, rfl, is_row ▸ expired.2⟩
      · left
        exact Option.filter_some_pos (by simp [chosen])

/-- `DELETE ... WHERE key = k`. -/
def erase (t : Table key) (k : κ) : Table key :=
  t.deleteWhere (fun row => key row = k)

theorem get?_erase {t : Table key} {k k' : κ} :
    (t.erase k).get? k' = if k' = k then none else t.get? k' := by
  unfold erase
  rw [get?_deleteWhere]
  cases found : t.get? k' with
  | none => simp
  | some row =>
      have same := key_of_get? found
      by_cases own : k' = k
      · simp [own, same]
      · simp [own, same]

theorem mem_erase {t : Table key} {k : κ} {x : ρ} : x ∈ t.erase k ↔ x ∈ t ∧ key x ≠ k := by
  simp [erase, mem_deleteWhere]

/-- A row that is deleted by its key is one row. -/
theorem length_erase {t : Table key} {row : ρ} (held : row ∈ t) :
    (t.erase (key row)).rows.length + 1 = t.rows.length := by
  have listed : key row ∈ t.rows.map key := List.mem_map_of_mem held
  have keys : (t.erase (key row)).rows.map key = (t.rows.map key).erase (key row) := by
    rw [t.keysNodup.erase_eq_filter, List.filter_map]
    congr 1
  have lengths := congrArg List.length keys
  rw [List.length_map, List.length_erase_of_mem listed, List.length_map] at lengths
  have some_row := List.length_pos_of_mem held
  omega

end Delete

section Only

variable {t u : Table key} {p : ρ → Prop} {row : ρ}

/-- No row has a property. -/
def Lacks (t : Table key) (p : ρ → Prop) : Prop :=
  ∀ row ∈ t, ¬ p row

/-- One row has a property, and no other has. -/
def IsOnly (t : Table key) (p : ρ → Prop) (row : ρ) : Prop :=
  row ∈ t ∧ p row ∧ ∀ other ∈ t, p other → other = row

theorem Lacks.congr (lacks : t.Lacks p) (same : ∀ x, p x → (x ∈ u ↔ x ∈ t)) : u.Lacks p := by
  intro x held has
  exact lacks x ((same x has).1 held) has

theorem IsOnly.congr (only : t.IsOnly p row) (same : ∀ x, p x → (x ∈ u ↔ x ∈ t)) :
    u.IsOnly p row := by
  rcases only with ⟨held, has, others⟩
  exact ⟨(same row has).2 held, has, fun x there x_has => others x ((same x x_has).1 there) x_has⟩

theorem IsOnly.not_lacks (only : t.IsOnly p row) : ¬ t.Lacks p :=
  fun lacks => lacks row only.1 only.2.1

/-- The row of a key is the only one with it. -/
theorem isOnly_key (held : row ∈ t) : t.IsOnly (fun x => key x = key row) row :=
  ⟨held, rfl, fun _ there same => eq_of_key_eq there held same⟩

variable [DecidableEq κ]

/-- The first row with a property is the only one. -/
theorem Lacks.insert? (lacks : t.Lacks p) (inserted : t.insert? row = some u) (has : p row) :
    u.IsOnly p row := by
  refine ⟨(mem_insert? inserted).2 (Or.inr rfl), has, ?_⟩
  intro other held other_has
  rcases (mem_insert? inserted).1 held with before | same
  · exact absurd other_has (lacks other before)
  · exact same

end Only

/-- `SELECT ... WHERE ... ORDER BY ... LIMIT 1`; ties are taken in table order. -/
def firstBy {ω : Type*} [LinearOrder ω] (t : Table key) (p : ρ → Bool) (order : ρ → ω) :
    Option ρ :=
  (t.rows.filter p).argmin order

theorem mem_of_firstBy {ω : Type*} [LinearOrder ω] {t : Table key} {p : ρ → Bool}
    {order : ρ → ω} {row : ρ} (found : t.firstBy p order = some row) : row ∈ t ∧ p row = true := by
  have held := List.argmin_mem (Option.mem_def.2 found)
  simpa using held

theorem le_of_firstBy {ω : Type*} [LinearOrder ω] {t : Table key} {p : ρ → Bool} {order : ρ → ω}
    {row other : ρ} (found : t.firstBy p order = some row) (held : other ∈ t)
    (satisfies : p other = true) : order row ≤ order other :=
  List.le_of_mem_argmin (List.mem_filter.2 ⟨held, satisfies⟩) (Option.mem_def.2 found)

theorem exists_firstBy {ω : Type*} [LinearOrder ω] {t : Table key} {p : ρ → Bool} {order : ρ → ω}
    {row : ρ} (held : row ∈ t) (satisfies : p row = true) : ∃ first, t.firstBy p order = some first := by
  apply Option.ne_none_iff_exists'.1
  intro none
  have empty := List.argmin_eq_none.1 none
  exact List.ne_nil_of_mem (List.mem_filter.2 ⟨held, satisfies⟩) empty

/-- `SELECT ... WHERE ... ORDER BY ... DESC LIMIT 1`; ties are taken in table order. -/
def lastBy {ω : Type*} [LinearOrder ω] (t : Table key) (p : ρ → Bool) (order : ρ → ω) :
    Option ρ :=
  (t.rows.filter p).argmax order

section Last

variable {ω : Type*} [LinearOrder ω] {t : Table key} {p : ρ → Bool} {order : ρ → ω} {row : ρ}

theorem mem_of_lastBy (found : t.lastBy p order = some row) : row ∈ t ∧ p row = true := by
  have held := List.argmax_mem (Option.mem_def.2 found)
  simpa using held

theorem le_of_lastBy (found : t.lastBy p order = some row) {other : ρ} (held : other ∈ t)
    (chosen : p other = true) : order other ≤ order row := by
  have listed : other ∈ t.rows.filter p := by simpa using ⟨held, chosen⟩
  exact List.le_of_mem_argmax listed (Option.mem_def.2 found)

theorem lastBy_eq_none_iff : t.lastBy p order = none ↔ ∀ row ∈ t, p row = false := by
  unfold lastBy
  rw [List.argmax_eq_none, List.filter_eq_nil_iff]
  simp

end Last

end Table

/-! ### Joins -/

section Join

variable {ρ β : Type*} {rows : List ρ} {find : ρ → Option β}

/-- `JOIN ... ON` a key of the other table: each row with the row it refers to, if there is one. -/
def innerJoin (rows : List ρ) (find : ρ → Option β) : List (ρ × β) :=
  rows.filterMap (fun row => (find row).map (fun other => (row, other)))

/-- An inner join drops the rows that refer to nothing, and repeats none. -/
theorem innerJoin_map_fst :
    (innerJoin rows find).map Prod.fst = rows.filter (fun row => (find row).isSome) := by
  induction rows with
  | nil => rfl
  | cons row rows ih =>
      unfold innerJoin at ih ⊢
      cases found : find row with
      | none => rw [List.filterMap_cons_none (by rw [found]; rfl),
          List.filter_cons_of_neg (by simp [found]), ih]
      | some other => rw [List.filterMap_cons_some (by rw [found]; rfl), List.map_cons, ih,
          List.filter_cons_of_pos (by simp [found])]

theorem mem_innerJoin {row : ρ} {other : β} :
    (row, other) ∈ innerJoin rows find ↔ row ∈ rows ∧ find row = some other := by
  unfold innerJoin
  rw [List.mem_filterMap]
  constructor
  · rintro ⟨held, there, joined⟩
    obtain ⟨found, is_found, same⟩ := Option.map_eq_some_iff.1 joined
    cases same
    exact ⟨there, is_found⟩
  · rintro ⟨there, found⟩
    exact ⟨row, there, by rw [found]; rfl⟩

theorem length_innerJoin_le : (innerJoin rows find).length ≤ rows.length := List.length_filterMap_le _ _

end Join

end Relational
