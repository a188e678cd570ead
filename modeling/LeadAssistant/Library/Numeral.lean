/-
Module: LeadAssistant.Library.Numeral
Layer: Library
Purpose: Reading back what was printed. A numeral determines its number, with or without leading
  zeros, and a text that is put together with separators determines its parts as long as the
  separator can be found again.
Trusted boundary: none
Main exports: Numeral.pad, Numeral.str, Numeral.value_pad, Numeral.append_inj_of_head,
  Numeral.append_cons_inj, Numeral.append_cons_inj_of_count, Numeral.exists_rest,
  Numeral.value_of_start
-/
import Mathlib.Algebra.Group.Nat.Defs
import Mathlib.Data.List.Basic

namespace Numeral

section Separators

variable {α : Type*} {p : α → Bool} {sep : α} {a b x y : List α}

/-- The longest start of a text that satisfies `p`. -/
theorem takeWhile_append (inside : ∀ c ∈ a, p c = true) (rest : ∀ c, x.head? = some c → p c = false) :
    (a ++ x).takeWhile p = a := by
  rw [List.takeWhile_append_of_pos inside]
  cases x with
  | nil => exact List.append_nil a
  | cons c x =>
      have stops : ¬ p c = true := by simp [rest c rfl]
      rw [List.takeWhile_cons_of_neg stops, List.append_nil]

/-- A rest that is empty or goes on with something else. -/
theorem append_inj_of_head (inside : ∀ c ∈ a, p c = true) (inside' : ∀ c ∈ b, p c = true)
    (rest : ∀ c, x.head? = some c → p c = false) (rest' : ∀ c, y.head? = some c → p c = false)
    (same : a ++ x = b ++ y) : a = b ∧ x = y := by
  have starts : a = b := by
    rw [← takeWhile_append inside rest, same, takeWhile_append inside' rest']
  subst starts
  exact ⟨rfl, List.append_cancel_left same⟩

/-- A separator that is not in the text before it. -/
theorem append_cons_inj [DecidableEq α] (absent : sep ∉ a) (absent' : sep ∉ b)
    (same : a ++ sep :: x = b ++ sep :: y) : a = b ∧ x = y := by
  have inside : ∀ {a : List α}, sep ∉ a → ∀ c ∈ a, decide (c ≠ sep) = true := by
    intro a absent c held
    have ne : c ≠ sep := fun own => absent (own ▸ held)
    simpa using ne
  have rest : ∀ {x : List α}, ∀ c, (sep :: x).head? = some c → decide (c ≠ sep) = false := by
    intro x c own
    cases own
    simp
  rcases append_inj_of_head (inside absent) (inside absent') rest rest same with ⟨before, after⟩
  exact ⟨before, (List.cons.inj after).2⟩

/-- A separator that is found by counting from the end. -/
theorem append_cons_inj_of_count [DecidableEq α] (count : x.count sep = y.count sep)
    (same : a ++ sep :: x = b ++ sep :: y) : a = b ∧ x = y := by
  have longer : ∀ {x y e : List α}, x.count sep = y.count sep → sep :: x = e ++ sep :: y →
      e = [] := by
    intro x y e count split
    cases e with
    | nil => rfl
    | cons c e =>
        rw [List.cons_append, List.cons.injEq] at split
        rw [split.2, List.count_append, List.count_cons_self] at count
        omega
  rcases List.append_eq_append_iff.1 same with ⟨e, rfl, split⟩ | ⟨e, rfl, split⟩
  · cases longer count split
    exact ⟨(List.append_nil a).symm, (List.cons.inj split).2⟩
  · cases longer count.symm split
    exact ⟨List.append_nil b, (List.cons.inj split).2.symm⟩

end Separators

/-- A numeral with leading zeros. -/
def pad (width n : Nat) : List Char :=
  List.replicate (width - (Nat.toDigits 10 n).length) '0' ++ Nat.toDigits 10 n

variable {width n m : Nat} {c : Char}

@[simp] theorem value_pad : Nat.ofDigitChars 10 (pad width n) 0 = n := by
  unfold pad
  rw [Nat.ofDigitChars_append, Nat.ofDigitChars_replicate_zero, Nat.mul_zero,
    Nat.ofDigitChars_ten_toDigits]

theorem pad_inj (same : pad width n = pad width m) : n = m := by
  have values := congrArg (fun digits => Nat.ofDigitChars 10 digits 0) same
  simpa using values

theorem isDigit_of_mem_pad (held : c ∈ pad width n) : c.isDigit = true := by
  rcases List.mem_append.1 held with zero | digit
  · rw [(List.mem_replicate.1 zero).2]
    rfl
  · exact Nat.isDigit_of_mem_toDigits (by decide) (by decide) digit

/-- A separator is no digit. -/
theorem not_mem_pad (separator : c.isDigit = false) : c ∉ pad width n := by
  intro held
  rw [isDigit_of_mem_pad held] at separator
  cases separator

theorem length_pad (positive : 0 < width) (small : n < 10 ^ width) :
    (pad width n).length = width := by
  have short := (Nat.length_toDigits_le_iff (by decide : 1 < 10) positive).2 small
  unfold pad
  rw [List.length_append, List.length_replicate]
  omega

/-! ### Numerals that start alike -/

section Starts

variable {start k value : Nat} {digits rest : List Char}

theorem value_lt (digit : ∀ c ∈ digits, c.isDigit = true) :
    Nat.ofDigitChars 10 digits 0 < 10 ^ digits.length := by
  induction digits with
  | nil => exact Nat.one_pos
  | cons c digits ih =>
      have later := ih (fun c held => digit c (List.mem_cons_of_mem _ held))
      have first := digit c List.mem_cons_self
      have small : c.toNat - '0'.toNat ≤ 9 :=
        Nat.sub_le_of_le_add (Char.isDigit_iff_toNat.1 first).2
      have scaled := Nat.mul_le_mul_left (10 ^ digits.length) small
      rw [Nat.ofDigitChars_cons, Nat.ofDigitChars_eq_ofDigitChars_zero, List.length_cons,
        Nat.pow_succ, Nat.mul_zero, Nat.zero_add]
      omega

/-- Numerals of one length are read alike only if they are the same. -/
theorem eq_of_value {other : List Char} (digit : ∀ c ∈ digits, c.isDigit = true)
    (digit' : ∀ c ∈ other, c.isDigit = true) (length : digits.length = other.length)
    (same : Nat.ofDigitChars 10 digits 0 = Nat.ofDigitChars 10 other 0) : digits = other := by
  induction digits generalizing other with
  | nil => exact (List.length_eq_zero_iff.1 length.symm).symm
  | cons c digits ih =>
      cases other with
      | nil => cases length
      | cons d other =>
          have length' : digits.length = other.length := Nat.succ.inj length
          have later := value_lt (fun c held => digit c (List.mem_cons_of_mem _ held))
          have later' := value_lt (fun c held => digit' c (List.mem_cons_of_mem _ held))
          have first := Char.isDigit_iff_toNat.1 (digit c List.mem_cons_self)
          have first' := Char.isDigit_iff_toNat.1 (digit' d List.mem_cons_self)
          rw [Nat.ofDigitChars_cons, Nat.ofDigitChars_cons, Nat.ofDigitChars_eq_ofDigitChars_zero,
            @Nat.ofDigitChars_eq_ofDigitChars_zero other, length', Nat.mul_zero, Nat.zero_add,
            Nat.zero_add] at same
          rw [length'] at later
          have positive : 0 < 10 ^ other.length := Nat.pow_pos (by decide)
          have heads := congrArg (fun n => n / 10 ^ other.length) same
          simp only [Nat.mul_add_div positive, Nat.div_eq_of_lt later, Nat.div_eq_of_lt later',
            Nat.add_zero] at heads
          rw [heads] at same
          have own : c = d := Char.toNat_inj.1 (by omega)
          rw [own, ih (fun c held => digit c (List.mem_cons_of_mem _ held))
            (fun c held => digit' c (List.mem_cons_of_mem _ held)) length' (by omega)]

/-- A start followed by `k` further digits. -/
theorem exists_rest (positive : 0 < start) (small : value < 10 ^ k) :
    ∃ rest, Nat.toDigits 10 (start * 10 ^ k + value) = Nat.toDigits 10 start ++ rest ∧
      rest.length = k ∧ Nat.ofDigitChars 10 rest 0 = value := by
  induction k generalizing value with
  | zero =>
      have none : value = 0 := Nat.lt_one_iff.1 small
      subst none
      exact ⟨[], by simp, rfl, rfl⟩
  | succ k ih =>
      have before : value / 10 < 10 ^ k := Nat.div_lt_of_lt_mul (Nat.pow_succ' ▸ small)
      rcases ih before with ⟨rest, split, length, read⟩
      have last : value % 10 < 10 := Nat.mod_lt _ (by decide)
      have more : 0 < start * 10 ^ k + value / 10 :=
        Nat.add_pos_left (Nat.mul_pos positive (Nat.pow_pos (by decide))) _
      have sum : 10 * (start * 10 ^ k + value / 10) + value % 10 =
          start * 10 ^ (k + 1) + value := by
        rw [Nat.pow_succ, ← Nat.mul_assoc]
        omega
      refine ⟨rest ++ Nat.toDigits 10 (value % 10), ?_, ?_, ?_⟩
      · rw [← sum, ← Nat.toDigits_append_toDigits (by decide) more last, split,
          List.append_assoc]
      · rw [List.length_append, length, Nat.toDigits_of_lt_base last]
        rfl
      · rw [Nat.ofDigitChars_append, read, Nat.ofDigitChars_eq_ofDigitChars_zero,
          Nat.toDigits_of_lt_base last, ← Nat.toDigits_of_lt_base last,
          Nat.ofDigitChars_ten_toDigits, Nat.toDigits_of_lt_base last, List.length_singleton]
        omega

/-- What the digits after a start say about the number. -/
theorem value_of_start (split : Nat.toDigits 10 n = Nat.toDigits 10 start ++ rest) :
    n = start * 10 ^ rest.length + Nat.ofDigitChars 10 rest 0 ∧
      Nat.ofDigitChars 10 rest 0 < 10 ^ rest.length := by
  have read := congrArg (fun digits => Nat.ofDigitChars 10 digits 0) split
  simp only [Nat.ofDigitChars_append, Nat.ofDigitChars_ten_toDigits] at read
  rw [Nat.ofDigitChars_eq_ofDigitChars_zero, Nat.mul_comm] at read
  refine ⟨read, value_lt (fun c held => ?_)⟩
  have own : c ∈ Nat.toDigits 10 n := split ▸ List.mem_append_right _ held
  exact Nat.isDigit_of_mem_toDigits (by decide) (by decide) own

end Starts

/-- An integer in decimal notation. -/
def str (n : Int) : String :=
  String.ofList ((if n < 0 then ['-'] else []) ++ Nat.toDigits 10 n.natAbs)

theorem mem_str {n : Int} (held : c ∈ (str n).toList) : c = '-' ∨ c.isDigit = true := by
  unfold str at held
  rw [String.toList_ofList] at held
  rcases List.mem_append.1 held with sign | digit
  · split at sign
    · exact .inl (List.mem_singleton.1 sign)
    · cases sign
  · exact .inr (Nat.isDigit_of_mem_toDigits (by decide) (by decide) digit)

theorem length_str_le {n : Int} {width : Nat} (positive : 0 < width) (small : n.natAbs < 10 ^ width) :
    (str n).length ≤ width + 1 := by
  have short := (Nat.length_toDigits_le_iff (by decide : 1 < 10) positive).2 small
  unfold str
  rw [String.length_ofList, List.length_append]
  split
  · rw [List.length_singleton]
    omega
  · rw [List.length_nil]
    omega

end Numeral
