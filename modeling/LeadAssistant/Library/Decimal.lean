/-
Module: LeadAssistant.Library.Decimal
Layer: Library
Purpose: Finite decimal floating-point numbers, as Python's `decimal` represents and prints them. A
  number has many representations, which are written differently; a text still determines its
  number.
Trusted boundary: none
Main exports: Decimal, Decimal.value, Decimal.str, Decimal.str_value, Decimal.count_colon_str
-/
import LeadAssistant.Library.Numeral
import Mathlib.Algebra.Order.Field.Rat
import Mathlib.Tactic.Linarith
import Mathlib.Tactic.Positivity
import Mathlib.Tactic.Ring

/-- A sign, a coefficient and an exponent of ten. -/
structure Decimal where
  negative : Bool
  coefficient : Nat
  exponent : Int
deriving Repr, DecidableEq

namespace Decimal

/-- The number that is represented. -/
def value (d : Decimal) : ℚ :=
  (if d.negative then -1 else 1) * d.coefficient * (10 : ℚ) ^ d.exponent

/-- A numeral with a fraction and an exponent. -/
structure Parts where
  negative : Bool
  integer : List Char
  fraction : List Char
  exponent : Int

/-- `%+d`. -/
def signed (n : Int) : List Char :=
  (if n < 0 then '-' else '+') :: Nat.toDigits 10 n.natAbs

/-- The text after the digits before the point, which leaves out an empty fraction and a zero
exponent. -/
def tail (fraction : List Char) (exponent : Int) : List Char :=
  (if fraction = [] then [] else '.' :: fraction) ++
    if exponent = 0 then [] else 'E' :: signed exponent

namespace Parts

/-- The text of a numeral. -/
def text (p : Parts) : List Char :=
  (if p.negative then ['-'] else []) ++ (p.integer ++ tail p.fraction p.exponent)

/-- The number that it denotes. -/
def value (p : Parts) : ℚ :=
  (if p.negative then -1 else 1) * Nat.ofDigitChars 10 (p.integer ++ p.fraction) 0 *
    (10 : ℚ) ^ (p.exponent - p.fraction.length)

/-- A numeral of digits, with at least one before the point. -/
structure WellFormed (p : Parts) : Prop where
  integer : ∀ c ∈ p.integer, c.isDigit = true
  fraction : ∀ c ∈ p.fraction, c.isDigit = true
  nonempty : p.integer ≠ []

end Parts

/-- `__str__`: a number that is not small has no exponent, and any other has one digit before the
point. -/
def parts (d : Decimal) : Parts :=
  let digits := Nat.toDigits 10 d.coefficient
  let leftdigits : Int := d.exponent + digits.length
  let dotplace : Int := if d.exponent ≤ 0 ∧ -6 < leftdigits then leftdigits else 1
  let exponent := leftdigits - dotplace
  if dotplace ≤ 0 then
    ⟨d.negative, ['0'], List.replicate (-dotplace).toNat '0' ++ digits, exponent⟩
  else if digits.length ≤ dotplace then
    ⟨d.negative, digits ++ List.replicate (dotplace - digits.length).toNat '0', [], exponent⟩
  else ⟨d.negative, digits.take dotplace.toNat, digits.drop dotplace.toNat, exponent⟩

def str (d : Decimal) : String := String.ofList d.parts.text

example : (str ⟨false, 500, -2⟩, str ⟨true, 5, -8⟩, str ⟨false, 15, 1⟩) =
    ("5.00", "-5E-8", "1.5E+2") := by decide +kernel

/-- The nearest integer without its sign, with ties to the even one. -/
def integral (d : Decimal) : Nat :=
  if 0 ≤ d.exponent then d.coefficient * 10 ^ d.exponent.toNat
  else
    let unit := 10 ^ (-d.exponent).toNat
    let quotient := d.coefficient / unit
    let remainder := d.coefficient % unit
    if unit < 2 * remainder ∨ (2 * remainder = unit ∧ quotient % 2 = 1) then quotient + 1
    else quotient

/-- `.0%`: the percentage, rounded to an integer. -/
def percent (d : Decimal) : String :=
  String.ofList ((if d.negative then ['-'] else []) ++
    Nat.toDigits 10 ({ d with exponent := d.exponent + 2 } : Decimal).integral ++ ['%'])

example : (percent ⟨false, 8750, -4⟩, percent ⟨false, 8650, -4⟩, percent ⟨true, 0, 0⟩) =
    ("88%", "86%", "-0%") := by decide +kernel

section Text

variable {p q : Parts} {n m : Int} {c : Char}

theorem not_mem_digits {digits : List Char} (digital : ∀ c ∈ digits, c.isDigit = true)
    (other : c.isDigit = false) : c ∉ digits := by
  intro held
  rw [digital c held] at other
  cases other

theorem isDigit_toDigits {n : Nat} : ∀ c ∈ Nat.toDigits 10 n, c.isDigit = true :=
  fun _ held => Nat.isDigit_of_mem_toDigits (by decide) (by decide) held

theorem signed_inj (same : signed n = signed m) : n = m := by
  rcases List.cons.inj same with ⟨sign, digits⟩
  have values := congrArg (fun digits => Nat.ofDigitChars 10 digits 0) digits
  simp only [Nat.ofDigitChars_ten_toDigits] at values
  split at sign <;> split at sign <;> first | omega | cases sign

theorem tail_inj {f g : List Char} (digital : ∀ c ∈ f, c.isDigit = true)
    (digital' : ∀ c ∈ g, c.isDigit = true) (same : tail f n = tail g m) : f = g ∧ n = m := by
  have fraction : ∀ {f : List Char}, (∀ c ∈ f, c.isDigit = true) →
      ∀ c ∈ (if f = [] then [] else '.' :: f), decide (c ≠ 'E') = true := by
    intro f digital c held
    split at held
    · cases held
    · rcases List.mem_cons.1 held with rfl | digit
      · rfl
      · have ne : c ≠ 'E' := fun own => not_mem_digits digital rfl (own ▸ digit)
        simpa using ne
  have exponent : ∀ {n : Int}, ∀ c, (if n = 0 then [] else 'E' :: signed n).head? = some c →
      decide (c ≠ 'E') = false := by
    intro n c first
    split at first
    · cases first
    · cases first
      rfl
  rcases Numeral.append_inj_of_head (fraction digital) (fraction digital') exponent exponent same with
    ⟨fractions, exponents⟩
  constructor
  · split at fractions <;> split at fractions
    · rename_i empty empty'
      rw [empty, empty']
    · cases fractions
    · cases fractions
    · exact (List.cons.inj fractions).2
  · split at exponents <;> split at exponents
    · rename_i zero zero'
      rw [zero, zero']
    · cases exponents
    · cases exponents
    · exact signed_inj (List.cons.inj exponents).2

theorem tail_head {f : List Char} (first : (tail f n).head? = some c) : c.isDigit = false := by
  unfold tail at first
  split at first
  · split at first
    · cases first
    · cases first
      rfl
  · cases first
    rfl

/-- A text begins with a minus when the number is negative. -/
theorem Parts.head_text (formed : p.WellFormed) : p.text.head? = some '-' ↔ p.negative = true := by
  rcases p with ⟨sign, integer, fraction, exponent⟩
  rcases List.exists_cons_of_ne_nil formed.nonempty with ⟨c, digits, own⟩
  have digit : c.isDigit = true := formed.integer c (own ▸ List.mem_cons_self)
  have ne : c ≠ '-' := by
    rintro rfl
    cases digit
  cases own
  cases sign with
  | true => exact iff_of_true rfl rfl
  | false => exact iff_of_false (fun minus => ne (Option.some.inj minus)) Bool.false_ne_true

/-- A text determines its parts. -/
theorem Parts.text_inj (formed : p.WellFormed) (formed' : q.WellFormed) (same : p.text = q.text) :
    p = q := by
  have signs : p.negative = q.negative := by
    rw [Bool.eq_iff_iff, ← head_text formed, ← head_text formed', same]
  rcases p with ⟨sign, integer, fraction, exponent⟩
  rcases q with ⟨sign', integer', fraction', exponent'⟩
  cases signs
  rcases Numeral.append_inj_of_head formed.integer formed'.integer (fun _ => tail_head)
    (fun _ => tail_head) (List.append_cancel_left same) with ⟨integers, tails⟩
  cases integers
  rcases tail_inj formed.fraction formed'.fraction tails with ⟨fractions, exponents⟩
  cases fractions
  cases exponents
  rfl

theorem parts_wellFormed {d : Decimal} : d.parts.WellFormed := by
  have zeros : ∀ {k : Nat} {c : Char}, c ∈ List.replicate k '0' → c.isDigit = true := by
    intro k c held
    rw [(List.mem_replicate.1 held).2]
    rfl
  unfold parts
  dsimp only
  generalize (if d.exponent ≤ 0 ∧ -6 < d.exponent + ((Nat.toDigits 10 d.coefficient).length : Int)
    then d.exponent + ((Nat.toDigits 10 d.coefficient).length : Int) else 1) = dotplace
  split
  · refine ⟨fun c held => ?_, fun c held => ?_, List.cons_ne_nil _ _⟩
    · rw [List.mem_singleton.1 held]
      rfl
    · exact (List.mem_append.1 held).elim zeros (isDigit_toDigits c)
  · rename_i positive
    split
    · refine ⟨fun c held => ?_, fun c held => (List.not_mem_nil held).elim, fun empty => ?_⟩
      · exact (List.mem_append.1 held).elim (isDigit_toDigits c) zeros
      · exact Nat.toDigits_ne_nil (List.append_eq_nil_iff.1 empty).1
    · refine ⟨fun c held => isDigit_toDigits c (List.mem_of_mem_take held),
        fun c held => isDigit_toDigits c (List.mem_of_mem_drop held), fun empty => ?_⟩
      rcases List.take_eq_nil_iff.1 empty with zero | none
      · omega
      · exact Nat.toDigits_ne_nil none

/-- The parts denote the number. -/
theorem parts_value {d : Decimal} : d.parts.value = d.value := by
  unfold parts value
  dsimp only
  have length : 0 < (Nat.toDigits 10 d.coefficient).length := Nat.length_toDigits_pos
  generalize place : (if d.exponent ≤ 0 ∧
    -6 < d.exponent + ((Nat.toDigits 10 d.coefficient).length : Int)
    then d.exponent + ((Nat.toDigits 10 d.coefficient).length : Int) else 1) = dotplace
  split
  · rename_i small
    unfold Parts.value
    dsimp only
    have shift : d.exponent + ((Nat.toDigits 10 d.coefficient).length : Int) - dotplace -
        ((List.replicate (-dotplace).toNat '0' ++ Nat.toDigits 10 d.coefficient).length : Int) =
        d.exponent := by
      rw [List.length_append, List.length_replicate]
      omega
    rw [shift, Nat.ofDigitChars_append, Nat.ofDigitChars_append, Nat.ofDigitChars_replicate_zero]
    have zero : Nat.ofDigitChars 10 ['0'] 0 = 0 := by decide
    rw [zero, Nat.mul_zero, Nat.ofDigitChars_ten_toDigits]
  · rename_i positive
    split
    · rename_i whole
      unfold Parts.value
      dsimp only
      have none : (dotplace - ((Nat.toDigits 10 d.coefficient).length : Int)).toNat = 0 := by
        split at place <;> omega
      have shift : d.exponent + ((Nat.toDigits 10 d.coefficient).length : Int) - dotplace -
          (([] : List Char).length : Int) = d.exponent := by
        rw [List.length_nil]
        omega
      rw [shift, none, List.replicate_zero, List.append_nil, List.append_nil,
        Nat.ofDigitChars_ten_toDigits]
    · rename_i inner
      unfold Parts.value
      dsimp only
      have shift : d.exponent + ((Nat.toDigits 10 d.coefficient).length : Int) - dotplace -
          (((Nat.toDigits 10 d.coefficient).drop dotplace.toNat).length : Int) = d.exponent := by
        rw [List.length_drop]
        omega
      rw [shift, List.take_append_drop, Nat.ofDigitChars_ten_toDigits]

/-- Numbers that are written alike are equal. -/
theorem str_value {d e : Decimal} (same : d.str = e.str) : d.value = e.value := by
  rw [← parts_value, ← parts_value,
    Parts.text_inj parts_wellFormed parts_wellFormed (String.ofList_injective same)]

/-- The number without its sign. -/
theorem abs_value {d : Decimal} : |d.value| = d.coefficient * (10 : ℚ) ^ d.exponent := by
  have size : 0 ≤ (d.coefficient : ℚ) * (10 : ℚ) ^ d.exponent :=
    mul_nonneg (Nat.cast_nonneg _) (zpow_nonneg (by norm_num) _)
  unfold value
  split
  · rw [mul_assoc, neg_one_mul, abs_neg, abs_of_nonneg size]
  · rw [one_mul, abs_of_nonneg size]

/-- Rounding goes up by less than one. -/
theorem integral_le {d : Decimal} {bound : Nat} (small : |d.value| < bound) :
    d.integral ≤ bound := by
  rw [abs_value] at small
  unfold integral
  split
  case isTrue whole =>
    obtain ⟨exponent, own⟩ := Int.eq_ofNat_of_zero_le whole
    rw [own, Int.toNat_natCast]
    rw [own, zpow_natCast] at small
    have nat_small : d.coefficient * 10 ^ exponent < bound := by exact_mod_cast small
    exact Nat.le_of_lt nat_small
  case isFalse part =>
    have negated : 0 ≤ -d.exponent := by omega
    obtain ⟨places, own⟩ := Int.eq_ofNat_of_zero_le negated
    have exponent : d.exponent = -(places : Int) := by omega
    rw [own, Int.toNat_natCast]
    rw [exponent, zpow_neg, zpow_natCast, ← div_eq_mul_inv, div_lt_iff₀ (by positivity)] at small
    have nat_small : d.coefficient < 10 ^ places * bound := by
      rw [Nat.mul_comm]
      exact_mod_cast small
    have quotient := Nat.div_lt_of_lt_mul nat_small
    dsimp only
    split
    · exact quotient
    · exact Nat.le_of_lt quotient

/-- A percentage of a number below ten has at most four digits. -/
theorem length_percent_le {d : Decimal} (small : |d.value| < 10) : d.percent.length ≤ 6 := by
  have shifted : |({ d with exponent := d.exponent + 2 } : Decimal).value| < (1000 : Nat) := by
    rw [abs_value] at small ⊢
    rw [zpow_add₀ (by norm_num), ← mul_assoc]
    norm_num
    linarith
  have digits := (Nat.length_toDigits_le_iff (by decide : 1 < 10) (by decide : 0 < 4)).2
    (Nat.lt_of_le_of_lt (integral_le shifted) (by decide))
  unfold percent
  rw [String.length_ofList, List.length_append, List.length_append]
  split
  · simp only [List.length_singleton]
    omega
  · simp only [List.length_singleton, List.length_nil]
    omega

/-- A percentage is written with digits, a minus and a percent sign. -/
theorem mem_percent {d : Decimal} (held : c ∈ d.percent.toList) :
    c.isDigit = true ∨ c = '-' ∨ c = '%' := by
  unfold percent at held
  rw [String.toList_ofList, List.mem_append, List.mem_append, List.mem_singleton] at held
  rcases held with (sign | digit) | mark
  · split at sign
    · exact .inr (.inl (List.mem_singleton.mp sign))
    · cases sign
  · exact .inl (isDigit_toDigits c digit)
  · exact .inr (.inr mark)

/-- There is no colon in a number. -/
theorem count_colon_str {d : Decimal} : d.str.toList.count ':' = 0 := by
  have formed := @parts_wellFormed d
  have integer := not_mem_digits formed.integer (rfl : ':'.isDigit = false)
  have fraction := not_mem_digits formed.fraction (rfl : ':'.isDigit = false)
  have exponent := not_mem_digits (@isDigit_toDigits d.parts.exponent.natAbs)
    (rfl : ':'.isDigit = false)
  rw [List.count_eq_zero]
  unfold str Parts.text tail signed
  rw [String.toList_ofList]
  intro held
  simp only [List.mem_append] at held
  rcases held with sign | held | held | held
  · split at sign <;> simp at sign
  · exact integer held
  · split at held
    · cases held
    · rcases List.mem_cons.1 held with point | held
      · cases point
      · exact fraction held
  · split at held
    · cases held
    · rcases List.mem_cons.1 held with mark | held
      · cases mark
      · rcases List.mem_cons.1 held with sign | held
        · split at sign <;> cases sign
        · exact exponent held

end Text

end Decimal
