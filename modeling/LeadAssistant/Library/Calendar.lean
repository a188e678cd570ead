/-
Module: LeadAssistant.Library.Calendar
Layer: Library
Purpose: The proleptic Gregorian calendar and the ISO 8601 text of a moment in UTC, as Python's
  `datetime` computes them: `_ord2ymd`, `_ymd2ord` and `isoformat`. A moment is a number of
  microseconds since 1970. A date determines its ordinal, so a text determines its moment.
Trusted boundary: none
Main exports: Calendar.ofOrdinal, Calendar.ordinal, Calendar.ordinal_ofOrdinal, Calendar.isoformat,
  Calendar.isoformat_inj, Calendar.count_colon_isoformat
-/
import LeadAssistant.Library.Numeral
import Mathlib.Data.Int.Order.Basic

namespace Calendar

/-- A year of 366 days. -/
def isLeap (year : Nat) : Bool :=
  year % 4 = 0 && (year % 100 ≠ 0 || year % 400 = 0)

/-- `_days_before_year`. -/
def daysBeforeYear (year : Nat) : Nat :=
  let y := year - 1
  y * 365 + y / 4 - y / 100 + y / 400

/-- `_days_before_month`. -/
def daysBeforeMonth (leap : Bool) (month : Nat) : Nat :=
  [0, 31, 59, 90, 120, 151, 181, 212, 243, 273, 304, 334].getD (month - 1) 0 +
    if 2 < month ∧ leap then 1 else 0

structure Date where
  year : Nat
  month : Nat
  day : Nat
deriving Repr, DecidableEq

/-- `_ymd2ord`: the first of January of the year 1 is day 1. -/
def ordinal (date : Date) : Nat :=
  daysBeforeYear date.year + daysBeforeMonth (isLeap date.year) date.month + date.day

/-- The month and the day of a day of the year, which is counted from 0. The estimate is right or
one month too far. -/
def monthAndDay (leap : Bool) (n : Nat) : Nat × Nat :=
  let month := (n + 50) / 32
  let month := if n < daysBeforeMonth leap month then month - 1 else month
  (month, n - daysBeforeMonth leap month + 1)

/-- `_ord2ymd`: cycles of 400 years, of 100, of 4, and years. -/
def ofOrdinal (n : Nat) : Date :=
  let n := n - 1
  let n400 := n / 146097
  let n := n % 146097
  let n100 := n / 36524
  let n := n % 36524
  let n4 := n / 1461
  let n := n % 1461
  let n1 := n / 365
  let n := n % 365
  let year := n400 * 400 + 1 + n100 * 100 + n4 * 4 + n1
  -- The last day of a long cycle is the day after its last full year.
  if n1 = 4 ∨ n100 = 4 then ⟨year - 1, 12, 31⟩
  else
    let date := monthAndDay (n1 = 3 && (n4 ≠ 24 || n100 = 3)) n
    ⟨year, date.1, date.2⟩

/-- Day and month determine the day of the year. -/
theorem monthAndDay_spec {leap : Bool} {n : Nat} (inside : n < 365 + if leap then 1 else 0) :
    daysBeforeMonth leap (monthAndDay leap n).1 + (monthAndDay leap n).2 = n + 1 := by
  have common : ∀ n < 365, daysBeforeMonth false (monthAndDay false n).1 +
      (monthAndDay false n).2 = n + 1 := by decide +kernel
  have leaping : ∀ n < 366, daysBeforeMonth true (monthAndDay true n).1 +
      (monthAndDay true n).2 = n + 1 := by decide +kernel
  cases leap with
  | false => exact common n inside
  | true => exact leaping n inside

/-- A year by its place in the cycles. -/
theorem daysBeforeYear_cycles {n400 n100 n4 n1 : Nat} (hundreds : n100 < 4) (fours : n4 < 25)
    (ones : n1 < 4) : daysBeforeYear (n400 * 400 + 1 + n100 * 100 + n4 * 4 + n1) =
      n400 * 146097 + n100 * 36524 + n4 * 1461 + n1 * 365 := by
  unfold daysBeforeYear
  dsimp only
  omega

theorem isLeap_cycles {n400 n100 n4 n1 : Nat} (hundreds : n100 < 4) (fours : n4 < 25)
    (ones : n1 < 4) : isLeap (n400 * 400 + 1 + n100 * 100 + n4 * 4 + n1) =
      (n1 = 3 && (n4 ≠ 24 || n100 = 3)) := by
  unfold isLeap
  rw [Bool.eq_iff_iff]
  simp only [Bool.and_eq_true, Bool.or_eq_true, decide_eq_true_eq, ne_eq, decide_not,
    Bool.not_eq_true', decide_eq_false_iff_not]
  omega

/-- A date determines its day. -/
theorem ordinal_ofOrdinal {n : Nat} (positive : 0 < n) : ordinal (ofOrdinal n) = n := by
  unfold ofOrdinal
  dsimp only
  generalize cycles400 : (n - 1) / 146097 = n400
  generalize rest400 : (n - 1) % 146097 = r400
  generalize cycles100 : r400 / 36524 = n100
  generalize rest100 : r400 % 36524 = r100
  generalize cycles4 : r100 / 1461 = n4
  generalize rest4 : r100 % 1461 = r4
  generalize cycles1 : r4 / 365 = n1
  generalize rest1 : r4 % 365 = r1
  split
  · rename_i last
    unfold ordinal
    dsimp only
    rcases last with rfl | rfl
    · have year : n400 * 400 + 1 + n100 * 100 + n4 * 4 + 4 - 1 =
          n400 * 400 + 1 + n100 * 100 + n4 * 4 + 3 := by omega
      rw [year, daysBeforeYear_cycles (by omega) (by omega) (by decide),
        isLeap_cycles (by omega) (by omega) (by decide)]
      have leap : (decide (3 = 3) && (decide (n4 ≠ 24) || decide (n100 = 3))) = true := by
        simp
        omega
      rw [leap]
      have december : daysBeforeMonth true 12 = 335 := by decide
      omega
    · have year : n400 * 400 + 1 + 4 * 100 + n4 * 4 + n1 - 1 =
          n400 * 400 + 1 + 3 * 100 + 24 * 4 + 3 := by omega
      rw [year, daysBeforeYear_cycles (by decide) (by decide) (by decide),
        isLeap_cycles (by decide) (by decide) (by decide)]
      have december : daysBeforeMonth (decide (3 = 3) && (decide (24 ≠ 24) || decide (3 = 3))) 12 =
          335 := by decide
      omega
  · rename_i inner
    have inside : r1 < 365 + if (decide (n1 = 3) && (decide (n4 ≠ 24) || decide (n100 = 3))) = true
        then 1 else 0 := by omega
    have days := monthAndDay_spec inside
    unfold ordinal
    dsimp only
    rw [daysBeforeYear_cycles (by omega) (by omega) (by omega),
      isLeap_cycles (by omega) (by omega) (by omega)]
    omega

/-- The microseconds of a day. -/
def day : Int := 86400000000

/-- The ordinal of the day of a moment; that of 1970-01-01 is 719163. -/
def ordinalOf (moment : Int) : Int := moment / day + 719163

/-- The moments of a `datetime`: from the year 1 to the year 9999. -/
def representable (moment : Int) : Bool :=
  0 < ordinalOf moment && ordinalOf moment ≤ 3652059

/-- The time of the day after the hour, `MM:SS[.ffffff]` and the offset of UTC. -/
def clock (micros : Nat) : List Char :=
  Numeral.pad 2 (micros / 60000000 % 60) ++ ':' :: (Numeral.pad 2 (micros / 1000000 % 60) ++
    (if micros % 1000000 = 0 then "+00:00".toList
      else '.' :: (Numeral.pad 6 (micros % 1000000) ++ "+00:00".toList)))

/-- The text of a moment whose day and whose time of the day are given. -/
def text (date : Date) (micros : Nat) : List Char :=
  Numeral.pad 4 date.year ++ '-' :: (Numeral.pad 2 date.month ++ '-' :: (Numeral.pad 2 date.day ++
    'T' :: (Numeral.pad 2 (micros / 3600000000) ++ ':' :: clock micros)))

/-- `isoformat`, of an aware `datetime` in UTC. -/
def isoformat (moment : Int) : String :=
  String.ofList (text (ofOrdinal (ordinalOf moment).toNat) (moment % day).toNat)

example : isoformat 1709210096000001 = "2024-02-29T12:34:56.000001+00:00" := by decide +kernel

theorem count_colon_pad {width n : Nat} : (Numeral.pad width n).count ':' = 0 :=
  List.count_eq_zero.2 (Numeral.not_mem_pad rfl)

/-- The colons after the hour, after the minute and in the offset. -/
theorem count_colon_isoformat {moment : Int} : (isoformat moment).toList.count ':' = 3 := by
  unfold isoformat text clock
  rw [String.toList_ofList]
  split
  · simp [count_colon_pad]
  · simp [count_colon_pad]

theorem clock_inj {a b : Nat} (same : clock a = clock b) : a % 3600000000 = b % 3600000000 := by
  unfold clock at same
  rcases Numeral.append_cons_inj (Numeral.not_mem_pad rfl) (Numeral.not_mem_pad rfl) same with
    ⟨minutes, rest⟩
  have width : ∀ n, (Numeral.pad 2 (n % 60)).length = 2 :=
    fun n => Numeral.length_pad (by decide) (by omega)
  rcases List.append_inj rest ((width _).trans (width _).symm) with ⟨seconds, rest⟩
  have minutes := Numeral.pad_inj minutes
  have seconds := Numeral.pad_inj seconds
  have micros : a % 1000000 = b % 1000000 := by
    split at rest
    · rename_i whole
      split at rest
      · rename_i whole'
        rw [whole, whole']
      · cases rest
    · split at rest
      · cases rest
      · exact Numeral.pad_inj (List.append_cancel_right (List.cons.inj rest).2)
  omega

/-- A text determines its moment. -/
theorem isoformat_inj {a b : Int} (valid : representable a = true) (valid' : representable b = true)
    (same : isoformat a = isoformat b) : a = b := by
  unfold representable at valid valid'
  simp only [Bool.and_eq_true, decide_eq_true_eq] at valid valid'
  have texts := String.ofList_injective same
  unfold text at texts
  rcases Numeral.append_cons_inj (Numeral.not_mem_pad rfl) (Numeral.not_mem_pad rfl) texts with
    ⟨year, texts⟩
  rcases Numeral.append_cons_inj (Numeral.not_mem_pad rfl) (Numeral.not_mem_pad rfl) texts with
    ⟨month, texts⟩
  rcases Numeral.append_cons_inj (Numeral.not_mem_pad rfl) (Numeral.not_mem_pad rfl) texts with
    ⟨date, texts⟩
  rcases Numeral.append_cons_inj (Numeral.not_mem_pad rfl) (Numeral.not_mem_pad rfl) texts with
    ⟨hour, texts⟩
  have dates : ofOrdinal (ordinalOf a).toNat = ofOrdinal (ordinalOf b).toNat := by
    have each : ∀ d e : Date, d.year = e.year → d.month = e.month → d.day = e.day → d = e := by
      rintro ⟨_, _, _⟩ ⟨_, _, _⟩ rfl rfl rfl
      rfl
    exact each _ _ (Numeral.pad_inj year) (Numeral.pad_inj month) (Numeral.pad_inj date)
  have ordinals := congrArg ordinal dates
  rw [ordinal_ofOrdinal (by omega), ordinal_ofOrdinal (by omega)] at ordinals
  have hours := Numeral.pad_inj hour
  have clocks := clock_inj texts
  unfold ordinalOf day at *
  omega

end Calendar
