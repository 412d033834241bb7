import Mathlib.Order.Monotone.Basic
import Mathlib.Algebra.Order.Group.Int
import Mathlib.Order.ConditionallyCompleteLattice.Basic
import Mathlib.Data.Int.ConditionallyCompleteOrder

/-!
# Days, months and years

Days are numbered from 1 January 1970 and months from January of year 0, so a
day, a month and a step between two of them are integers.  `monthStart` is the
first day of a month and `monthOf` the month of a day (`monthOf_eq_iff`);
`addDate` moves a day by years, months and days, where a day that the month
reached does not have runs over into the next.
-/

namespace CallsPlugin.Verified.Calendar

/-! ## Years -/

/-- Whether a year has 366 days. -/
def Leap (y : Int) : Prop := y % 4 = 0 ∧ (y % 100 ≠ 0 ∨ y % 400 = 0)

instance (y : Int) : Decidable (Leap y) := by unfold Leap; infer_instance

/-- The days of a year. -/
def yearLength (y : Int) : Int := if Leap y then 366 else 365

/-- The first of January of a year. -/
def yearStart (y : Int) : Int :=
  365 * (y - 1) + (y - 1) / 4 - (y - 1) / 100 + (y - 1) / 400 - 719162

theorem yearStart_succ (y : Int) : yearStart (y + 1) = yearStart y + yearLength y := by
  unfold yearStart yearLength
  split
  next h =>
    unfold Leap at h
    omega
  next h =>
    unfold Leap at h
    omega

/-- The year of a day: the quotient by the mean year is at most one off. -/
def yearOf (d : Int) : Int :=
  let y := 400 * (d + 719162) / 146097 + 1
  if d < yearStart y then y - 1
  else if yearStart (y + 1) ≤ d then y + 1
  else y

theorem yearOf_spec (d : Int) :
    yearStart (yearOf d) ≤ d ∧ d < yearStart (yearOf d + 1) := by
  unfold yearOf yearStart
  dsimp only
  split
  next h => constructor <;> omega
  next h =>
    split
    next h' => constructor <;> omega
    next h' => constructor <;> omega

/-! ## Months -/

/-- The days of a year before its month `m`, counted from 0; month 12 is the next
January. -/
def daysBefore (y m : Int) : Int :=
  (367 * m + 5) / 12 - (if m ≤ 1 then 0 else if Leap y then 1 else 2)

/-- The month that the day `n` of a year lies in. -/
def monthIn (y n : Int) : Int :=
  (12 * (n + (if n < daysBefore y 2 then 0 else if Leap y then 1 else 2)) + 373) / 367 -
    1

theorem daysBefore_year (y : Int) : daysBefore y 12 = yearLength y := by
  unfold daysBefore yearLength
  by_cases hl : Leap y
  · simp [hl]
  · simp [hl]

example : (List.range 13).map (fun m : Nat => daysBefore 2023 m) =
    [0, 31, 59, 90, 120, 151, 181, 212, 243, 273, 304, 334, 365] := by decide

theorem monthIn_spec {y n : Int} (h0 : 0 ≤ n) (hn : n < yearLength y) :
    0 ≤ monthIn y n ∧ monthIn y n ≤ 11 ∧ daysBefore y (monthIn y n) ≤ n ∧
      n < daysBefore y (monthIn y n + 1) := by
  unfold yearLength at hn
  unfold monthIn daysBefore
  by_cases hl : Leap y
  · simp only [hl, if_true] at hn ⊢
    refine ⟨?_, ?_, ?_, ?_⟩ <;> split <;> omega
  · simp only [hl, if_false] at hn ⊢
    refine ⟨?_, ?_, ?_, ?_⟩ <;> split <;> omega

/-- The first day of a month. -/
def monthStart (k : Int) : Int := yearStart (k / 12) + daysBefore (k / 12) (k % 12)

/-- The month of a day. -/
def monthOf (d : Int) : Int :=
  12 * yearOf d + monthIn (yearOf d) (d - yearStart (yearOf d))

/-- A month's first day, with December followed by the next January. -/
theorem monthStart_of_year {y m : Int} (h0 : 0 ≤ m) (h12 : m ≤ 12) :
    monthStart (12 * y + m) = yearStart y + daysBefore y m := by
  by_cases h : m = 12
  · subst h
    have hdiv : (12 * y + 12) / 12 = y + 1 := by omega
    have hmod : (12 * y + 12) % 12 = 0 := by omega
    have hzero : daysBefore (y + 1) 0 = 0 := by simp [daysBefore]
    rw [monthStart, hdiv, hmod, yearStart_succ, daysBefore_year, hzero, add_zero]
  · have hdiv : (12 * y + m) / 12 = y := by omega
    have hmod : (12 * y + m) % 12 = m := by omega
    rw [monthStart, hdiv, hmod]

/-- A day lies in its month. -/
theorem monthOf_spec (d : Int) :
    monthStart (monthOf d) ≤ d ∧ d < monthStart (monthOf d + 1) := by
  have hy := yearOf_spec d
  have hlen := yearStart_succ (yearOf d)
  obtain ⟨h0, h11, hle, hlt⟩ :=
    monthIn_spec (y := yearOf d) (n := d - yearStart (yearOf d)) (by omega) (by omega)
  have hstart := monthStart_of_year (y := yearOf d) h0 (by omega)
  have hnext := monthStart_of_year (y := yearOf d)
    (m := monthIn (yearOf d) (d - yearStart (yearOf d)) + 1) (by omega) (by omega)
  unfold monthOf
  rw [add_assoc, hnext, hstart]
  constructor <;> omega

/-- A month has 28 to 31 days. -/
theorem monthStart_succ (k : Int) :
    monthStart k + 28 ≤ monthStart (k + 1) ∧
    monthStart (k + 1) ≤ monthStart k + 31 := by
  have hk : k = 12 * (k / 12) + k % 12 := by omega
  have hm0 : 0 ≤ k % 12 := by omega
  have hm : k % 12 < 12 := by omega
  generalize k / 12 = y at hk
  generalize k % 12 = m at hk hm0 hm
  subst hk
  rw [add_assoc, monthStart_of_year hm0 (by omega),
    monthStart_of_year (by omega) (by omega)]
  unfold daysBefore
  by_cases hl : Leap y
  · simp only [hl, if_true]
    constructor <;> split <;> split <;> omega
  · simp only [hl, if_false]
    constructor <;> split <;> split <;> omega

theorem monthStart_strictMono : StrictMono monthStart :=
  strictMono_int_of_lt_succ fun k => by have := monthStart_succ k; omega

/-- The months are the intervals between their first days. -/
theorem monthOf_eq_iff {d k : Int} :
    monthOf d = k ↔ monthStart k ≤ d ∧ d < monthStart (k + 1) := by
  constructor
  · intro h
    exact h ▸ monthOf_spec d
  · intro h
    obtain ⟨hle, hlt⟩ := monthOf_spec d
    have h1 := monthStart_strictMono.lt_iff_lt.1 (hle.trans_lt h.2)
    have h2 := monthStart_strictMono.lt_iff_lt.1 (h.1.trans_lt hlt)
    omega

@[simp] theorem monthOf_monthStart (k : Int) : monthOf (monthStart k) = k := by
  have h := monthStart_succ k
  exact monthOf_eq_iff.2 ⟨le_refl _, by omega⟩

theorem monthOf_mono : Monotone monthOf := by
  intro d e h
  have h1 := (monthOf_spec d).1
  have h2 := (monthOf_spec e).2
  have := monthStart_strictMono.lt_iff_lt.1 ((h1.trans h).trans_lt h2)
  omega

/-! ## Moving a day -/

/-- The day of the month that a day is, counted from 0. -/
def dayOfMonth (d : Int) : Int := d - monthStart (monthOf d)

/-- The day some years, months and days on; what exceeds the month reached runs over. -/
def addDate (d years months days : Int) : Int :=
  monthStart (monthOf d + 12 * years + months) + dayOfMonth d + days

@[simp] theorem addDate_days (d n : Int) : addDate d 0 0 n = d + n := by
  unfold addDate dayOfMonth
  simp

@[simp] theorem addDate_monthStart (k n : Int) :
    addDate (monthStart k) 0 n 0 = monthStart (k + n) := by
  unfold addDate dayOfMonth
  simp

/-- A step by months reaches the month meant or, from a day that month does not have,
the next. -/
theorem monthOf_addDate_months (d n : Int) :
    monthOf d + n ≤ monthOf (addDate d 0 n 0) ∧
    monthOf (addDate d 0 n 0) ≤ monthOf d + n + 1 := by
  have hk : monthOf d + 12 * 0 + n = monthOf d + n := by omega
  have hd := monthOf_spec d
  have hlen := monthStart_succ (monthOf d)
  have h1 := monthStart_succ (monthOf d + n)
  have h2 := monthStart_succ (monthOf d + n + 1)
  have hday : addDate d 0 n 0 = monthStart (monthOf d + n) +
      (d - monthStart (monthOf d)) := by
    unfold addDate dayOfMonth
    rw [hk, add_zero]
  have hlo := monthOf_mono (show monthStart (monthOf d + n) ≤ addDate d 0 n 0 by omega)
  obtain ⟨hle, _⟩ := monthOf_spec (addDate d 0 n 0)
  have hhi := monthStart_strictMono.lt_iff_lt.1
    (show monthStart (monthOf (addDate d 0 n 0)) <
      monthStart (monthOf d + n + 1 + 1) by omega)
  rw [monthOf_monthStart] at hlo
  constructor <;> omega

end CallsPlugin.Verified.Calendar
