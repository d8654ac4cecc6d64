import Mathlib

/-!
# The Gregorian calendar

The days of the proleptic Gregorian calendar from the year 0 on, numbered one
after another, and the date of a day number.
-/

namespace Calendar

/-! ## Consecutive stretches -/

section Stretches

variable (length : Nat → Nat)

/-- The length of the first stretches together. -/
def before : Nat → Nat
  | 0 => 0
  | n + 1 => before n + length n

/-- The stretch that is reached from the start of another, and the place in it. -/
def walk : Nat → Nat → Nat → Nat × Nat
  | 0, index, rest => (index, rest)
  | fuel + 1, index, rest =>
      if rest < length index then (index, rest)
      else walk fuel (index + 1) (rest - length index)

variable {length}

theorem before_mono {i j : Nat} (h : i ≤ j) : before length i ≤ before length j := by
  induction h with
  | refl => exact Nat.le_refl _
  | step _ ih => exact ih.trans (Nat.le_add_right _ _)

/-- Places are ordered by their stretch first. -/
theorem before_add_lt_iff {i j r s : Nat} (hr : r < length i) (hs : s < length j) :
    before length i + r < before length j + s ↔ i < j ∨ i = j ∧ r < s := by
  rcases Nat.lt_trichotomy i j with hij | rfl | hji
  · have hnext : before length (i + 1) ≤ before length j := before_mono hij
    have hstep : before length (i + 1) = before length i + length i := rfl
    omega
  · omega
  · have hnext : before length (j + 1) ≤ before length i := before_mono hji
    have hstep : before length (j + 1) = before length j + length j := rfl
    omega

theorem before_walk (fuel index rest : Nat) :
    before length (walk length fuel index rest).1 + (walk length fuel index rest).2 =
      before length index + rest := by
  induction fuel generalizing index rest with
  | zero => rfl
  | succ fuel ih =>
      rw [walk]
      split_ifs with hrest
      · rfl
      · have hstep : before length (index + 1) = before length index + length index := rfl
        rw [ih]
        omega

theorem walk_snd_lt {fuel index rest : Nat}
    (h : before length index + rest < before length (index + fuel)) :
    (walk length fuel index rest).2 < length (walk length fuel index rest).1 := by
  induction fuel generalizing index rest with
  | zero => exact absurd h (Nat.not_lt.mpr (Nat.le_add_right _ _))
  | succ fuel ih =>
      rw [walk]
      split_ifs with hrest
      · exact hrest
      · have hstep : before length (index + 1) = before length index + length index := rfl
        have hindex : index + 1 + fuel = index + (fuel + 1) := by omega
        apply ih
        rw [hindex]
        omega

theorem walk_fst_lt {fuel index rest : Nat}
    (h : before length index + rest < before length (index + fuel)) :
    (walk length fuel index rest).1 < index + fuel := by
  by_contra hlarge
  have hmono : before length (index + fuel) ≤ before length (walk length fuel index rest).1 :=
    before_mono (Nat.le_of_not_lt hlarge)
  have hwalk : before length (walk length fuel index rest).1 + (walk length fuel index rest).2 =
      before length index + rest := before_walk fuel index rest
  omega

end Stretches

/-! ## Dates -/

def isLeap (year : Nat) : Bool :=
  year % 4 == 0 && (year % 100 != 0 || year % 400 == 0)

def daysInMonth (year : Nat) : Nat → Nat
  | 2 => if isLeap year then 29 else 28
  | 4 | 6 | 9 | 11 => 30
  | _ => 31

/-- A day of the calendar; months and days count from 1. -/
structure Date where
  year : Nat
  month : Nat
  day : Nat
  month_mem : 1 ≤ month ∧ month ≤ 12
  day_mem : 1 ≤ day ∧ day ≤ daysInMonth year month

def monthLength (year index : Nat) : Nat := daysInMonth year (index + 1)

def daysInYear (year : Nat) : Nat := before (monthLength year) 12

theorem daysInYear_eq (year : Nat) : daysInYear year = if isLeap year then 366 else 365 := by
  simp only [daysInYear, before, monthLength, daysInMonth]
  split_ifs <;> rfl

theorem le_before_daysInYear (year : Nat) : 365 * year ≤ before daysInYear year := by
  induction year with
  | zero => exact Nat.le_refl 0
  | succ year ih =>
      have hyear : 365 ≤ daysInYear year := by
        rw [daysInYear_eq]
        split_ifs <;> omega
      rw [before]
      omega

/-- The leap days before a year. -/
theorem before_daysInYear (year : Nat) :
    before daysInYear year + (year + 99) / 100 = 365 * year + (year + 3) / 4 + (year + 399) / 400 := by
  induction year with
  | zero => rfl
  | succ year ih =>
      rw [before, daysInYear_eq, isLeap]
      simp only [Bool.and_eq_true, Bool.or_eq_true, beq_iff_eq, bne_iff_ne]
      split_ifs <;> omega

namespace Date

variable (d e : Date)

/-- The days of the year before this one. -/
def dayOfYear : Nat := before (monthLength d.year) (d.month - 1) + (d.day - 1)

/-- The days since the first day of the year 0. -/
def dayNumber : Nat := before daysInYear d.year + d.dayOfYear

theorem day_lt_monthLength : d.day - 1 < monthLength d.year (d.month - 1) := by
  have hmonth := d.month_mem
  have hday := d.day_mem
  rw [monthLength, Nat.sub_add_cancel hmonth.1]
  omega

theorem dayOfYear_lt : d.dayOfYear < daysInYear d.year := by
  have hday := d.day_lt_monthLength
  have hmonth : before (monthLength d.year) (d.month - 1 + 1) ≤ daysInYear d.year := by
    apply before_mono
    have hmem := d.month_mem
    omega
  rw [before] at hmonth
  rw [dayOfYear]
  omega

/-- Days are numbered in the order of their dates. -/
theorem dayNumber_lt_iff :
    d.dayNumber < e.dayNumber ↔
      d.year < e.year ∨ d.year = e.year ∧ (d.month < e.month ∨ d.month = e.month ∧ d.day < e.day) := by
  have hd := d.month_mem
  have he := e.month_mem
  have hd' := d.day_mem
  have he' := e.day_mem
  rw [dayNumber, dayNumber, before_add_lt_iff d.dayOfYear_lt e.dayOfYear_lt]
  refine or_congr Iff.rfl (and_congr_right fun hyear ↦ ?_)
  have hday := e.day_lt_monthLength
  rw [← hyear] at hday
  rw [dayOfYear, dayOfYear, ← hyear, before_add_lt_iff d.day_lt_monthLength hday]
  omega

/-- The date of a day number. -/
def ofDayNumber (n : Nat) : Date :=
  let year := walk daysInYear (n / 365 + 1) 0 n
  let month := walk (monthLength year.1) 12 0 year.2
  have hyear : year.2 < daysInYear year.1 := by
    apply walk_snd_lt
    have hyears := le_before_daysInYear (0 + (n / 365 + 1))
    rw [before]
    omega
  have hmonth : before (monthLength year.1) 0 + year.2 < before (monthLength year.1) (0 + 12) := by
    rw [before, Nat.zero_add, Nat.zero_add]
    exact hyear
  { year := year.1
    month := month.1 + 1
    day := month.2 + 1
    month_mem := by
      have hindex : month.1 < 0 + 12 := walk_fst_lt hmonth
      omega
    day_mem := ⟨Nat.le_add_left _ _, walk_snd_lt hmonth⟩ }

theorem year_lt_of_dayNumber_lt {year : Nat} (h : d.dayNumber < before daysInYear year) :
    d.year < year := by
  by_contra hyear
  have hmono : before daysInYear year ≤ before daysInYear d.year := before_mono (Nat.le_of_not_lt hyear)
  rw [dayNumber] at h
  omega

theorem dayNumber_ofDayNumber (n : Nat) : (ofDayNumber n).dayNumber = n := by
  rw [dayNumber, dayOfYear, ofDayNumber]
  dsimp only
  rw [Nat.add_sub_cancel, Nat.add_sub_cancel, before_walk, before, Nat.zero_add, before_walk, before,
    Nat.zero_add]

end Date

end Calendar
