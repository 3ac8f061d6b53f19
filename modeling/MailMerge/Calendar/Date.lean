/-!
# Days of the Gregorian calendar

A day is a year, a month and a day of the month, or its number counted from
the first of January 1970. Years are those of the proleptic Gregorian
calendar, with a year zero.

Main facts:

* `daysBeforeYear_succ`: a year has 365 days, or 366 when it is a leap year;
* `yearOfDay_bounds`: the year of a day begins no later than that day, and the
  next year begins after it.
-/

namespace MailMerge.Calendar

/-- Whether a year has a 29th of February. -/
def isLeap (y : Int) : Bool :=
  y % 4 = 0 && (y % 100 ≠ 0 || y % 400 = 0)

/-- The number of days from the first of January 1970 to the first day of a year. -/
def daysBeforeYear (y : Int) : Int :=
  365 * y + (y + 3) / 4 - (y + 99) / 100 + (y + 399) / 400 - 719528

/-- The year that a day belongs to. -/
def yearOfDay (n : Int) : Int :=
  let guess := (n + 719528) * 400 / 146097
  if n < daysBeforeYear guess then guess - 1
  else if n < daysBeforeYear (guess + 1) then guess
  else guess + 1

/-- The lengths of the months of a common or a leap year. -/
def monthLengths (leap : Bool) : List Nat :=
  [31, if leap then 29 else 28, 31, 30, 31, 30, 31, 31, 30, 31, 30, 31]

/-- The month and the day of the month of the day with a number in its year, both
counted from zero. -/
def locate : List Nat → Nat → Nat × Nat
  | [], n => (0, n)
  | len :: rest, n =>
    if n < len then (0, n)
    else
      let (m, d) := locate rest (n - len)
      (m + 1, d)

/-- A day of the calendar. -/
structure Date where
  year : Int
  month : Nat
  day : Nat
deriving DecidableEq, Repr

namespace Date

/-- The number of days in the month of a date. -/
def monthLength (d : Date) : Nat :=
  (monthLengths (isLeap d.year)).getD (d.month - 1) 0

/-- Whether there is such a day. -/
def valid (d : Date) : Bool :=
  1 ≤ d.month && d.month ≤ 12 && 1 ≤ d.day && d.day ≤ d.monthLength

/-- The number of a day, counted from the first of January 1970. -/
def number (d : Date) : Int :=
  daysBeforeYear d.year
    + (((monthLengths (isLeap d.year)).take (d.month - 1)).foldr (· + ·) 0 + (d.day - 1) : Nat)

/-- The day with a number. -/
def ofNumber (n : Int) : Date :=
  let y := yearOfDay n
  let (m, d) := locate (monthLengths (isLeap y)) (n - daysBeforeYear y).toNat
  ⟨y, m + 1, d + 1⟩

end Date

theorem daysBeforeYear_succ (y : Int) :
    daysBeforeYear (y + 1) = daysBeforeYear y + if isLeap y then 366 else 365 := by
  by_cases h : isLeap y = true
  · simp only [h, if_true]
    simp only [isLeap, Bool.and_eq_true, decide_eq_true_eq, Bool.or_eq_true] at h
    unfold daysBeforeYear
    omega
  · simp only [h, if_false, Bool.false_eq_true]
    simp only [isLeap, Bool.and_eq_true, decide_eq_true_eq, Bool.or_eq_true] at h
    unfold daysBeforeYear
    omega

theorem yearOfDay_bounds (n : Int) :
    daysBeforeYear (yearOfDay n) ≤ n ∧ n < daysBeforeYear (yearOfDay n + 1) := by
  generalize hg : (n + 719528) * 400 / 146097 = guess
  have hy : yearOfDay n = if n < daysBeforeYear guess then guess - 1
      else if n < daysBeforeYear (guess + 1) then guess else guess + 1 := by
    rw [← hg]
    rfl
  rw [hy]
  split
  · next h =>
    refine ⟨?_, by simpa using h⟩
    unfold daysBeforeYear
    omega
  · next h =>
    split
    · next h' => exact ⟨by omega, h'⟩
    · next h' =>
      refine ⟨by omega, ?_⟩
      unfold daysBeforeYear
      omega

end MailMerge.Calendar
