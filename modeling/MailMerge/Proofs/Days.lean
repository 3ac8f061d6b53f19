import MailMerge.Calendar.Reading

/-!
# Days, seconds and instants

The day with a number is a day of the calendar, and its number is that number again:
the year is the one that the number lies in, and the lengths of the months cover the
days of a year without a gap. An instant is thereby told by the fields that it is
written with, unless it lies in a leap second that ends no minute, and by the minute
that it lies in up to its seconds.

Main facts:

* `Date.valid_ofNumber`, `Date.number_ofNumber`: numbers of days and dates;
* `Instant.year_bounds`: the year of an instant is one of the calendar;
* `Instant.instant?_fields`: the fields of an instant stand for it, a leap second that
  ends no minute aside;
* `Instant.minuteText_eq_of_minute`: a minute shows alike at each of its instants.
-/

namespace MailMerge.Calendar

section Months

theorem locate_cons
    (length : Nat)
    (rest : List Nat)
    (n : Nat) :
    locate (length :: rest) n =
      if n < length then (0, n)
      else ((locate rest (n - length)).1 + 1, (locate rest (n - length)).2) :=
  rfl

/-- A day within the months lies in one of them, behind those before it. -/
theorem locate_spec
    {lengths : List Nat}
    {n : Nat}
    (h : n < lengths.foldr (· + ·) 0) :
    (locate lengths n).1 < lengths.length ∧
      (locate lengths n).2 < lengths.getD (locate lengths n).1 0 ∧
      (lengths.take (locate lengths n).1).foldr (· + ·) 0 + (locate lengths n).2 = n := by
  induction lengths generalizing n with
  | nil =>
      exact absurd h (Nat.not_lt_zero n)
  | cons length rest ih =>
      rw [locate_cons]
      split
      · next hn =>
        exact ⟨Nat.succ_pos _, hn, Nat.zero_add n⟩
      · next hn =>
        rw [List.foldr_cons] at h
        obtain ⟨hmonth, hday, hsum⟩ := ih (n := n - length) (by omega)
        refine ⟨Nat.succ_lt_succ hmonth, hday, ?_⟩
        rw [List.take_succ_cons, List.foldr_cons]
        omega

theorem sum_monthLengths
    (leap : Bool) :
    (monthLengths leap).foldr (· + ·) 0 = if leap then 366 else 365 := by
  cases leap <;> rfl

end Months

namespace Date

/-- The number of a day in its year, counted from zero, is one of the days of that year. -/
theorem dayOfYear_lt
    (n : Int) :
    (n - daysBeforeYear (yearOfDay n)).toNat <
      (monthLengths (isLeap (yearOfDay n))).foldr (· + ·) 0 := by
  obtain ⟨hfirst, hnext⟩ := yearOfDay_bounds n
  rw [daysBeforeYear_succ] at hnext
  rw [sum_monthLengths]
  split <;> simp_all <;> omega

theorem valid_ofNumber
    (n : Int) :
    (ofNumber n).valid = true := by
  obtain ⟨hmonth, hday, -⟩ := locate_spec (dayOfYear_lt n)
  simp only [valid, Bool.and_eq_true, decide_eq_true_eq]
  exact ⟨⟨⟨Nat.succ_pos _, hmonth⟩, Nat.succ_pos _⟩, hday⟩

/-- The month and the day of a date have at most two digits. -/
theorem lt_of_valid
    {d : Date}
    (h : d.valid = true) :
    d.month < 100 ∧ d.day < 100 := by
  simp only [valid, Bool.and_eq_true, decide_eq_true_eq] at h
  obtain ⟨⟨⟨-, hmonth⟩, -⟩, hday⟩ := h
  have hlength : ∀ (leap : Bool) (m : Nat), (monthLengths leap).getD m 0 ≤ 31 := by
    intro leap m
    rcases Nat.lt_or_ge m 12 with hm | hm
    · revert m
      cases leap <;> decide
    · rw [List.getD_eq_getElem?_getD, List.getElem?_eq_none hm]
      exact Nat.zero_le 31
  have hmonthLength := hlength (isLeap d.year) (d.month - 1)
  unfold monthLength at hday
  omega

theorem number_ofNumber
    (n : Int) :
    (ofNumber n).number = n := by
  obtain ⟨-, -, hsum⟩ := locate_spec (dayOfYear_lt n)
  have hfirst := (yearOfDay_bounds n).1
  simp only [number, ofNumber]
  rw [Nat.add_sub_cancel, Nat.add_sub_cancel, hsum]
  omega

end Date

theorem daysBeforeYear_mono
    {y z : Int}
    (h : y ≤ z) :
    daysBeforeYear y ≤ daysBeforeYear z := by
  unfold daysBeforeYear
  omega

/-- The days of some years are those whose year is one of them. -/
theorem yearOfDay_mem
    {first last n : Int}
    (hfirst : daysBeforeYear first ≤ n)
    (hlast : n < daysBeforeYear (last + 1)) :
    first ≤ yearOfDay n ∧ yearOfDay n ≤ last := by
  obtain ⟨hbegin, hend⟩ := yearOfDay_bounds n
  constructor
  · rcases Int.lt_or_le (yearOfDay n) first with h | h
    · have hmono := daysBeforeYear_mono (y := yearOfDay n + 1) (z := first) (by omega)
      omega
    · exact h
  · rcases Int.lt_or_le last (yearOfDay n) with h | h
    · have hmono := daysBeforeYear_mono (y := last + 1) (z := yearOfDay n) (by omega)
      omega
    · exact h

namespace Instant

variable {t u : Instant}

/-- The year of an instant is one of the calendar. -/
theorem year_bounds
    (t : Instant) :
    firstYear ≤ t.date.year ∧ t.date.year ≤ lastYear := by
  have hfirst := t.first_le
  have hlast := t.le_last
  unfold firstSecond at hfirst
  unfold lastSecond at hlast
  apply yearOfDay_mem
  · omega
  · omega

/-- A second that ends no minute is not the last one. -/
theorem succ_le_last
    (t : Instant)
    (h : t.second % 60 ≠ 59) :
    t.second + 1 ≤ lastSecond := by
  have hlast := t.le_last
  unfold lastSecond at *
  omega

theorem secondOfDay_lt
    (t : Instant) :
    t.secondOfDay < 86400 := by
  unfold secondOfDay
  omega

/-- The second of an instant is told by its day, its hour, its minute and its second. -/
theorem second_eq
    (t : Instant) :
    t.date.number * 86400
      + (t.hour * 3600 + t.minute * 60 + t.secondOfDay % 60 : Nat) = t.second := by
  unfold date hour minute
  rw [Date.number_ofNumber]
  unfold secondOfDay
  omega

/-- Whether an instant lies in a leap second that ends no minute. -/
def isStray (t : Instant) : Bool :=
  t.isLeapSecond && t.second % 60 ≠ 59

theorem isStray_iff
    (t : Instant) :
    t.isStray = true ↔ nanosPerSecond ≤ t.nano ∧ t.second % 60 ≠ 59 := by
  simp [isStray, isLeapSecond]

/-- The fields that an instant is written with. -/
def fields (t : Instant) : Fields :=
  ⟨t.date, t.hour, t.minute, t.writtenSecond, t.nano % nanosPerSecond⟩

/-- The instant that the fields of an instant stand for: in a leap second that ends no
minute it lies in the second that comes after. -/
def told (t : Instant) : Instant :=
  if h : t.isStray = true then
    { second := t.second + 1
      nano := t.nano % nanosPerSecond
      first_le := Int.le_add_one t.first_le
      le_last := t.succ_le_last (t.isStray_iff.1 h).2
      nano_lt := Nat.lt_of_lt_of_le (Nat.mod_lt _ (by decide)) (by decide) }
  else t

/-- Exactly in a leap second that ends no minute the fields stand for something else. -/
theorem told_eq_self_iff
    (t : Instant) :
    t.told = t ↔ t.isStray = false := by
  unfold told
  split
  · next h =>
    rw [h]
    refine iff_of_false ?_ (by simp)
    intro hsame
    have hsecond := congrArg second hsame
    dsimp only at hsecond
    omega
  · next h =>
    exact iff_of_true rfl (Bool.eq_false_iff.2 h)

theorem told_of_stray
    (h : t.isStray = true) :
    t.told.second = t.second + 1 ∧ t.told.nano = t.nano % nanosPerSecond := by
  unfold told
  rw [dif_pos h]
  exact ⟨rfl, rfl⟩

theorem writtenSecond_le
    (t : Instant) :
    t.writtenSecond ≤ 60 := by
  unfold writtenSecond
  split <;> omega

theorem fields_mem
    (t : Instant) :
    t.date.valid = true ∧ firstYear ≤ t.date.year ∧ t.date.year ≤ lastYear ∧
      t.hour < 24 ∧ t.minute < 60 ∧ t.writtenSecond ≤ 60 := by
  obtain ⟨hfirst, hlast⟩ := t.year_bounds
  have hday := t.secondOfDay_lt
  refine ⟨Date.valid_ofNumber _, hfirst, hlast, ?_, ?_, t.writtenSecond_le⟩
  · unfold hour
    omega
  · unfold minute
    omega

theorem writtenSecond_of_leap
    (h : nanosPerSecond ≤ t.nano) :
    t.writtenSecond = t.secondOfDay % 60 + 1 := by
  unfold writtenSecond isLeapSecond
  rw [if_pos (by simpa using h)]

theorem writtenSecond_of_not_leap
    (h : ¬nanosPerSecond ≤ t.nano) :
    t.writtenSecond = t.secondOfDay % 60 := by
  unfold writtenSecond isLeapSecond
  rw [if_neg (by simpa using h), Nat.add_zero]

theorem secondOfDay_mod
    (t : Instant) :
    ((t.secondOfDay % 60 : Nat) : Int) = t.second % 60 := by
  unfold secondOfDay
  omega

/-- The fields of an instant stand for it, in the leap second of a minute too. -/
theorem instant?_fields
    (t : Instant) :
    t.fields.instant? 0 = some t.told := by
  have hsum := t.second_eq
  have hminute := t.secondOfDay_mod
  have hnano := t.nano_lt
  unfold Fields.instant? fields
  dsimp only
  rw [if_pos t.fields_mem]
  by_cases hleap : nanosPerSecond ≤ t.nano
  · rw [writtenSecond_of_leap hleap]
    by_cases hend : t.second % 60 = 59
    · -- the second before the leap second is the last one of its minute
      have hself : t.told = t := t.told_eq_self_iff.2 (by simp [isStray, hend])
      have hparts : t.nano % nanosPerSecond + nanosPerSecond = t.nano := by
        unfold nanosPerSecond at *
        omega
      have hlast : t.secondOfDay % 60 = 59 := by omega
      rw [hlast] at hsum ⊢
      rw [if_pos rfl, hparts, hsum, Int.sub_zero, hself, make?_eq_some]
    · -- the leap second is counted as the second that comes after it
      obtain ⟨hsecond, hpart⟩ := told_of_stray (t.isStray_iff.2 ⟨hleap, hend⟩)
      have hnext : t.date.number * 86400
          + (t.hour * 3600 + t.minute * 60 + (t.secondOfDay % 60 + 1) : Nat) = t.second + 1 := by
        rw [← hsum]
        omega
      rw [if_neg (by omega), hnext, Int.sub_zero, ← hsecond, ← hpart, make?_eq_some]
  · have hself : t.told = t := t.told_eq_self_iff.2 (by simp [isStray, isLeapSecond, hleap])
    have hparts : t.nano % nanosPerSecond = t.nano := Nat.mod_eq_of_lt (by omega)
    rw [writtenSecond_of_not_leap hleap, if_neg (by omega), hparts, hsum, Int.sub_zero, hself,
      make?_eq_some]

/-- The second half of the leap second at the end of 2016. -/
def yearsEnd : Instant where
  second := 1483228799
  nano := 1500000000
  first_le := by decide
  le_last := by decide
  nano_lt := by decide

/-- The second half of a leap second after the second 30 of a minute in May 2024. -/
def strayLeap : Instant where
  second := 1715936730
  nano := 1500000000
  first_le := by decide
  le_last := by decide
  nano_lt := by decide

/-- The beginning of the minute that an instant lies in. -/
def minuteStart (t : Instant) : Instant where
  second := t.second - t.second % 60
  nano := 0
  first_le := by
    have hfirst := t.first_le
    unfold firstSecond at *
    omega
  le_last := by
    have hlast := t.le_last
    omega
  nano_lt := by decide

/-- Without its seconds an instant is the beginning of its minute. -/
theorem instant?_minute
    (t : Instant) :
    (⟨t.date, t.hour, t.minute, 0, 0⟩ : Fields).instant? 0 = some t.minuteStart := by
  have hsum : t.date.number * 86400 + (t.hour * 3600 + t.minute * 60 : Nat) =
      t.second - t.second % 60 := by
    rw [← t.secondOfDay_mod, ← t.second_eq]
    omega
  obtain ⟨hvalid, hfirst, hlast, hhour, hminute, -⟩ := t.fields_mem
  unfold Fields.instant?
  dsimp only
  rw [if_pos ⟨hvalid, hfirst, hlast, hhour, hminute, Nat.zero_le 60⟩, if_neg (by decide),
    Nat.add_zero, hsum, Int.sub_zero]
  exact make?_eq_some t.minuteStart

/-- The beginning of a minute shows as that minute. -/
theorem minuteText_minuteStart
    (t : Instant) :
    t.minuteStart.minuteText = t.minuteText := by
  have hdate : t.minuteStart.date = t.date := by
    unfold date minuteStart
    congr 1
    dsimp only
    omega
  have hhour : t.minuteStart.hour = t.hour := by
    unfold hour secondOfDay minuteStart
    dsimp only
    omega
  have hminute : t.minuteStart.minute = t.minute := by
    unfold minute secondOfDay minuteStart
    dsimp only
    omega
  unfold minuteText
  rw [hdate, hhour, hminute]

/-- Instants of one minute show alike. -/
theorem minuteText_eq_of_minute
    (h : t.second / 60 = u.second / 60) :
    t.minuteText = u.minuteText := by
  have hstart : t.minuteStart = u.minuteStart := by
    unfold minuteStart
    congr 1
    omega
  rw [← t.minuteText_minuteStart, ← u.minuteText_minuteStart, hstart]

end Instant

end MailMerge.Calendar
