import MailMerge.Filling.FieldPath
import MailMerge.Proofs.Stamps

/-!
# Dates in letters read back

A letter shows a date some hours ahead of universal time as a minute. Any number of
hours may be asked for: the sum is computed in machine words that are wide enough for
all of them, and it is a date when it lies in the calendar. The text of the minute is
then itself a typed date, the beginning of that minute, and shows as itself.

A date may also come as the text that a field shows for it. It shows alike in a letter
as long as its year has four digits. This holds in leap seconds as well: where the text
tells the second after a leap second, both lie in one minute, and so do their shifts.

Main facts:

* `Calendar.Instant.shiftInWords?_eq`: the sum in machine words does not overflow;
* `Calendar.Instant.shift_eq_some_iff`: which instant a shift leads to;
* `Calendar.Instant.map_minuteText_shift_told`: a shift of what the fields of an instant
  stand for shows alike;
* `Filling.formatDate_of_hours`: what a date shows as, and what that text says when it
  is read;
* `Filling.formatDate_display`: what the text of a date shows as.
-/

namespace MailMerge

namespace Calendar

/-- A number in a machine word of some bits with a sign; none when it does not fit. -/
def word? (bits : Nat) (n : Int) : Option Int :=
  if -2 ^ (bits - 1) ≤ n ∧ n < 2 ^ (bits - 1) then some n else none

theorem word?_eq_some
    {bits : Nat}
    {n : Int}
    (hleast : -2 ^ (bits - 1) ≤ n)
    (hmost : n < 2 ^ (bits - 1)) :
    word? bits n = some n :=
  if_pos ⟨hleast, hmost⟩

namespace Instant

/-- The instant some hours later, computed in machine words: the hours in seconds, as
a span that counts milliseconds, the sum within the day, the days that it carries over,
the day and its second. No result at all when one of them does not fit its word.

Dates are shifted by a library of dates that is no part of this development. The steps
and the widths of their words are set down here as that library documents them. -/
def shiftInWords? (t : Instant) (hours : Int32) : Option (Option Instant) := do
  let span ← word? 64 (hours.toInt * 3600)
  let _ ← word? 64 (span * 1000)
  let sum ← word? 64 (t.secondOfDay + span)
  let days ← word? 32 (sum / 86400)
  let day ← word? 32 (t.second / 86400 + days)
  let second ← word? 64 (day * 86400 + sum % 86400)
  return make? second t.nano

/-- Outside of leap seconds a shift adds the hours to the second. -/
theorem shift_of_not_leap
    {t : Instant}
    (h : t.isLeapSecond = false)
    (hours : Int) :
    t.shift hours = make? (t.second + hours * 3600) t.nano := by
  have hnano : t.nano % nanosPerSecond = t.nano :=
    Nat.mod_eq_of_lt (by simpa [isLeapSecond] using h)
  unfold shift
  split
  · next hzero =>
    rw [hzero, Int.zero_mul, Int.add_zero, make?_eq_some]
  · simp [h, hnano]

/-- No shift by hours in 32 bits overflows a machine word on the way. -/
theorem shiftInWords?_eq
    {t : Instant}
    (h : t.isLeapSecond = false)
    (hours : Int32) :
    t.shiftInWords? hours = some (t.shift hours.toInt) := by
  have hleast := hours.le_toInt
  have hmost := hours.toInt_lt
  have hday := t.secondOfDay_lt
  have hfirst : -8334601228800 ≤ t.second := t.first_le
  have hlast : t.second ≤ 8210266876799 := t.le_last
  have hsecond : (t.second / 86400 + (t.secondOfDay + hours.toInt * 3600) / 86400) * 86400 +
      (t.secondOfDay + hours.toInt * 3600) % 86400 = t.second + hours.toInt * 3600 := by
    unfold secondOfDay
    omega
  have hspan : word? 64 (hours.toInt * 3600) = some (hours.toInt * 3600) :=
    word?_eq_some (by omega) (by omega)
  have hmillis : word? 64 (hours.toInt * 3600 * 1000) = some (hours.toInt * 3600 * 1000) :=
    word?_eq_some (by omega) (by omega)
  have hsum : word? 64 (t.secondOfDay + hours.toInt * 3600) =
      some (t.secondOfDay + hours.toInt * 3600) :=
    word?_eq_some (by omega) (by omega)
  have hdays : word? 32 ((t.secondOfDay + hours.toInt * 3600) / 86400) =
      some ((t.secondOfDay + hours.toInt * 3600) / 86400) :=
    word?_eq_some (by omega) (by omega)
  have hnumber :
      word? 32 (t.second / 86400 + (t.secondOfDay + hours.toInt * 3600) / 86400) =
        some (t.second / 86400 + (t.secondOfDay + hours.toInt * 3600) / 86400) :=
    word?_eq_some (by omega) (by omega)
  have hresult : word? 64 (t.second + hours.toInt * 3600) =
      some (t.second + hours.toInt * 3600) :=
    word?_eq_some (by omega) (by omega)
  unfold shiftInWords?
  simp only [hspan, hmillis, hsum, hdays, hnumber, hsecond, hresult, Option.bind_eq_bind,
    Option.bind_some, Option.pure_def, shift_of_not_leap h]

/-- A shift leads to the instant that lies so many hours away, and to none outside of
the calendar. -/
theorem shift_eq_some_iff
    {t u : Instant}
    (h : t.isLeapSecond = false)
    {hours : Int} :
    t.shift hours = some u ↔ u.second = t.second + hours * 3600 ∧ u.nano = t.nano := by
  rw [shift_of_not_leap h]
  constructor
  · intro hmake
    unfold make? at hmake
    split at hmake
    · rw [← Option.some.inj hmake]
      exact ⟨rfl, rfl⟩
    · exact absurd hmake (by simp)
  · rintro ⟨hsecond, hnano⟩
    rw [← hsecond, ← hnano, make?_eq_some]

/-- A shift that stays in the calendar leads to an instant. -/
theorem exists_shift
    {t : Instant}
    (h : t.isLeapSecond = false)
    {hours : Int}
    (hfirst : firstSecond ≤ t.second + hours * 3600)
    (hlast : t.second + hours * 3600 ≤ lastSecond) :
    ∃ u, t.shift hours = some u := by
  rw [shift_of_not_leap h]
  unfold make?
  rw [dif_pos ⟨hfirst, hlast, t.nano_lt⟩]
  exact ⟨_, rfl⟩

/-- A shift that leaves the calendar leads nowhere. -/
theorem shift_eq_none
    {t : Instant}
    (h : t.isLeapSecond = false)
    {hours : Int}
    (hrange : ¬(firstSecond ≤ t.second + hours * 3600 ∧
      t.second + hours * 3600 ≤ lastSecond)) :
    t.shift hours = none := by
  rw [Option.eq_none_iff_forall_ne_some]
  intro u hu
  obtain ⟨hsecond, -⟩ := (shift_eq_some_iff h).1 hu
  exact hrange ⟨hsecond ▸ u.first_le, hsecond ▸ u.le_last⟩

/-- Seconds of one minute are instants that show alike, or none of them is one. -/
theorem map_minuteText_make?
    {a b : Int}
    (h : a / 60 = b / 60)
    (nano : Nat) :
    (make? a nano).map minuteText = (make? b nano).map minuteText := by
  have hfirst : firstSecond = -8334601228800 := rfl
  have hlast : lastSecond = 8210266876799 := rfl
  unfold make?
  by_cases ha : firstSecond ≤ a ∧ a ≤ lastSecond ∧ nano < 2 * nanosPerSecond
  · have hb : firstSecond ≤ b ∧ b ≤ lastSecond ∧ nano < 2 * nanosPerSecond :=
      ⟨by omega, by omega, ha.2.2⟩
    rw [dif_pos ha, dif_pos hb]
    exact congrArg some (minuteText_eq_of_minute h)
  · have hb : ¬(firstSecond ≤ b ∧ b ≤ lastSecond ∧ nano < 2 * nanosPerSecond) := by
      rintro ⟨hbegin, hend, hnano⟩
      exact ha ⟨by omega, by omega, hnano⟩
    rw [dif_neg ha, dif_neg hb]

/-- However it is shifted, an instant shows like the one that its fields stand for. In a
leap second that ends no minute these are two seconds of one minute. -/
theorem map_minuteText_shift_told
    (t : Instant)
    (hours : Int) :
    (t.told.shift hours).map minuteText = (t.shift hours).map minuteText := by
  rcases hstray : t.isStray with _ | _
  · rw [t.told_eq_self_iff.2 hstray]
  · obtain ⟨hsecond, hnano⟩ := told_of_stray hstray
    obtain ⟨-, hend⟩ := t.isStray_iff.1 hstray
    by_cases hzero : hours = 0
    · rw [hzero, shift_zero, shift_zero]
      exact congrArg some (minuteText_eq_of_minute (by omega))
    · have htold : t.told.isLeapSecond = false := by
        have hpart : t.nano % nanosPerSecond < nanosPerSecond := Nat.mod_lt _ (by decide)
        simp [isLeapSecond, hnano, hpart]
      rw [shift_of_not_leap htold, hsecond, hnano]
      unfold shift
      rw [if_neg hzero]
      -- forward from the leap second or back from its end
      exact map_minuteText_make? (by split <;> omega) _

/-- A whole number of hours away lies the same part of a minute. -/
theorem minuteStart_second_of_shift
    {t u : Instant}
    (h : t.isLeapSecond = false)
    {hours : Int}
    (hu : t.shift hours = some u) :
    u.minuteStart.second =
      t.second + hours * 3600 - (t.second + hours * 3600) % 60 := by
  rw [← ((shift_eq_some_iff h).1 hu).1]
  rfl

end Instant

end Calendar

open Calendar

namespace Filling

section Shown

variable {v : Value} {t u : Instant} {hours : Int}

/-- What a date shows is settled by the minute that it is shifted into. -/
theorem formatDate_of_instant
    (ht : instantOf? v = some t) :
    formatDate v hours = ((t.shift hours).map Instant.minuteText).getD [] := by
  unfold formatDate
  rw [ht, Option.bind_some]
  cases t.shift hours <;> rfl

theorem formatDate_of_shift
    (ht : instantOf? v = some t)
    (hu : t.shift hours = some u) :
    formatDate v hours = u.minuteText := by
  rw [formatDate_of_instant ht, hu]
  rfl

theorem formatDate_of_no_shift
    (ht : instantOf? v = some t)
    (hu : t.shift hours = none) :
    formatDate v hours = [] := by
  rw [formatDate_of_instant ht, hu]
  rfl

/-- The text of a minute is a date that shows as itself. -/
theorem formatDate_minuteText
    (t : Instant) :
    formatDate (.text t.minuteText) 0 = t.minuteText := by
  have hread : instantOf? (.text t.minuteText) = some t.minuteStart :=
    Instant.ofTyped?_minuteText t
  rw [formatDate_of_shift hread (Instant.shift_zero _), Instant.minuteText_minuteStart]

end Shown

/-- A date outside of leap seconds, shown some hours ahead of universal time. The sum does
not overflow. In the calendar it shows as a text that is read as the sum without its
seconds and their parts, and that shows as itself; outside of the calendar nothing is
shown. -/
theorem formatDate_of_hours
    (t : Instant)
    (hours : Int32)
    (hleap : t.isLeapSecond = false) :
    t.shiftInWords? hours = some (t.shift hours.toInt) ∧
      (firstSecond ≤ t.second + hours.toInt * 3600 ∧
          t.second + hours.toInt * 3600 ≤ lastSecond →
        ∃ u : Instant,
          u.second = t.second + hours.toInt * 3600 - (t.second + hours.toInt * 3600) % 60 ∧
          u.nano = 0 ∧
          formatDate (.dateTime t) hours.toInt = u.minuteText ∧
          Instant.ofTyped? (formatDate (.dateTime t) hours.toInt) = some u ∧
          formatDate (.text (formatDate (.dateTime t) hours.toInt)) 0 =
            formatDate (.dateTime t) hours.toInt) ∧
      (¬(firstSecond ≤ t.second + hours.toInt * 3600 ∧
          t.second + hours.toInt * 3600 ≤ lastSecond) →
        formatDate (.dateTime t) hours.toInt = []) := by
  refine ⟨Instant.shiftInWords?_eq hleap hours, ?_, ?_⟩
  · rintro ⟨hfirst, hlast⟩
    obtain ⟨u, hu⟩ := Instant.exists_shift hleap hfirst hlast
    have hshown : formatDate (.dateTime t) hours.toInt = u.minuteText :=
      formatDate_of_shift rfl hu
    refine ⟨u.minuteStart, Instant.minuteStart_second_of_shift hleap hu, rfl, ?_, ?_, ?_⟩
    · rw [hshown, u.minuteText_minuteStart]
    · rw [hshown, Instant.ofTyped?_minuteText]
    · rw [hshown, formatDate_minuteText]
  · intro hrange
    exact formatDate_of_no_shift rfl (Instant.shift_eq_none hleap hrange)

/-- The evening of a 29th of February. -/
def leapDayEvening : Instant where
  second := 1709250312
  nano := 250000000
  first_le := by decide
  le_last := by decide
  nano_lt := by decide

/-- An hour later it is March. -/
theorem formatDate_leapDayEvening :
    leapDayEvening.isLeapSecond = false ∧
      ∃ u : Instant, u.second = 1709253900 ∧
        formatDate (.dateTime leapDayEvening) 1 = "01.03.2024 00:45".toList ∧
        Instant.ofTyped? (formatDate (.dateTime leapDayEvening) 1) = some u := by
  obtain ⟨u, hsecond, -, -, hread, -⟩ :=
    (formatDate_of_hours leapDayEvening 1 rfl).2.1 ⟨by decide, by decide⟩
  exact ⟨rfl, u, hsecond.trans (by decide), rfl, hread⟩

/-- The text that a field shows for a date is shown in a letter as the date itself when its
year has four digits, with any part of a second, in leap seconds too, and however many
hours ahead. With any other year the text is no date, and nothing is shown. -/
theorem formatDate_display
    (t : Instant)
    (hours : Int32) :
    formatDate (.text (Value.dateTime t).display) hours.toInt =
      if 0 ≤ t.date.year ∧ t.date.year ≤ 9999 then formatDate (.dateTime t) hours.toInt
      else [] := by
  have hread : instantOf? (.text (Value.dateTime t).display) =
      if 0 ≤ t.date.year ∧ t.date.year ≤ 9999 then some t.told else none :=
    t.ofTyped?_offsetStamp
  split
  · next h =>
    rw [if_pos h] at hread
    rw [formatDate_of_instant hread, formatDate_of_instant (t := t) rfl,
      t.map_minuteText_shift_told]
  · next h =>
    rw [if_neg h] at hread
    exact formatDate_of_not_date hread hours.toInt

/-- Back from a leap second the hours are counted from its end, forward from its beginning.
The leap second after the second 30 is written as the second 31. -/
theorem formatDate_display_leapSeconds :
    formatDate (.text (Value.dateTime Instant.yearsEnd).display) (-1) =
        "31.12.2016 23:00".toList ∧
      formatDate (.text (Value.dateTime Instant.yearsEnd).display) 1 =
        "01.01.2017 00:59".toList ∧
      (Value.dateTime Instant.strayLeap).display = "2024-05-17T09:05:31.500+00:00".toList ∧
      formatDate (.text (Value.dateTime Instant.strayLeap).display) (-1) =
        "17.05.2024 08:05".toList := by
  have hback := formatDate_display Instant.yearsEnd (-1)
  have hforward := formatDate_display Instant.yearsEnd 1
  have hstray := formatDate_display Instant.strayLeap (-1)
  rw [if_pos (by decide +kernel)] at hback hforward hstray
  exact ⟨hback.trans (by decide +kernel), hforward.trans (by decide +kernel), by decide +kernel,
    hstray.trans (by decide +kernel)⟩

end Filling

end MailMerge
