import MailMerge.Calendar.Date
import MailMerge.Text.Basic

/-!
# Instants of universal time

An instant is a second since the beginning of 1970 and a part of that second
in nanoseconds. A leap second belongs to the second before it: it is the part
from one thousand million nanoseconds on. The leap seconds of universal time come
at the end of a minute and are written as its 60th second. Any other second may
have one as well, as it had in zones that were a part of a minute ahead; such a
leap second is written like the second that comes after it. Years run from -262143
to 262142.

An instant is written as a stamp (`2024-05-17T09:05:00Z`) or as the minute that
a reader of a letter sees (`17.05.2024 09:05`).

Main facts:

* `make?_eq_some`: the instant of a second that is in range;
* `shift_zero`: a shift by no hours changes nothing, a leap second included.
-/

namespace MailMerge.Calendar

/-- The first year. -/
def firstYear : Int := -262143

/-- The last year. -/
def lastYear : Int := 262142

/-- The first second of the first year. -/
def firstSecond : Int := daysBeforeYear firstYear * 86400

/-- The last second of the last year. -/
def lastSecond : Int := daysBeforeYear (lastYear + 1) * 86400 - 1

/-- The nanoseconds of a second. -/
def nanosPerSecond : Nat := 1000000000

/-- An instant of universal time. -/
structure Instant where
  second : Int
  nano : Nat
  first_le : firstSecond ≤ second
  le_last : second ≤ lastSecond
  nano_lt : nano < 2 * nanosPerSecond
deriving DecidableEq

namespace Instant

/-- The instant with a second and a part of it; none outside of the range. -/
def make? (second : Int) (nano : Nat) : Option Instant :=
  if h : firstSecond ≤ second ∧ second ≤ lastSecond ∧ nano < 2 * nanosPerSecond then
    some ⟨second, nano, h.1, h.2.1, h.2.2⟩
  else none

/-- Whether an instant lies in a leap second. -/
def isLeapSecond (t : Instant) : Bool :=
  nanosPerSecond ≤ t.nano

/-- The instant some hours later, or earlier when their number is negative; none
outside of the range. A shift out of a leap second starts from the second
before it when it goes forward, and from the one after it when it goes back. -/
def shift (t : Instant) (hours : Int) : Option Instant :=
  if hours = 0 then some t
  else
    let start := if t.isLeapSecond ∧ hours < 0 then t.second + 1 else t.second
    make? (start + hours * 3600) (t.nano % nanosPerSecond)

/-- The day of an instant. -/
def date (t : Instant) : Date :=
  Date.ofNumber (t.second / 86400)

/-- The second of the day, not counting leap seconds. -/
def secondOfDay (t : Instant) : Nat :=
  (t.second % 86400).toNat

/-- The hour of the day. -/
def hour (t : Instant) : Nat :=
  t.secondOfDay / 3600

/-- The minute of the hour. -/
def minute (t : Instant) : Nat :=
  t.secondOfDay / 60 % 60

/-- The second of the minute as it is written: in a leap second the next one, up to 60. -/
def writtenSecond (t : Instant) : Nat :=
  t.secondOfDay % 60 + if t.isLeapSecond then 1 else 0

/-- The year with four digits, or with a sign and at least four digits outside of
the years 0 to 9999. -/
def yearText (y : Int) : Text :=
  if 0 ≤ y ∧ y ≤ 9999 then Text.padded 4 y.toNat
  else
    let digits := Text.natural y.natAbs
    (if y < 0 then '-' else '+') :: List.replicate (4 - digits.length) '0' ++ digits

/-- The part of the second in three, six or nine digits behind a point, or nothing
when it is zero. -/
def fractionText (nano : Nat) : Text :=
  if nano = 0 then []
  else if nano % 1000000 = 0 then '.' :: Text.padded 3 (nano / 1000000)
  else if nano % 1000 = 0 then '.' :: Text.padded 6 (nano / 1000)
  else '.' :: Text.padded 9 nano

/-- The stamp of an instant, with a sign of the zone behind it. -/
def stampWith (zone : Text) (t : Instant) : Text :=
  let d := t.date
  yearText d.year ++ '-' :: Text.padded 2 d.month ++ '-' :: Text.padded 2 d.day
    ++ 'T' :: Text.padded 2 t.hour ++ ':' :: Text.padded 2 t.minute
    ++ ':' :: Text.padded 2 t.writtenSecond ++ fractionText (t.nano % nanosPerSecond) ++ zone

/-- The stamp as data. -/
def stamp (t : Instant) : Text :=
  t.stampWith ['Z']

/-- The stamp as text for a reader. -/
def offsetStamp (t : Instant) : Text :=
  t.stampWith "+00:00".toList

/-- The minute of an instant, as letters show it: day, month, year, hour, minute. -/
def minuteText (t : Instant) : Text :=
  let d := t.date
  Text.padded 2 d.day ++ '.' :: Text.padded 2 d.month ++ '.' :: yearText d.year
    ++ ' ' :: Text.padded 2 t.hour ++ ':' :: Text.padded 2 t.minute

theorem make?_eq_some (t : Instant) : make? t.second t.nano = some t :=
  dif_pos ⟨t.first_le, t.le_last, t.nano_lt⟩

theorem shift_zero (t : Instant) : t.shift 0 = some t := by simp [shift]

end Instant

end MailMerge.Calendar
