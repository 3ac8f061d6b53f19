import MailMerge.Calendar.Instant
import MailMerge.Text.Reader

/-!
# Dates as they are typed

Three grammars of dates are read here.

* A *strict* stamp has fixed widths: `2024-05-17T09:05:00.5+02:00`.
* A *loose* stamp is the form that data may carry: fields of one digit, blanks
  between the parts, `UTC` for the zone, years with a sign.
* A *typed date* is what a text field may hold: a strict stamp, or a day with or
  without a time in one of four patterns, taken as universal time.

Every reader takes its part from the front of the text and leaves the rest.

Main facts:

* `Fields.valid_of_instant?`: only a day that the calendar has is a date, at an hour and
  a minute that a day has.
-/

namespace MailMerge.Calendar

namespace Reader

open MailMerge.Reader

/-- A number of at most `most` digits behind any blanks. -/
def field (most : Nat) : Reader Nat := do
  blanks
  number 1 most

/-- A year behind any blanks: up to four digits, or any number of them behind a sign. -/
def year : Reader Int := do
  blanks
  let t ← get
  match t with
  | '-' :: rest =>
    set rest
    return -(← number 1 rest.length : Nat)
  | '+' :: rest =>
    set rest
    return (← number 1 rest.length : Nat)
  | _ => return (← number 1 4 : Nat)

/-- A part of a second behind a point, in nanoseconds; digits after the ninth are
passed over. Without a point it is zero. -/
def fraction : Reader Nat := do
  match ← get with
  | '.' :: rest =>
    set rest
    let digits := (rest.take 9).takeWhile Text.isDigit
    let n ← number 1 9
    skipWhile Text.isDigit
    return n * Nat.pow 10 (9 - digits.length)
  | _ => return 0

/-- The distance of a zone from universal time in seconds: `Z`, or a sign, two
digits for hours and two for minutes, with `separator` read between them. -/
def zone (separator : Reader Unit) : Reader Int := do
  match ← get with
  | 'Z' :: rest => set rest; return 0
  | 'z' :: rest => set rest; return 0
  | '+' :: rest => set rest; distance
  | '-' :: rest => set rest; return -(← distance)
  | '\u2212' :: rest => set rest; return -(← distance)
  | _ => failure
where
  distance : Reader Int := do
    let hours ← number 2 2
    separator
    let minutes ← number 2 2
    if minutes < 60 then return ((hours * 3600 + minutes * 60 : Nat) : Int) else failure

end Reader

/-- The fields of a day and a time as they are written. -/
structure Fields where
  date : Date
  hour : Nat
  minute : Nat
  second : Nat
  nano : Nat
deriving DecidableEq, Repr

namespace Fields

/-- The instant that the fields stand for in a zone which is `ahead` seconds ahead of
universal time. The 60th second of any minute is a leap second. -/
def instant? (f : Fields) (ahead : Int) : Option Instant :=
  if f.date.valid ∧ firstYear ≤ f.date.year ∧ f.date.year ≤ lastYear
      ∧ f.hour < 24 ∧ f.minute < 60 ∧ f.second ≤ 60 then
    let (second, nano) :=
      if f.second = 60 then (59, f.nano + nanosPerSecond) else (f.second, f.nano)
    Instant.make?
      (f.date.number * 86400 + (f.hour * 3600 + f.minute * 60 + second : Nat) - ahead) nano
  else none

theorem valid_of_instant? {f : Fields} {ahead : Int} {t : Instant}
    (h : f.instant? ahead = some t) :
    f.date.valid = true ∧ firstYear ≤ f.date.year ∧ f.date.year ≤ lastYear
      ∧ f.hour < 24 ∧ f.minute < 60 ∧ f.second ≤ 60 := by
  unfold instant? at h
  split at h
  · next hvalid => exact hvalid
  · cases h

end Fields

/-- A strict stamp, with its zone's distance from universal time. -/
def strictStamp : Reader (Fields × Int) := do
  let y ← Reader.number 4 4
  Reader.char '-'
  let m ← Reader.number 2 2
  Reader.char '-'
  let d ← Reader.number 2 2
  Reader.oneOf ['t', 'T', ' ']
  let hour ← Reader.number 2 2
  Reader.char ':'
  let minute ← Reader.number 2 2
  Reader.char ':'
  let second ← Reader.number 2 2
  let nano ← Reader.fraction
  let ahead ← Reader.zone (Reader.char ':')
  Reader.finish
  return (⟨⟨(y : Nat), m, d⟩, hour, minute, second, nano⟩, ahead)

/-- The sign of universal time, in letters of any case, or a zone. -/
def looseZone : Reader Int := do
  let t ← get
  if Text.sameLetters (t.take 3) "UTC".toList then
    set (t.drop 3)
    return 0
  else
    Reader.zone (Reader.skipWhile fun c => c = ':' || Text.isBlank c)

/-- A loose stamp, with its zone's distance from universal time. -/
def looseStamp : Reader (Fields × Int) := do
  let y ← Reader.year
  Reader.blanks
  Reader.char '-'
  let m ← Reader.field 2
  Reader.blanks
  Reader.char '-'
  let d ← Reader.field 2
  Reader.oneOf ['t', 'T', ' ']
  let hour ← Reader.field 2
  Reader.blanks
  Reader.char ':'
  let minute ← Reader.field 2
  Reader.blanks
  Reader.char ':'
  let second ← Reader.field 2
  let nano ← Reader.fraction
  Reader.blanks
  let ahead ← looseZone
  Reader.blanks
  Reader.finish
  return (⟨⟨y, m, d⟩, hour, minute, second, nano⟩, ahead)

/-- A day written year first. -/
def dayByYear : Reader Date := do
  let y ← Reader.year
  Reader.char '-'
  let m ← Reader.field 2
  Reader.char '-'
  let d ← Reader.field 2
  return ⟨y, m, d⟩

/-- A day written day first. -/
def dayByDay : Reader Date := do
  let d ← Reader.field 2
  Reader.char '.'
  let m ← Reader.field 2
  Reader.char '.'
  let y ← Reader.year
  return ⟨y, m, d⟩

/-- Hours and minutes. -/
def hourMinute : Reader (Nat × Nat) := do
  let hour ← Reader.field 2
  Reader.char ':'
  let minute ← Reader.field 2
  return (hour, minute)

/-- Hours, minutes and seconds. -/
def hourMinuteSecond : Reader (Nat × Nat × Nat) := do
  let (hour, minute) ← hourMinute
  Reader.char ':'
  let second ← Reader.field 2
  return (hour, minute, second)

/-- A day and a time with seconds, behind a separator. -/
def dayAndSecond (separator : Reader Unit) : Reader Fields := do
  let date ← dayByYear
  separator
  let (hour, minute, second) ← hourMinuteSecond
  Reader.finish
  return ⟨date, hour, minute, second, 0⟩

/-- A day written day first, and a time without seconds. -/
def dayAndMinute : Reader Fields := do
  let date ← dayByDay
  Reader.blanks
  let (hour, minute) ← hourMinute
  Reader.finish
  return ⟨date, hour, minute, 0, 0⟩

/-- A day alone, for its first second. -/
def dayAlone : Reader Fields := do
  let date ← dayByYear
  Reader.finish
  return ⟨date, 0, 0, 0, 0⟩

/-- The instant of a stamp that a reader finds in a text. -/
def readStamp? (stamp : Reader (Fields × Int)) (t : Text) : Option Instant := do
  let ((fields, ahead), _) ← stamp.run t
  if -86400 < ahead ∧ ahead < 86400 then fields.instant? ahead else none

/-- The instant of a day and a time that a reader finds in a text. -/
def readFields? (reader : Reader Fields) (t : Text) : Option Instant := do
  let (fields, _) ← reader.run t
  fields.instant? 0

namespace Instant

/-- Reads a loose stamp, the form of a date in data. -/
def ofStamp? (t : Text) : Option Instant :=
  readStamp? looseStamp t

/-- Reads a typed date: the first of the forms that fits, without the blanks around it. -/
def ofTyped? (t : Text) : Option Instant :=
  let t := Text.trim t
  readStamp? strictStamp t
    <|> readFields? (dayAndSecond Reader.blanks) t
    <|> readFields? (dayAndSecond (Reader.char 'T')) t
    <|> readFields? dayAndMinute t
    <|> readFields? dayAlone t

end Instant

end MailMerge.Calendar
