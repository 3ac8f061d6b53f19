import MailMerge.Proofs.Days
import MailMerge.Proofs.Digits

/-!
# Written instants read back

An instant is written as a stamp in data and as a minute in letters. The reader of
stamps gets back what the fields of the instant stand for, whatever its year: that is
the instant itself, with the leap second of its minute. The reader of typed dates tries
its forms one after the other; those before the form of a minute do not fit one, as a day
of at most two digits and a point stand in front. It gets the same back from the stamp
for readers too, but only when the year has four digits: a strict stamp has no sign, and
the looser forms have no zone.

Main facts:

* `Reader.run_year`, `Reader.run_fraction`: years and parts of seconds in all of their
  written forms;
* `Instant.ofStamp?_stamp`: the stamp of an instant is read as its fields say;
* `Instant.ofTyped?_offsetStamp`: the stamp for readers is read as a typed date;
* `Instant.ofTyped?_minuteText`: the minute of an instant is read as its beginning.
-/

namespace MailMerge

open Text Reader Calendar.Reader

namespace Calendar

namespace Reader

variable {α β : Type} {r : Reader α} {f : α → Reader β} {a : α} {s t rest : Text}

/-- What a reader has taken is given to the next one. -/
theorem run_then
    (h : r.run t = some (a, rest)) :
    (r >>= f).run t = (f a).run rest := by
  rw [StateT.run_bind, h]
  rfl

theorem run_then_of_none
    (h : r.run t = none) :
    (r >>= f).run t = none := by
  rw [StateT.run_bind, h]
  rfl

/-- A character that stands in front is passed over. -/
theorem run_char_then
    {c : Char}
    {f : Unit → Reader β} :
    (char c >>= f).run (c :: t) = (f ()).run t :=
  run_then (r := char c) (run_char c t)

theorem run_get
    (t : Text) :
    (get : Reader Text).run t = some (t, t) :=
  rfl

theorem run_skipWhile
    {p : Char → Bool}
    (h : ∀ c ∈ t.head?, p c = false) :
    (skipWhile p).run t = some ((), t) := by
  change some ((), t.dropWhile p) = _
  cases t with
  | nil =>
      rfl
  | cons c cs =>
      rw [List.dropWhile_cons_of_neg (by simp [h c rfl])]

theorem run_blanks
    (h : ∀ c ∈ t.head?, isBlank c = false) :
    blanks.run t = some ((), t) :=
  run_skipWhile h

theorem run_blanks_cons
    {c : Char}
    (h : isBlank c = false)
    (t : Text) :
    blanks.run (c :: t) = some ((), c :: t) := by
  apply run_blanks
  intro d hd
  rwa [← Option.some.inj hd]

theorem run_blanks_nil :
    blanks.run [] = some ((), []) :=
  rfl

theorem run_blanks_digits
    (hs : Digits s)
    (hne : s ≠ []) :
    blanks.run (s ++ t) = some ((), s ++ t) := by
  obtain ⟨c, cs, rfl, hc⟩ := exists_cons_of_digits hs hne
  apply run_blanks
  intro d hd
  rw [← Option.some.inj hd]
  exact isBlank_of_isDigit hc

/-- Two digits are taken as a field of a date. -/
theorem run_field
    {n : Nat}
    (h : n < 100) :
    (field 2).run (padded 2 n ++ t) = some (n, t) := by
  unfold field
  rw [run_then (run_blanks_digits (digits_padded 2 n) (padded_ne_nil (by decide) n))]
  exact run_number_padded h (by decide)

theorem ne_sign_of_isDigit
    {c : Char}
    (h : isDigit c = true) :
    c ≠ '-' ∧ c ≠ '+' :=
  ⟨ne_of_isDigit h (by decide), ne_of_isDigit h (by decide)⟩

/-- A year without a sign has up to four digits. -/
theorem run_year_of_digits
    {n : Nat}
    (hs : Digits s)
    (hne : s ≠ [])
    (hn : (number 1 4).run (s ++ t) = some (n, t)) :
    year.run (s ++ t) = some ((n : Int), t) := by
  unfold year
  rw [run_then (run_blanks_digits hs hne)]
  obtain ⟨c, cs, rfl, hc⟩ := exists_cons_of_digits hs hne
  obtain ⟨hminus, hplus⟩ := ne_sign_of_isDigit hc
  rw [List.cons_append, run_then (run_get _)]
  split
  · next heq =>
    exact absurd (List.cons.inj heq).1 hminus
  · next heq =>
    exact absurd (List.cons.inj heq).1 hplus
  · rw [List.cons_append] at hn
    rw [run_then hn]
    rfl

/-- Behind a sign a year has any number of digits. -/
theorem run_year_of_sign
    {y : Int}
    (hs : Digits s)
    (hne : s ≠ [])
    (hvalue : digitsValue s = y.natAbs)
    (ht : NoDigitAhead t) :
    year.run ((if y < 0 then '-' else '+') :: (s ++ t)) = some (y, t) := by
  have hnumber : (number 1 (s.length + t.length)).run (s ++ t) = some (y.natAbs, t) := by
    rw [← hvalue]
    exact run_number hs (List.length_pos_iff.2 hne) (Nat.le_add_right _ _) (Or.inr ht)
  unfold year
  rw [run_then (run_blanks (by split <;> simp [isBlank]))]
  split
  · next h =>
    have hnegative : -(y.natAbs : Int) = y := by omega
    change ((number 1 (s ++ t).length >>= fun n => pure (-(n : Int))) : Reader Int).run _ = _
    rw [List.length_append, run_then hnumber, hnegative]
    rfl
  · next h =>
    have hpositive : (y.natAbs : Int) = y := by omega
    change ((number 1 (s ++ t).length >>= fun n => pure (n : Int)) : Reader Int).run _ = _
    rw [List.length_append, run_then hnumber, hpositive]
    rfl

/-- A year is read back in each of its written forms. -/
theorem run_year
    (y : Int)
    (ht : NoDigitAhead t) :
    year.run (Instant.yearText y ++ t) = some (y, t) := by
  unfold Instant.yearText
  split
  · next hy =>
    have hyear := run_year_of_digits (digits_padded 4 y.toNat) (padded_ne_nil (by decide) _)
      (run_number_padded (t := t) (by omega : y.toNat < 10 ^ 4) (by decide : 1 ≤ 4))
    rw [hyear, Int.toNat_of_nonneg hy.1]
  · next hy =>
    rw [List.cons_append, List.cons_append]
    apply run_year_of_sign ((digits_replicate _).append (digits_natural y.natAbs))
      (List.append_ne_nil_of_right_ne_nil _ (natural_ne_nil _)) _ ht
    rw [digitsValue_replicate_append, digitsValue_natural]

/-- A part of a second in digits behind a point counts as many nanoseconds as there are
digits left off. -/
theorem run_fraction_of_digits
    (hs : Digits s)
    (hne : s ≠ [])
    (hlength : s.length ≤ 9)
    (ht : NoDigitAhead t) :
    fraction.run ('.' :: (s ++ t)) = some (digitsValue s * 10 ^ (9 - s.length), t) := by
  have htake : ((s ++ t).take 9).takeWhile isDigit = s :=
    takeWhile_take_digits hs hlength (Or.inr ht)
  have hnumber : (number 1 9).run (s ++ t) = some (digitsValue s, t) :=
    run_number hs (List.length_pos_iff.2 hne) hlength (Or.inr ht)
  have hskip : (skipWhile isDigit).run t = some ((), t) := run_skipWhile ht
  unfold fraction
  simp [htake, hnumber, hskip]

/-- A part of a second is read back in each of its written forms. -/
theorem run_fraction
    {nano : Nat}
    (h : nano < 1000000000)
    (ht : NoDigitAhead t)
    (hpoint : t.head? ≠ some '.') :
    fraction.run (Instant.fractionText nano ++ t) = some (nano, t) := by
  have hdigits : ∀ width n : Nat, 0 < width → width ≤ 9 → n < 10 ^ width →
      fraction.run ('.' :: padded width n ++ t) = some (n * 10 ^ (9 - width), t) := by
    intro width n hpos hle hn
    rw [List.cons_append, run_fraction_of_digits (digits_padded width n)
      (padded_ne_nil hpos n) (by rwa [length_padded]) ht, digitsValue_padded hn, length_padded]
  unfold Instant.fractionText
  split
  · next hzero =>
    subst hzero
    cases t with
    | nil =>
        rfl
    | cons c cs =>
        have hc : c ≠ '.' := fun heq => hpoint (by rw [heq]; rfl)
        unfold fraction
        rw [run_then (run_get _)]
        split
        · next heq =>
          exact absurd (List.cons.inj heq).1 hc
        · rfl
  · split
    · next hmilli =>
      rw [hdigits 3 _ (by decide) (by decide) (by omega)]
      congr 2
      omega
    · split
      · next hmicro =>
        rw [hdigits 6 _ (by decide) (by decide) (by omega)]
        congr 2
        omega
      · rw [hdigits 9 _ (by decide) (by decide) (by omega)]
        congr 2
        omega

theorem take_oneOf
    (t : Text) :
    (oneOf ['t', 'T', ' ']).run ('T' :: t) = some ((), t) :=
  rfl

theorem run_finish :
    finish.run [] = some ((), []) :=
  rfl

theorem run_looseZone :
    looseZone.run ['Z'] = some (0, []) :=
  rfl

/-- The sign of universal time in a text for a reader. -/
theorem run_offsetZone :
    (zone (char ':')).run "+00:00".toList = some (0, []) :=
  rfl

theorem run_finish_of_ne_nil
    (h : t ≠ []) :
    finish.run t = none := by
  cases t with
  | nil =>
      exact absurd rfl h
  | cons c cs =>
      rfl

/-- No field starts with anything but blanks and digits. -/
theorem run_field_eq_none
    {c : Char}
    (hblank : isBlank c = false)
    (hdigit : isDigit c = false)
    (t : Text) :
    (field 2).run (c :: t) = none := by
  unfold field
  rw [run_then (run_blanks_cons hblank t)]
  exact run_number_of_no_digit (by decide) (noDigitAhead_cons hdigit t)

end Reader

namespace Instant

theorem fields_lt
    (t : Instant) :
    t.date.month < 100 ∧ t.date.day < 100 ∧ t.hour < 100 ∧ t.minute < 100 ∧
      t.writtenSecond < 100 := by
  obtain ⟨hvalid, -, -, hhour, hminute, hsecond⟩ := t.fields_mem
  obtain ⟨hmonth, hday⟩ := t.date.lt_of_valid hvalid
  exact ⟨hmonth, hday, by omega, by omega, by omega⟩

/-- The reader of stamps takes the fields of an instant from its stamp. -/
theorem run_looseStamp
    (t : Instant) :
    looseStamp.run t.stamp = some ((t.fields, 0), []) := by
  obtain ⟨hmonth, hday, hhour, hminute, hsecond⟩ := t.fields_lt
  have hnano : t.nano % nanosPerSecond < 1000000000 := Nat.mod_lt _ (by decide)
  have hdash : ∀ t, blanks.run ('-' :: t) = some ((), '-' :: t) := run_blanks_cons rfl
  have hcolon : ∀ t, blanks.run (':' :: t) = some ((), ':' :: t) := run_blanks_cons rfl
  have hzone : ∀ t, blanks.run ('Z' :: t) = some ((), 'Z' :: t) := run_blanks_cons rfl
  unfold looseStamp stamp stampWith
  simp only [List.append_assoc, List.cons_append]
  rw [run_then (run_year _ (noDigitAhead_cons rfl _)), run_then (hdash _),
    run_char_then, run_then (run_field hmonth), run_then (hdash _),
    run_char_then, run_then (run_field hday), run_then (take_oneOf _),
    run_then (run_field hhour), run_then (hcolon _), run_char_then,
    run_then (run_field hminute), run_then (hcolon _), run_char_then,
    run_then (run_field hsecond),
    run_then (run_fraction hnano (noDigitAhead_cons (c := 'Z') rfl []) (by decide)),
    run_then (hzone _), run_then run_looseZone, run_then run_blanks_nil, run_then run_finish]
  rfl

/-- The stamp of an instant is read as what its fields stand for. -/
theorem ofStamp?_stamp
    (t : Instant) :
    ofStamp? t.stamp = some t.told := by
  unfold ofStamp? readStamp?
  rw [run_looseStamp]
  exact t.instant?_fields

theorem yearText_of_four_digits
    {y : Int}
    (h : 0 ≤ y ∧ y ≤ 9999) :
    yearText y = padded 4 y.toNat :=
  if_pos h

/-- Other years have a sign. -/
theorem exists_sign_of_yearText
    {y : Int}
    (h : ¬(0 ≤ y ∧ y ≤ 9999)) :
    ∃ sign digits, yearText y = sign :: digits ∧ isBlank sign = false ∧ isDigit sign = false := by
  unfold yearText
  rw [if_neg h]
  split
  · exact ⟨'-', _, rfl, rfl, rfl⟩
  · exact ⟨'+', _, rfl, rfl, rfl⟩

/-- No year starts with a blank. -/
theorem exists_cons_of_yearText
    (y : Int) :
    ∃ c cs, yearText y = c :: cs ∧ isBlank c = false := by
  by_cases h : 0 ≤ y ∧ y ≤ 9999
  · obtain ⟨c, cs, hcs, hdigit⟩ := exists_cons_of_digits (digits_padded 4 y.toNat)
      (padded_ne_nil (by decide) _)
    rw [yearText_of_four_digits h]
    exact ⟨c, cs, hcs, isBlank_of_isDigit hdigit⟩
  · obtain ⟨sign, digits, hsign, hblank, -⟩ := exists_sign_of_yearText h
    exact ⟨sign, digits, hsign, hblank⟩

section Stamps

variable {t : Instant}

/-- What stands behind the day in a stamp for a reader. -/
def clockText (t : Instant) : Text :=
  padded 2 t.hour ++ ':' :: (padded 2 t.minute ++ ':' :: (padded 2 t.writtenSecond ++
    (fractionText (t.nano % nanosPerSecond) ++ "+00:00".toList)))

theorem offsetStamp_eq
    (t : Instant) :
    t.offsetStamp = yearText t.date.year ++ '-' :: (padded 2 t.date.month ++
      '-' :: (padded 2 t.date.day ++ 'T' :: t.clockText)) := by
  simp [offsetStamp, stampWith, clockText]

theorem trim_offsetStamp
    (t : Instant) :
    trim t.offsetStamp = t.offsetStamp := by
  apply trim_eq_self
  · intro c hc
    obtain ⟨d, ds, hd, hblank⟩ := exists_cons_of_yearText t.date.year
    rw [offsetStamp_eq, hd] at hc
    rwa [← Option.some.inj hc]
  · intro c hc
    obtain ⟨front, hfront⟩ : ∃ front, t.offsetStamp = front ++ ['0'] := by
      refine ⟨yearText t.date.year ++ '-' :: padded 2 t.date.month ++ '-' :: padded 2 t.date.day
        ++ 'T' :: padded 2 t.hour ++ ':' :: padded 2 t.minute ++ ':' :: padded 2 t.writtenSecond
        ++ fractionText (t.nano % nanosPerSecond) ++ "+00:0".toList, ?_⟩
      simp [offsetStamp, stampWith]
    rw [hfront, List.getLast?_concat] at hc
    rw [← Option.some.inj hc]
    rfl

/-- The reader of strict stamps takes the fields of an instant from its stamp when the year
has four digits. -/
theorem run_strictStamp
    (h : 0 ≤ t.date.year ∧ t.date.year ≤ 9999) :
    strictStamp.run t.offsetStamp = some ((t.fields, 0), []) := by
  obtain ⟨hmonth, hday, hhour, hminute, hsecond⟩ := t.fields_lt
  have htwo : ∀ {n : Nat} {rest : Text}, n < 100 →
      (number 2 2).run (padded 2 n ++ rest) = some (n, rest) :=
    fun hn => run_number_padded hn (Nat.le_refl 2)
  have hyear : ∀ rest : Text, (number 4 4).run (padded 4 t.date.year.toNat ++ rest) =
      some (t.date.year.toNat, rest) :=
    fun rest => run_number_padded (by omega) (Nat.le_refl 4)
  have hnano : t.nano % nanosPerSecond < 1000000000 := Nat.mod_lt _ (by decide)
  have hfraction : fraction.run (fractionText (t.nano % nanosPerSecond) ++ "+00:00".toList) =
      some (t.nano % nanosPerSecond, "+00:00".toList) :=
    run_fraction hnano (noDigitAhead_cons (c := '+') rfl _) (by decide)
  have hcast : ((t.date.year.toNat : Nat) : Int) = t.date.year := Int.toNat_of_nonneg h.1
  unfold strictStamp
  rw [offsetStamp_eq, yearText_of_four_digits h, clockText, run_then (hyear _), run_char_then,
    run_then (htwo hmonth), run_char_then, run_then (htwo hday), run_then (take_oneOf _),
    run_then (htwo hhour), run_char_then, run_then (htwo hminute), run_char_then,
    run_then (htwo hsecond), run_then hfraction, run_then run_offsetZone, run_then run_finish,
    hcast]
  rfl

/-- The day in front of a stamp, with a year of any length. -/
theorem run_dayByYear
    (t : Instant) :
    dayByYear.run t.offsetStamp = some (t.date, 'T' :: t.clockText) := by
  obtain ⟨hmonth, hday, -, -, -⟩ := t.fields_lt
  unfold dayByYear
  rw [offsetStamp_eq, run_then (run_year _ (noDigitAhead_cons rfl _)), run_char_then,
    run_then (run_field hmonth), run_char_then, run_then (run_field hday)]
  rfl

/-- The readers of a day and a time do not get to the end of a stamp: there is no blank
behind the day, and there is a zone behind the time. -/
theorem run_dayAndSecond_offsetStamp
    (t : Instant) :
    (dayAndSecond blanks).run t.offsetStamp = none ∧
      (dayAndSecond (char 'T')).run t.offsetStamp = none := by
  obtain ⟨-, -, hhour, hminute, hsecond⟩ := t.fields_lt
  constructor
  · have hletter : hourMinuteSecond.run ('T' :: t.clockText) = none :=
      run_then_of_none (run_then_of_none (run_field_eq_none rfl rfl _))
    unfold dayAndSecond
    rw [run_then t.run_dayByYear, run_then (run_blanks_cons rfl _)]
    exact run_then_of_none hletter
  · have hclock : hourMinuteSecond.run t.clockText =
        some ((t.hour, t.minute, t.writtenSecond),
          fractionText (t.nano % nanosPerSecond) ++ "+00:00".toList) := by
      unfold hourMinuteSecond hourMinute clockText
      rw [bind_assoc, run_then (run_field hhour), bind_assoc, run_char_then, bind_assoc,
        run_then (run_field hminute), pure_bind]
      dsimp only
      rw [run_char_then, run_then (run_field hsecond)]
      rfl
    unfold dayAndSecond
    rw [run_then t.run_dayByYear, run_char_then, run_then hclock]
    exact run_then_of_none (run_finish_of_ne_nil (by simp))

/-- The stamp of an instant is read as what its fields stand for when the year has four
digits. With any other year it is no typed date. -/
theorem ofTyped?_offsetStamp
    (t : Instant) :
    ofTyped? t.offsetStamp =
      if 0 ≤ t.date.year ∧ t.date.year ≤ 9999 then some t.told else none := by
  unfold ofTyped?
  dsimp only
  rw [trim_offsetStamp]
  split
  · next h =>
    have hstrict : readStamp? strictStamp t.offsetStamp = some t.told := by
      unfold readStamp?
      rw [run_strictStamp h]
      exact t.instant?_fields
    rw [hstrict]
    rfl
  · next h =>
    obtain ⟨sign, digits, hsign, hblank, hdigit⟩ := exists_sign_of_yearText h
    obtain ⟨rest, hrest⟩ : ∃ rest, t.offsetStamp = sign :: rest := by
      rw [offsetStamp_eq, hsign]
      exact ⟨_, rfl⟩
    have hstrict : strictStamp.run t.offsetStamp = none := by
      rw [hrest]
      exact run_then_of_none (run_number_of_no_digit (by decide) (noDigitAhead_cons hdigit rest))
    have hminute : dayAndMinute.run t.offsetStamp = none := by
      rw [hrest]
      exact run_then_of_none (run_then_of_none (run_field_eq_none hblank hdigit rest))
    have halone : dayAlone.run t.offsetStamp = none := by
      unfold dayAlone
      rw [run_then t.run_dayByYear]
      exact run_then_of_none (run_finish_of_ne_nil (List.cons_ne_nil _ _))
    obtain ⟨hspace, hletter⟩ := t.run_dayAndSecond_offsetStamp
    unfold readStamp? readFields?
    rw [hstrict, hspace, hletter, hminute, halone]
    rfl

end Stamps

/-- A text with two digits and a point in front is no strict stamp. -/
theorem run_strictStamp_of_point
    (n : Nat)
    (t : Text) :
    strictStamp.run (padded 2 n ++ '.' :: t) = none := by
  have hnumber : (number 4 4).run (padded 2 n ++ '.' :: t) = none :=
    run_number_eq_none (digits_padded 2 n) (noDigitAhead_cons rfl t)
      (by rw [length_padded]; decide) (by rw [length_padded]; decide)
  exact run_then_of_none hnumber

/-- A text with two digits and a point in front is no day written year first. -/
theorem run_dayByYear_of_point
    {n : Nat}
    (h : n < 100)
    (t : Text) :
    dayByYear.run (padded 2 n ++ '.' :: t) = none := by
  have hnumber : (number 1 4).run (padded 2 n ++ '.' :: t) = some (n, '.' :: t) := by
    rw [run_number (digits_padded 2 n) (by rw [length_padded]; decide)
      (by rw [length_padded]; decide) (Or.inr (noDigitAhead_cons rfl t)), digitsValue_padded h]
  have hyear := run_year_of_digits (digits_padded 2 n) (padded_ne_nil (by decide) n) hnumber
  unfold dayByYear
  rw [run_then hyear]
  rfl

/-- The reader of a day and a minute takes the fields of an instant from its minute. -/
theorem run_dayAndMinute
    (t : Instant) :
    dayAndMinute.run t.minuteText = some (⟨t.date, t.hour, t.minute, 0, 0⟩, []) := by
  obtain ⟨hmonth, hday, hhour, hminute, -⟩ := t.fields_lt
  have hend : (field 2).run (padded 2 t.minute) = some (t.minute, []) := by
    have hfield := run_field (t := []) hminute
    rwa [List.append_nil] at hfield
  have hspace : blanks.run (' ' :: (padded 2 t.hour ++ ':' :: padded 2 t.minute)) =
      some ((), padded 2 t.hour ++ ':' :: padded 2 t.minute) :=
    run_blanks_digits (digits_padded 2 _) (padded_ne_nil (by decide) _)
  have hday : dayByDay.run (padded 2 t.date.day ++ '.' :: (padded 2 t.date.month ++
      '.' :: (yearText t.date.year ++ ' ' :: (padded 2 t.hour ++ ':' :: padded 2 t.minute)))) =
      some (t.date, ' ' :: (padded 2 t.hour ++ ':' :: padded 2 t.minute)) := by
    unfold dayByDay
    rw [run_then (run_field hday), run_char_then, run_then (run_field hmonth),
      run_char_then, run_then (run_year _ (noDigitAhead_cons (c := ' ') rfl _))]
    rfl
  have htime : hourMinute.run (padded 2 t.hour ++ ':' :: padded 2 t.minute) =
      some ((t.hour, t.minute), []) := by
    unfold hourMinute
    rw [run_then (run_field hhour), run_char_then, run_then hend]
    rfl
  unfold dayAndMinute minuteText
  simp only [List.append_assoc, List.cons_append]
  rw [run_then hday, run_then hspace, run_then htime, run_then run_finish]
  rfl

/-- The minute of an instant is a typed date, and is read as the beginning of the minute. -/
theorem ofTyped?_minuteText
    (t : Instant) :
    ofTyped? t.minuteText = some t.minuteStart := by
  obtain ⟨-, hday, -, -, -⟩ := t.fields_lt
  have htrim : trim t.minuteText = t.minuteText := by
    have hparts : t.minuteText = padded 2 t.date.day ++ (['.'] ++ padded 2 t.date.month ++
        ['.'] ++ yearText t.date.year ++ [' '] ++ padded 2 t.hour ++ [':']) ++
        padded 2 t.minute := by
      simp [minuteText]
    rw [hparts]
    exact trim_of_digits_around (digits_padded 2 _) (padded_ne_nil (by decide) _)
      (digits_padded 2 _) (padded_ne_nil (by decide) _)
  obtain ⟨rest, hrest⟩ : ∃ rest, t.minuteText = padded 2 t.date.day ++ '.' :: rest := by
    unfold minuteText
    simp only [List.append_assoc, List.cons_append]
    exact ⟨_, rfl⟩
  have hstrict : readStamp? strictStamp t.minuteText = none := by
    unfold readStamp?
    rw [hrest, run_strictStamp_of_point]
    rfl
  have hsecond : ∀ separator, readFields? (dayAndSecond separator) t.minuteText = none := by
    intro separator
    have hrun : (dayAndSecond separator).run t.minuteText = none := by
      rw [hrest]
      exact run_then_of_none (run_dayByYear_of_point hday _)
    unfold readFields?
    rw [hrun]
    rfl
  have hminute : readFields? dayAndMinute t.minuteText = some t.minuteStart := by
    unfold readFields?
    rw [run_dayAndMinute]
    exact t.instant?_minute
  unfold ofTyped?
  dsimp only
  rw [htrim, hstrict, hsecond, hsecond, hminute]
  rfl

end Instant

end Calendar

end MailMerge
