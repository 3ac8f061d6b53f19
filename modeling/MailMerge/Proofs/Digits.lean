import MailMerge.Text.Reader
import MailMerge.Uuid
import Mathlib.Algebra.Group.Int.Defs
import Mathlib.Algebra.Group.Nat.Defs

/-!
# Digits read back

Numbers are written in decimal digits, in as many as they need or padded to a width,
and identifiers in hexadecimal ones. The digits of a number read back as the number,
by a reader that stops where the digits end.

Main facts:

* `digitsValue_natural`, `digitsValue_padded`: the value of the digits is the number;
* `Reader.run_number`: a reader of digits takes all of them and leaves the rest;
* `Uuid.readHex?_hexDigits`: hexadecimal digits spell the number that they were made
  from;
* `Uuid.read?_text`: a written identifier is read as that identifier.
-/

namespace MailMerge

namespace Text

/-- A text of decimal digits only. -/
def Digits (t : Text) : Prop :=
  ∀ c ∈ t, isDigit c = true

/-- A text that goes on with something else than a digit, or not at all. -/
def NoDigitAhead (t : Text) : Prop :=
  ∀ c ∈ t.head?, isDigit c = false

section Characters

variable {c : Char} {d : Nat}

theorem digit?_digitChar
    (h : d < 10) :
    digit? (digitChar d) = some d := by
  have hall : ∀ d < 10, digit? (digitChar d) = some d := by decide
  exact hall d h

theorem isDigit_digitChar
    (h : d < 10) :
    isDigit (digitChar d) = true := by
  unfold isDigit
  rw [digit?_digitChar h]
  rfl

theorem range_of_isDigit
    (h : isDigit c = true) :
    48 ≤ c.toNat ∧ c.toNat ≤ 57 := by
  unfold isDigit digit? at h
  split at h
  · next hc =>
    exact hc
  · exact absurd h (by simp)

theorem isBlank_of_isDigit
    (h : isDigit c = true) :
    isBlank c = false := by
  have hrange := range_of_isDigit h
  simp only [isBlank, Bool.or_eq_false_iff, Bool.and_eq_false_iff, decide_eq_false_iff_not,
    beq_eq_false_iff_ne]
  omega

theorem ne_of_isDigit
    {x : Char}
    (h : isDigit c = true)
    (hx : isDigit x = false) :
    c ≠ x := by
  rintro rfl
  rw [h] at hx
  exact Bool.noConfusion hx

end Characters

section Values

variable {s t : Text} {d n : Nat}

theorem Digits.append
    (hs : Digits s)
    (ht : Digits t) :
    Digits (s ++ t) := by
  intro c hc
  rcases List.mem_append.1 hc with h | h
  · exact hs c h
  · exact ht c h

/-- The first character of some digits is one of them. -/
theorem exists_cons_of_digits
    (hs : Digits s)
    (hne : s ≠ []) :
    ∃ c cs, s = c :: cs ∧ isDigit c = true := by
  cases s with
  | nil =>
      exact absurd rfl hne
  | cons c cs =>
      exact ⟨c, cs, rfl, hs c List.mem_cons_self⟩

theorem digits_digitChar
    (h : d < 10) :
    Digits [digitChar d] := by
  intro c hc
  rw [List.mem_singleton.1 hc]
  exact isDigit_digitChar h

theorem digitsValue_concat
    (h : d < 10) :
    digitsValue (t ++ [digitChar d]) = 10 * digitsValue t + d := by
  simp [digitsValue, List.filterMap_append, digit?_digitChar h]

theorem length_padded
    (width n : Nat) :
    (padded width n).length = width := by
  induction width generalizing n with
  | zero =>
      rfl
  | succ width ih =>
      rw [padded, List.length_append, ih, List.length_singleton]

theorem padded_ne_nil
    {width : Nat}
    (h : 0 < width)
    (n : Nat) :
    padded width n ≠ [] := by
  rw [← List.length_pos_iff, length_padded]
  exact h

theorem digits_padded
    (width n : Nat) :
    Digits (padded width n) := by
  induction width generalizing n with
  | zero =>
      exact fun c hc => absurd hc List.not_mem_nil
  | succ width ih =>
      exact (ih _).append (digits_digitChar (Nat.mod_lt n (by decide)))

/-- Digits of a width spell a number that fits it. -/
theorem digitsValue_padded
    {width : Nat}
    (h : n < 10 ^ width) :
    digitsValue (padded width n) = n := by
  induction width generalizing n with
  | zero =>
      rw [Nat.lt_one_iff.1 h]
      rfl
  | succ width ih =>
      have hdiv : n / 10 < 10 ^ width := by
        rw [Nat.pow_succ] at h
        omega
      rw [padded, digitsValue_concat (Nat.mod_lt n (by decide)), ih hdiv]
      omega

theorem digits_natural
    (n : Nat) :
    Digits (natural n) := by
  fun_induction natural n with
  | case1 n h =>
      exact digits_digitChar h
  | case2 n h ih =>
      exact ih.append (digits_digitChar (Nat.mod_lt n (by decide)))

theorem natural_ne_nil
    (n : Nat) :
    natural n ≠ [] := by
  unfold natural
  split <;> simp

theorem digitsValue_natural
    (n : Nat) :
    digitsValue (natural n) = n := by
  fun_induction natural n with
  | case1 n h =>
      exact (digitsValue_concat (t := []) h).trans (by simp [digitsValue])
  | case2 n h ih =>
      rw [digitsValue_concat (Nat.mod_lt n (by decide)), ih]
      omega

/-- Only zero is written with a zero in front. -/
theorem eq_zero_of_head?_natural
    (h : (natural n).head? = some '0') :
    n = 0 := by
  fun_induction natural n with
  | case1 n hn =>
      have hall : ∀ d < 10, digitChar d = '0' → d = 0 := by decide
      exact hall n hn (Option.some.inj h)
  | case2 n hn ih =>
      rcases hdigits : natural (n / 10) with _ | ⟨c, cs⟩
      · exact absurd hdigits (natural_ne_nil _)
      · rw [hdigits] at h ih
        have hquotient := ih h
        omega

/-- Zeros in front do not change the value. -/
theorem digitsValue_replicate_append
    (k : Nat)
    (t : Text) :
    digitsValue (List.replicate k '0' ++ t) = digitsValue t := by
  induction k with
  | zero =>
      rfl
  | succ k ih =>
      rw [← ih]
      rfl

theorem digits_replicate
    (k : Nat) :
    Digits (List.replicate k '0') := by
  intro c hc
  rw [List.eq_of_mem_replicate hc]
  rfl

theorem noDigitAhead_cons
    {c : Char}
    (h : isDigit c = false)
    (t : Text) :
    NoDigitAhead (c :: t) := by
  intro d hd
  rwa [← Option.some.inj hd]

theorem takeWhile_digits
    (hs : Digits s)
    (ht : NoDigitAhead t) :
    (s ++ t).takeWhile isDigit = s := by
  rw [List.takeWhile_append_of_pos hs]
  cases t with
  | nil =>
      simp
  | cons c cs =>
      simp [ht c rfl]

/-- Of a number of characters the digits are those that stand in front. -/
theorem takeWhile_take_digits
    {most : Nat}
    (hs : Digits s)
    (hmost : s.length ≤ most)
    (ht : s.length = most ∨ NoDigitAhead t) :
    ((s ++ t).take most).takeWhile isDigit = s := by
  rw [List.take_append, List.take_of_length_le hmost]
  apply takeWhile_digits hs
  rcases ht with hfull | hahead
  · rw [hfull, Nat.sub_self]
    exact fun c hc => absurd hc (by simp)
  · intro c hc
    apply hahead
    rw [List.head?_take] at hc
    split at hc
    · exact absurd hc (by simp)
    · exact hc

/-- Between digits nothing is trimmed. -/
theorem trim_of_digits_around
    {front behind : Text}
    (hfront : Digits front)
    (hfront' : front ≠ [])
    (hbehind : Digits behind)
    (hbehind' : behind ≠ []) :
    trim (front ++ s ++ behind) = front ++ s ++ behind := by
  apply trim_eq_self
  · intro c hc
    obtain ⟨d, ds, rfl, hd⟩ := exists_cons_of_digits hfront hfront'
    rw [← Option.some.inj hc]
    exact isBlank_of_isDigit hd
  · intro c hc
    rw [← List.dropLast_concat_getLast hbehind', ← List.append_assoc, List.getLast?_concat] at hc
    rw [← Option.some.inj hc]
    exact isBlank_of_isDigit (hbehind _ (List.getLast_mem hbehind'))

end Values

end Text

namespace Reader

open Text

variable {s t : Text} {least most : Nat}

/-- Digits are taken as their number when there are as many as may be, or when no more
follow. -/
theorem run_number
    (hs : Digits s)
    (hleast : least ≤ s.length)
    (hmost : s.length ≤ most)
    (ht : s.length = most ∨ NoDigitAhead t) :
    (number least most).run (s ++ t) = some (digitsValue s, t) := by
  change (if (((s ++ t).take most).takeWhile isDigit).length < least then none
    else some (digitsValue _, (s ++ t).drop _)) = _
  rw [takeWhile_take_digits hs hmost ht, if_neg (Nat.not_lt.2 hleast), List.drop_left]

/-- Fewer digits than there must be are not taken. -/
theorem run_number_eq_none
    (hs : Digits s)
    (ht : NoDigitAhead t)
    (hleast : s.length < least)
    (hmost : s.length ≤ most) :
    (number least most).run (s ++ t) = none := by
  change (if (((s ++ t).take most).takeWhile isDigit).length < least then none
    else some (digitsValue _, (s ++ t).drop _)) = _
  rw [takeWhile_take_digits hs hmost (Or.inr ht), if_pos hleast]

/-- No number is taken where no digit stands in front. -/
theorem run_number_of_no_digit
    (hleast : 0 < least)
    (ht : NoDigitAhead t) :
    (number least most).run t = none :=
  run_number_eq_none (s := []) (fun _ hc => absurd hc List.not_mem_nil) ht hleast
    (Nat.zero_le most)

/-- A padded number is taken whatever follows. -/
theorem run_number_padded
    {width n : Nat}
    (h : n < 10 ^ width)
    (hleast : least ≤ width) :
    (number least width).run (padded width n ++ t) = some (n, t) := by
  have hlength := length_padded width n
  rw [run_number (digits_padded width n) (by rwa [hlength]) (Nat.le_of_eq hlength)
    (Or.inl hlength), digitsValue_padded h]

end Reader

namespace Uuid

theorem hexValue?_hexDigit
    {d : Nat}
    (h : d < 16) :
    hexValue? (hexDigit d) = some d := by
  have hall : ∀ d < 16, hexValue? (hexDigit d) = some d := by decide
  exact hall d h

/-- Hexadecimal digits of a width spell a number that fits it. -/
theorem readHex?_hexDigits
    {width n : Nat}
    (h : n < 16 ^ width) :
    readHex? (hexDigits width n) = some n := by
  unfold readHex?
  induction width generalizing n with
  | zero =>
      rw [Nat.lt_one_iff.1 h]
      rfl
  | succ width ih =>
      have hdiv : n / 16 < 16 ^ width := by
        rw [Nat.pow_succ] at h
        omega
      obtain ⟨ds, hds, hvalue⟩ := Option.map_eq_some_iff.1 (ih hdiv)
      rw [hexDigits, List.mapM_append, hds]
      simp [hexValue?_hexDigit (Nat.mod_lt n (by decide : 0 < 16)), hvalue]
      omega

theorem hexDigits_ne_hyphen
    (width n : Nat) :
    '-' ∉ hexDigits width n := by
  induction width generalizing n with
  | zero =>
      exact List.not_mem_nil
  | succ width ih =>
      have hall : ∀ d < 16, '-' ≠ hexDigit d := by decide
      rw [hexDigits, List.mem_append, List.mem_singleton, not_or]
      exact ⟨ih _, hall _ (Nat.mod_lt n (by decide))⟩

/-- The digits of an identifier in their groups. -/
theorem fields_text
    (u : Uuid) :
    Text.fields '-' u.text =
      [(hexDigits 32 u.bits.toNat).take 8, ((hexDigits 32 u.bits.toNat).drop 8).take 4,
        ((hexDigits 32 u.bits.toNat).drop 12).take 4, ((hexDigits 32 u.bits.toNat).drop 16).take 4,
        (hexDigits 32 u.bits.toNat).drop 20] := by
  have hyphen := hexDigits_ne_hyphen 32 u.bits.toNat
  have hdrop : ∀ n, '-' ∉ (hexDigits 32 u.bits.toNat).drop n :=
    fun n h => hyphen (List.mem_of_mem_drop h)
  have htake : ∀ n, '-' ∉ (hexDigits 32 u.bits.toNat).take n :=
    fun n h => hyphen (List.mem_of_mem_take h)
  have hgroup : ∀ n, '-' ∉ ((hexDigits 32 u.bits.toNat).drop n).take 4 :=
    fun n h => hdrop n (List.mem_of_mem_take h)
  unfold text
  simp only [List.append_assoc, List.cons_append]
  rw [Text.fields_append_cons (htake 8), Text.fields_append_cons (hgroup 8),
    Text.fields_append_cons (hgroup 12), Text.fields_append_cons (hgroup 16),
    Text.fields_of_not_mem (hdrop 20)]

/-- A written identifier is read as that identifier. -/
theorem read?_text
    (u : Uuid) :
    read? u.text = some u := by
  have hlength := hexDigits_length 32 u.bits.toNat
  have hgroups : ((Text.fields '-' u.text).map List.length) = [8, 4, 4, 4, 12] := by
    rw [fields_text]
    simp [hlength]
  have hflatten : (Text.fields '-' u.text).flatten = hexDigits 32 u.bits.toNat := by
    have hjoin : ∀ (n : Nat) (t : Text), (t.drop n).take 4 ++ t.drop (n + 4) = t.drop n := by
      intro n t
      rw [← List.drop_drop, List.take_append_drop]
    rw [fields_text]
    simp only [List.flatten_cons, List.flatten_nil, List.append_nil]
    rw [hjoin 16, hjoin 12, hjoin 8, List.take_append_drop]
  have hread : readHex? (hexDigits 32 u.bits.toNat) = some u.bits.toNat :=
    readHex?_hexDigits u.bits.isLt
  unfold read?
  rw [length_text, if_neg (by decide), if_pos rfl]
  unfold readGroups?
  dsimp only
  rw [if_pos hgroups, hflatten]
  unfold readDigits?
  rw [if_pos hlength, hread, Option.map_some, BitVec.ofNat_toNat, BitVec.setWidth_eq]

theorem text_injective :
    Function.Injective text := by
  intro u v h
  have hread := congrArg read? h
  rw [u.read?_text, v.read?_text] at hread
  exact Option.some.inj hread

end Uuid

end MailMerge
