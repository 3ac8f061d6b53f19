import MailMerge.Number.Decimal

/-!
# Floating point numbers with infinities

A field of a record or a setting may be any floating point number: a finite one, an
infinity, or no number at all. Such a number is read from its decimal digits or from
the word for it, written again, compared, and rounded to an integer.

Main facts:

* `same_comm`, `same_self_iff`: equality of values is symmetric, and what is no number is
  not even equal to itself;
* `rounded_mem`: a number is rounded to an integer between the bounds.
-/

namespace MailMerge

/-- A floating point number, an infinity, or no number. -/
inductive Extended where
  | finite (x : Binary64)
  | infinite (negative : Bool)
  | nan
deriving DecidableEq, Repr

namespace Extended

/-- Equality of values: both zeros are equal, and nothing equals what is no number. -/
def same : Extended → Extended → Bool
  | finite x, finite y => x.same y
  | infinite m, infinite n => m = n
  | _, _ => false

/-- The text of a number. -/
def text : Extended → Text
  | finite x => x.text
  | infinite true => "-inf".toList
  | infinite false => "inf".toList
  | nan => "NaN".toList

/-- A sign in front of a text, which is minus or not, and what stands behind it. -/
def splitSign : Text → Bool × Text
  | '-' :: rest => (true, rest)
  | '+' :: rest => (false, rest)
  | t => (false, t)

/-- The number that digits before and behind a point stand for, scaled by a power of
ten. -/
def ofDigits (negative : Bool) (whole places : Text) (exponent : Int) : Extended :=
  match Binary64.ofDecimal? negative (Text.digitsValue (whole ++ places))
      (exponent - places.length) with
  | some x => finite x
  | none => infinite negative

/-- The exponent behind a mantissa; zero when there is nothing. -/
def exponent? : Text → Option Int
  | [] => some 0
  | c :: rest =>
    let (negative, digits) := splitSign rest
    if (c = 'e' || c = 'E') && !digits.isEmpty && digits.all Text.isDigit then
      some (if negative then -(Text.digitsValue digits : Int) else Text.digitsValue digits)
    else none

/-- A number in decimal digits without a sign. -/
def digits? (negative : Bool) (t : Text) : Option Extended :=
  let whole := t.takeWhile Text.isDigit
  let rest := t.dropWhile Text.isDigit
  let (places, rest) :=
    match rest with
    | '.' :: more => (more.takeWhile Text.isDigit, more.dropWhile Text.isDigit)
    | _ => ([], rest)
  if whole.isEmpty && places.isEmpty then none
  else (exponent? rest).map (ofDigits negative whole places)

/-- Reads a number: digits with a sign, a point or an exponent, or a word. -/
def read? (t : Text) : Option Extended :=
  let (negative, magnitude) := splitSign t
  if Text.sameLetters magnitude "inf".toList || Text.sameLetters magnitude "infinity".toList then
    some (infinite negative)
  else if Text.sameLetters magnitude "nan".toList then some nan
  else digits? negative magnitude

/-- The integer that is nearest, the one farther from zero of two that are as near. -/
def nearest (x : Binary64) : Int :=
  let (n, d) := x.fraction
  let magnitude := (2 * n + d) / (2 * d)
  if x.negative then -(magnitude : Int) else magnitude

/-- The integer that is nearest between two bounds. -/
def rounded (low high : Int) : Extended → Int
  | finite x => max low (min high (nearest x))
  | infinite true => low
  | infinite false => high
  | nan => max low (min high 0)

theorem same_comm (x y : Extended) : same x y = same y x := by
  cases x <;> cases y <;> simp [same, Binary64.same_comm, eq_comm]

theorem same_self_iff (x : Extended) : same x x = true ↔ x ≠ nan := by
  cases x <;> simp [same, Binary64.same_refl]

theorem rounded_mem {low high : Int} (h : low ≤ high) (x : Extended) :
    low ≤ rounded low high x ∧ rounded low high x ≤ high := by
  match x with
  | finite _ | infinite true | infinite false | nan =>
    simp only [rounded]
    omega

end Extended

end MailMerge
