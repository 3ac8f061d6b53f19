import MailMerge.Number.Binary64
import MailMerge.Text.Basic

/-!
# Floating point numbers in decimal

A number is written with the fewest decimal digits that read back as the same
number; of several such decimals the nearest is taken, and of two that are as
near the greater or the even one. In the usual text of a number it is the greater;
the digits stand in positional notation, without an exponent, and an integer has no
point.

The decimals that read back as `m * 2 ^ e` fill an interval around it: half the
way to either neighbour, the ends included when `m` is even. The neighbour
below a power of two is half as far away as the one above.

Main facts:

* `text_of_negative`: the text of a negative number is that of the number with the other
  sign, zero included, with a minus sign in front.
-/

namespace MailMerge.Binary64

/-- The interval of decimals that read back as `x`, with `x` itself: the lower
end, the value and the upper end over one denominator, and whether the ends
belong to it. -/
structure Neighbourhood where
  low : Nat
  value : Nat
  high : Nat
  denominator : Nat
  closed : Bool

/-- The neighbourhood of a magnitude, in quarters of its unit. -/
def neighbourhood (x : Binary64) : Neighbourhood :=
  let narrow := x.mantissa = Nat.pow 2 52 ∧ leastExponent < x.exponent
  let (unit, denominator) :=
    match x.exponent - 2 with
    | .ofNat k => (Nat.pow 2 k, 1)
    | .negSucc k => (1, Nat.pow 2 (k + 1))
  { low := (4 * x.mantissa - if narrow then 1 else 2) * unit
    value := 4 * x.mantissa * unit
    high := (4 * x.mantissa + 2) * unit
    denominator
    closed := x.mantissa % 2 = 0 }

/-- Both sides of the comparison of `c * 10 ^ k` with `n / d`, as integers. -/
def crossed (c : Nat) (k : Int) (n d : Nat) : Nat × Nat :=
  match k with
  | .ofNat j => (c * Nat.pow 10 j * d, n)
  | .negSucc j => (c * d, n * Nat.pow 10 (j + 1))

/-- Whether `c * 10 ^ k` lies in a neighbourhood. -/
def Neighbourhood.contains (s : Neighbourhood) (c : Nat) (k : Int) : Bool :=
  let (a, low) := crossed c k s.low s.denominator
  let (b, high) := crossed c k s.high s.denominator
  if s.closed then low ≤ a ∧ b ≤ high else low < a ∧ b < high

/-- Which of two decimals is taken that are as near. -/
inductive Tie where
  | greater
  | even
deriving DecidableEq, Repr

/-- The number of units that is taken out of `c` and `c + 1`, which are as near. -/
def Tie.choose (tie : Tie) (c : Nat) : Nat :=
  match tie with
  | .greater => c + 1
  | .even => if c % 2 = 0 then c else c + 1

/-- The multiple of `10 ^ k` in a neighbourhood that is nearest to its value, as
a number of units; none when no multiple lies in it. -/
def Neighbourhood.nearest? (s : Neighbourhood) (tie : Tie) (k : Int) : Option Nat :=
  let c :=
    match k with
    | .ofNat j => s.value / (s.denominator * Nat.pow 10 j)
    | .negSucc j => s.value * Nat.pow 10 (j + 1) / s.denominator
  let (middle, twice) := crossed (2 * c + 1) k (2 * s.value) s.denominator
  match s.contains c k, s.contains (c + 1) k with
  | true, true =>
    some (if twice < middle then c else if middle < twice then c + 1 else tie.choose c)
  | true, false => some c
  | false, true => some (c + 1)
  | false, false => none

/-- An exponent of ten above the magnitude of a positive number. -/
def decimalExponentBound (s : Neighbourhood) : Int :=
  ((Nat.log2 s.value : Int) - Nat.log2 s.denominator) * 30103 / 100000 + 2

/-- The shortest decimal `c * 10 ^ k` that reads back as a positive number. -/
def shortest (x : Binary64) (tie : Tie) : Nat × Int :=
  let s := x.neighbourhood
  let top := decimalExponentBound s
  let grids := (List.range 24).map fun (i : Nat) => top - (i : Int)
  (grids.findSome? fun k => (s.nearest? tie k).map fun c => (c, k)).getD (0, 0)

/-- The decimal `c * 10 ^ k` in positional notation. -/
def positional (c : Nat) (k : Int) : Text :=
  match k with
  | .ofNat j => Text.natural c ++ List.replicate j '0'
  | .negSucc j =>
    let digits := Text.natural c
    let whole := digits.take (digits.length - (j + 1))
    let places := digits.drop (digits.length - (j + 1))
    (if whole.isEmpty then ['0'] else whole) ++ '.'
      :: List.replicate (j + 1 - places.length) '0' ++ places

/-- The text of a number: the fewest digits that read back as it. -/
def text (x : Binary64) : Text :=
  let magnitude :=
    if x.mantissa = 0 then ['0']
    else
      let (c, k) := x.shortest .greater
      positional c k
  if x.negative then '-' :: magnitude else magnitude

/-- The number nearest to `± n * 10 ^ k`; none when it is too large. -/
def ofDecimal? (negative : Bool) (n : Nat) (k : Int) : Option Binary64 :=
  let digits : Int := (Text.natural n).length
  if n = 0 ∨ digits + k < -400 then some (zero negative)
  else if 400 < digits + k then none
  else
    match k with
    | .ofNat j => ofQuotient? negative (n * Nat.pow 10 j) 1
    | .negSucc j => ofQuotient? negative n (Nat.pow 10 (j + 1))

theorem text_of_negative {x : Binary64} (h : x.negative = true) :
    x.text = '-' :: text { x with negative := false } := by
  simp [text, h, shortest, neighbourhood]

end MailMerge.Binary64
