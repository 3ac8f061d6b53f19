import MailMerge.Number.Decimal

/-!
# Numbers in documents

A number without a point and without an exponent is an integer if it fits 64
bits, with or without a sign; minus zero does not. Every other number is a
decimal, and a decimal may be too large to be one.

A decimal is taken in two roundings: its digits as one integer of 64 bits,
scaled by one power of ten. Digits that do not fit the integer are dropped,
those before the point counting as a power of ten.

A decimal is written with its shortest digits, always with a point or an exponent:
positional up to sixteen places before the point and down to five behind it, with
one digit before the point and an exponent otherwise.

Main facts:

* `absorb_lt`: what is taken in of some digits fits 64 bits;
* `suffix_absorb`: the digits left over are the last ones.
-/

namespace MailMerge.Json

/-- The value of a number in a document. -/
inductive Number where
  | integer (n : Int)
  | decimal (x : Binary64)
deriving DecidableEq, Repr

/-- A number as it is spelled: the digits before the point, those behind it, and the
sign and the digits of the exponent. -/
structure Literal where
  negative : Bool
  whole : Text
  places : Text
  exponent : Option (Bool × Text)
deriving DecidableEq, Repr

namespace Number

/-- Digits taken into a number as long as it fits 64 bits, with the digits left over. -/
def absorb (n : Nat) : Text → Nat × Text
  | [] => (n, [])
  | c :: cs =>
    match Text.digit? c with
    | none => (n, c :: cs)
    | some d => if 10 * n + d < Nat.pow 2 64 then absorb (10 * n + d) cs else (n, c :: cs)

/-- A magnitude scaled down by a power of ten, in steps of at most 308. -/
def scaleDown : Nat → Binary64 → Nat → Option Binary64
  | 0, x, _ => some (.zero x.negative)
  | fuel + 1, x, k =>
    if k ≤ 308 then x.divPowerOfTen? k
    else if x.mantissa = 0 then some x
    else do scaleDown fuel (← x.divPowerOfTen? 308) (k - 308)

/-- The magnitude `n * 10 ^ k`; none when it is too large. -/
def scaled? (n : Nat) (k : Int) : Option Binary64 := do
  let x ← Binary64.ofQuotient? false n 1
  match k with
  | .ofNat j => if j ≤ 308 then x.mulPowerOfTen? j else if n = 0 then some x else none
  | .negSucc j => scaleDown 4 x (j + 1)

/-- A magnitude with a sign. -/
def signed (negative : Bool) (x : Binary64) : Number :=
  decimal { x with negative }

/-- The greatest exponent that is told apart from larger ones. -/
def exponentLimit : Int := 2147483647

/-- The value of a spelled number; none when it is too large. -/
def ofLiteral (l : Literal) : Option Number := do
  let (n, surplus) := absorb 0 l.whole
  let (m, dropped) := absorb n l.places
  let shift : Int := surplus.length - (l.places.length - dropped.length : Nat)
  match l.exponent with
  | some (negativeExponent, digits) =>
    let e : Int := Text.digitsValue digits
    if exponentLimit < e then
      if m ≠ 0 ∧ ¬negativeExponent then none else some (signed l.negative (.zero false))
    else
      let k := if negativeExponent then shift - e else shift + e
      signed l.negative <$> scaled? m (max (-exponentLimit - 1) (min exponentLimit k))
  | none =>
    if l.places ≠ [] ∨ surplus ≠ [] then signed l.negative <$> scaled? m shift
    else if ¬l.negative then some (integer n)
    else if 0 < n ∧ n ≤ Nat.pow 2 63 then some (integer (-n))
    else signed true <$> Binary64.ofQuotient? false n 1

/-- The decimal `c * 10 ^ k` in scientific notation. -/
def scientific (c : Nat) (k : Int) : Text :=
  let digits := Text.natural c
  let places := digits.drop 1
  digits.take 1 ++ (if places.isEmpty then [] else '.' :: places)
    ++ 'e' :: Text.integer (places.length + k)

/-- The decimal `c * 10 ^ k` as it is written. -/
def decimalText (c : Nat) (k : Int) : Text :=
  let width : Int := (Text.natural c).length + k
  if 16 < width ∨ width ≤ -5 then scientific c k
  else if 0 ≤ k then Binary64.positional c k ++ ".0".toList
  else Binary64.positional c k

/-- The text of a number. -/
def text : Number → Text
  | integer n => Text.integer n
  | decimal x =>
    let (c, k) := if x.mantissa = 0 then (0, 0) else x.shortest .even
    if x.negative then '-' :: decimalText c k else decimalText c k

theorem absorb_nil (n : Nat) : absorb n [] = (n, []) := rfl

theorem absorb_lt {n : Nat} (h : n < Nat.pow 2 64) (t : Text) : (absorb n t).1 < Nat.pow 2 64 := by
  induction t generalizing n with
  | nil => exact h
  | cons c cs ih =>
    rw [absorb]
    split
    · exact h
    · split
      · next hlt => exact ih hlt
      · exact h

theorem suffix_absorb (n : Nat) (t : Text) : (absorb n t).2 <:+ t := by
  induction t generalizing n with
  | nil => exact List.suffix_rfl
  | cons c cs ih =>
    rw [absorb]
    split
    · exact List.suffix_rfl
    · split
      · exact (ih _).trans (List.suffix_cons c cs)
      · exact List.suffix_rfl

end Number

end MailMerge.Json
