/-!
# Floating point numbers of 64 bits

The finite numbers of the binary format with 53 significant bits, as exact
values `± mantissa * 2 ^ exponent`. The library only reads, compares and
writes such numbers; the arithmetic it needs is rounding a quotient of two
natural numbers to the nearest of them, a tie going to the even mantissa.
Infinities and what is no number are added to them elsewhere.

Main facts:

* `same_refl`, `same_comm`: equality of values is reflexive and symmetric.
-/

namespace MailMerge

/-- A finite floating point number, `± mantissa * 2 ^ exponent`. -/
structure Binary64 where
  negative : Bool
  mantissa : Nat
  exponent : Int
deriving DecidableEq, Repr

namespace Binary64

instance : Inhabited Binary64 := ⟨⟨false, 0, -1074⟩⟩

/-- The least exponent. -/
def leastExponent : Int := -1074

/-- The greatest exponent. -/
def greatestExponent : Int := 971

/-- The nearest integer to `num / den`, the even one of two that are as near. -/
def roundQuotient (num den : Nat) : Nat :=
  let q := num / den
  let r := num % den
  if 2 * r < den then q else if den < 2 * r then q + 1 else if q % 2 = 0 then q else q + 1

/-- The quotient `num / den` in units of `2 ^ e`, as a fraction. -/
def scale (num den : Nat) (e : Int) : Nat × Nat :=
  match e with
  | .ofNat k => (num, den * Nat.pow 2 k)
  | .negSucc k => (num * Nat.pow 2 (k + 1), den)

/-- The exponent at which `num / den` has 53 bits before the point, or the least
exponent if it is smaller than that. -/
def exponentOf (num den : Nat) : Int :=
  let guess : Int := (Nat.log2 num : Int) - Nat.log2 den - 52
  let (n, d) := scale num den guess
  max leastExponent (if n / d < Nat.pow 2 52 then guess - 1 else guess)

/-- The magnitude nearest to `num / den`; none when it is too large. -/
def round (num den : Nat) : Option (Nat × Int) :=
  if num = 0 then some (0, leastExponent)
  else
    let e := exponentOf num den
    let (n, d) := scale num den e
    let m := roundQuotient n d
    let (m, e) := if m = Nat.pow 2 53 then (Nat.pow 2 52, e + 1) else (m, e)
    if greatestExponent < e then none else some (m, e)

/-- Zero, with a sign. -/
def zero (negative : Bool) : Binary64 := ⟨negative, 0, leastExponent⟩

/-- The number nearest to `± num / den`; none when it is too large. -/
def ofQuotient? (negative : Bool) (num den : Nat) : Option Binary64 :=
  (round num den).map fun (m, e) => ⟨negative, m, e⟩

/-- The magnitude as a fraction. -/
def fraction (x : Binary64) : Nat × Nat :=
  match x.exponent with
  | .ofNat k => (x.mantissa * Nat.pow 2 k, 1)
  | .negSucc k => (x.mantissa, Nat.pow 2 (k + 1))

/-- Equality of values: both zeros are equal. -/
def same (x y : Binary64) : Bool :=
  x = y ∨ (x.mantissa = 0 ∧ y.mantissa = 0)

/-- The number multiplied by the one nearest to `10 ^ k`. -/
def mulPowerOfTen? (x : Binary64) (k : Nat) : Option Binary64 := do
  let (m, e) ← round (Nat.pow 10 k) 1
  let (n, d) := x.fraction
  let (n', d') := fraction ⟨false, m, e⟩
  ofQuotient? x.negative (n * n') (d * d')

/-- The number divided by the one nearest to `10 ^ k`. -/
def divPowerOfTen? (x : Binary64) (k : Nat) : Option Binary64 := do
  let (m, e) ← round (Nat.pow 10 k) 1
  let (n, d) := x.fraction
  let (n', d') := fraction ⟨false, m, e⟩
  ofQuotient? x.negative (n * d') (d * n')

theorem same_refl (x : Binary64) : same x x = true := by simp [same]

theorem same_comm (x y : Binary64) : same x y = same y x := by
  simp only [same, eq_comm (a := x), and_comm (a := x.mantissa = 0)]

end Binary64

end MailMerge
