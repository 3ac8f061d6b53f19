import MailMerge.Text.Basic

/-!
# Identifiers of 128 bits

An identifier is written as 32 hexadecimal digits in five groups. It is read
in that form, without the hyphens, in braces, or as a name of the scheme
`urn:uuid:`; the digits may have either case.

Main facts:

* `hexDigits_length`: the number of digits does not depend on the value;
* `length_text`: a written identifier has 36 characters.
-/

namespace MailMerge

/-- An identifier of 128 bits. -/
structure Uuid where
  bits : BitVec 128
deriving DecidableEq

namespace Uuid

instance : Inhabited Uuid := ⟨⟨0⟩⟩

/-- The identifier with no bit set. -/
def zero : Uuid := ⟨0⟩

/-- The hexadecimal digit of a number below sixteen. -/
def hexDigit (d : Nat) : Char :=
  if d < 10 then Char.ofNat (48 + d) else Char.ofNat (87 + d)

/-- The last `width` hexadecimal digits of a number. -/
def hexDigits : Nat → Nat → Text
  | 0, _ => []
  | width + 1, n => hexDigits width (n / 16) ++ [hexDigit (n % 16)]

/-- The value of a hexadecimal digit of either case. -/
def hexValue? (c : Char) : Option Nat :=
  if '0' ≤ c ∧ c ≤ '9' then some (c.toNat - 48)
  else if 'a' ≤ c ∧ c ≤ 'f' then some (c.toNat - 87)
  else if 'A' ≤ c ∧ c ≤ 'F' then some (c.toNat - 55)
  else none

/-- The number that hexadecimal digits stand for. -/
def readHex? (t : Text) : Option Nat :=
  (t.mapM hexValue?).map fun ds => ds.foldl (fun n d => 16 * n + d) 0

/-- Five groups of digits, with hyphens between them, in lower case. -/
def text (u : Uuid) : Text :=
  let digits := hexDigits 32 u.bits.toNat
  digits.take 8 ++ '-' :: (digits.drop 8).take 4 ++ '-' :: (digits.drop 12).take 4
    ++ '-' :: (digits.drop 16).take 4 ++ '-' :: digits.drop 20

/-- Reads 32 digits. -/
def readDigits? (t : Text) : Option Uuid :=
  if t.length = 32 then (readHex? t).map fun n => ⟨BitVec.ofNat 128 n⟩ else none

/-- Reads five groups of 8, 4, 4, 4 and 12 digits with hyphens between them. -/
def readGroups? (t : Text) : Option Uuid :=
  let groups := Text.fields '-' t
  if groups.map List.length = [8, 4, 4, 4, 12] then readDigits? groups.flatten else none

/-- Reads an identifier in any of its four forms. -/
def read? (t : Text) : Option Uuid :=
  if t.length = 32 then readDigits? t
  else if t.length = 36 then readGroups? t
  else if t.length = 38 then
    if t.head? = some '\x7b' ∧ t.getLast? = some '\x7d' then readGroups? (t.drop 1).dropLast
    else none
  else if t.length = 45 then
    if Text.sameLetters (t.take 9) "urn:uuid:".toList then readGroups? (t.drop 9) else none
  else none

theorem hexDigits_length (width n : Nat) : (hexDigits width n).length = width := by
  induction width generalizing n with
  | zero => rfl
  | succ w ih => simp [hexDigits, ih]

theorem length_text (u : Uuid) : u.text.length = 36 := by
  simp [text, hexDigits_length]

end Uuid

end MailMerge
