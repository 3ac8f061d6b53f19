import MailMerge.Json.Number
import MailMerge.Uuid

/-!
# Tokens of a document

A document is read as a row of tokens, with blanks between them. A text that is
no token ends the row with a fault.

A string may spell half of a surrogate pair without the other half. Such a
string is a token, but no text.

Main facts:

* `textOfUnits_map_char`: characters that stand for themselves are the text.
-/

namespace MailMerge.Json

/-- A token of a document. -/
inductive Token where
  | openBracket
  | closeBracket
  | openBrace
  | closeBrace
  | comma
  | colon
  | null
  | bool (b : Bool)
  /-- A number; none when it is too large. -/
  | number (n : Option Number)
  /-- A string; `whole` when it spells no half of a pair alone. -/
  | string (t : Text) (whole : Bool)
  | fault
deriving DecidableEq, Repr

namespace Token

/-- A piece of a string: a character, or a unit of 16 bits that is spelled by its
number. -/
inductive StringUnit where
  | char (c : Char)
  | code (n : Nat)
deriving DecidableEq, Repr

/-- What a string spells, and whether it is a text: two units that form a surrogate
pair are one character. -/
def textOfUnits : List StringUnit → Text × Bool
  | [] => ([], true)
  | .char c :: rest =>
    let (t, whole) := textOfUnits rest
    (c :: t, whole)
  | .code high :: .code low :: rest =>
    if 0xd800 ≤ high ∧ high < 0xdc00 ∧ 0xdc00 ≤ low ∧ low < 0xe000 then
      let (t, whole) := textOfUnits rest
      (Char.ofNat (0x10000 + (high - 0xd800) * 0x400 + (low - 0xdc00)) :: t, whole)
    else
      let (t, whole) := textOfUnits (.code low :: rest)
      if 0xd800 ≤ high ∧ high < 0xe000 then (t, false) else (Char.ofNat high :: t, whole)
  | .code n :: rest =>
    let (t, whole) := textOfUnits rest
    if 0xd800 ≤ n ∧ n < 0xe000 then (t, false) else (Char.ofNat n :: t, whole)

/-- The character that a letter behind a backslash stands for. -/
def escaped? (c : Char) : Option Char :=
  if c = '\x22' then some '\x22'
  else if c = '\\' then some '\\'
  else if c = '/' then some '/'
  else if c = 'b' then some '\x08'
  else if c = 'f' then some '\x0c'
  else if c = 'n' then some '\n'
  else if c = 'r' then some '\r'
  else if c = 't' then some '\t'
  else none

/-- The unit that is spelled behind a backslash, and the number of its characters. -/
def escape? : Text → Option (StringUnit × Nat)
  | [] => none
  | c :: rest =>
    if c = 'u' then
      if (rest.take 4).length = 4 then
        (Uuid.readHex? (rest.take 4)).map fun n => (.code n, 5)
      else none
    else (escaped? c).map fun e => (.char e, 1)

/-- The units of a string up to its closing mark, and the number of characters up to and
including that mark; `skip` characters belong to a unit that has been taken. -/
def stringUnits : Nat → Text → Option (List StringUnit × Nat)
  | _, [] => none
  | skip + 1, _ :: cs => (stringUnits skip cs).map fun (us, n) => (us, n + 1)
  | 0, c :: cs =>
    if c = '\x22' then some ([], 1)
    else if c = '\\' then
      match escape? cs with
      | none => none
      | some (u, n) => (stringUnits n cs).map fun (us, k) => (u :: us, k + 1)
    else if c.toNat < 32 then none
    else (stringUnits 0 cs).map fun (us, n) => (.char c :: us, n + 1)

/-- A string behind its opening mark, and the number of its characters. -/
def string? (t : Text) : Option (Token × Nat) :=
  (stringUnits 0 t).map fun (us, n) =>
    let (text, whole) := textOfUnits us
    (string text whole, n)

/-- The sign and the digits of an exponent, with the number of their characters; no
characters when there is no exponent. -/
def exponent? (t : Text) : Option (Option (Bool × Text) × Nat) :=
  match t with
  | [] => some (none, 0)
  | c :: rest =>
    if c = 'e' ∨ c = 'E' then
      let (negative, signWidth) :=
        match rest with
        | '-' :: _ => (true, 1)
        | '+' :: _ => (false, 1)
        | _ => (false, 0)
      let digits := (rest.drop signWidth).takeWhile Text.isDigit
      if digits.isEmpty then none
      else some (some (negative, digits), 1 + signWidth + digits.length)
    else some (none, 0)

/-- The digits behind a point, with the number of characters; no characters when there
is no point. -/
def places? (t : Text) : Option (Text × Nat) :=
  match t with
  | '.' :: rest =>
    let digits := rest.takeWhile Text.isDigit
    if digits.isEmpty then none else some (digits, 1 + digits.length)
  | _ => some ([], 0)

/-- A number at the head of a text, and the number of its characters. -/
def number? (t : Text) : Option (Token × Nat) := do
  let (negative, signWidth) :=
    match t with
    | '-' :: _ => (true, 1)
    | _ => (false, 0)
  let rest := t.drop signWidth
  let whole := rest.takeWhile Text.isDigit
  if whole.isEmpty ∨ (whole.head? = some '0' ∧ whole.length ≠ 1) then none
  else
    let rest := rest.drop whole.length
    let (places, placesWidth) ← places? rest
    let (exponent, exponentWidth) ← exponent? (rest.drop placesWidth)
    let width := signWidth + whole.length + placesWidth + exponentWidth
    return (number (Number.ofLiteral ⟨negative, whole, places, exponent⟩), width)

/-- A word at the head of a text. -/
def word? (word : Text) (token : Token) (t : Text) : Option (Token × Nat) :=
  if Text.startsWith word t then some (token, word.length) else none

/-- The token at the head of a text, and the number of its characters. -/
def read? : Text → Option (Token × Nat)
  | [] => none
  | c :: cs =>
    if c = '[' then some (openBracket, 1)
    else if c = ']' then some (closeBracket, 1)
    else if c = '\x7b' then some (openBrace, 1)
    else if c = '\x7d' then some (closeBrace, 1)
    else if c = ',' then some (comma, 1)
    else if c = ':' then some (colon, 1)
    else if c = '\x22' then (string? cs).map fun (token, n) => (token, n + 1)
    else if c = 'n' then word? "null".toList null (c :: cs)
    else if c = 't' then word? "true".toList (bool true) (c :: cs)
    else if c = 'f' then word? "false".toList (bool false) (c :: cs)
    else number? (c :: cs)

/-- Whether a character may stand between tokens. -/
def isSpace (c : Char) : Bool :=
  c = ' ' || c = '\n' || c = '\t' || c = '\r'

/-- The tokens of a text after the next `skip` characters, which belong to a token that
has been listed already. -/
def tokensFrom : Nat → Text → List Token
  | _, [] => []
  | skip + 1, _ :: cs => tokensFrom skip cs
  | 0, c :: cs =>
    if isSpace c then tokensFrom 0 cs
    else
      match read? (c :: cs) with
      | none => [fault]
      | some (token, n) => token :: tokensFrom (n - 1) cs

/-- The tokens of a document. -/
def tokens (t : Text) : List Token :=
  tokensFrom 0 t

theorem textOfUnits_map_char (t : Text) : textOfUnits (t.map .char) = (t, true) := by
  induction t with
  | nil => rfl
  | cons c cs ih => simp [textOfUnits, ih]

end Token

end MailMerge.Json
