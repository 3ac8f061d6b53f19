import MailMerge.Text.Basic

/-!
# Readers

A reader takes something from the front of a text and leaves the rest, or finds
nothing to take. Small readers are put together to read dates and settings.

Main facts:

* `run_char`: a character is taken when it stands in front;
* `run_word`: a word is taken when the text starts with it;
* `bind_eq_some_iff`: of two readers the second one takes from what the first one leaves.
-/

namespace MailMerge

/-- A reader takes something from the front of a text and leaves the rest. -/
abbrev Reader := StateT Text Option

namespace Reader

/-- From `least` up to `most` decimal digits, as a number. -/
def number (least most : Nat) : Reader Nat := fun t =>
  let digits := (t.take most).takeWhile Text.isDigit
  if digits.length < least then none else some (Text.digitsValue digits, t.drop digits.length)

/-- One character. -/
def char (c : Char) : Reader Unit := fun t =>
  match t with
  | d :: rest => if d = c then some ((), rest) else none
  | [] => none

/-- One character out of several. -/
def oneOf (cs : List Char) : Reader Unit := fun t =>
  match t with
  | d :: rest => if d ∈ cs then some ((), rest) else none
  | [] => none

/-- One word. -/
def word (w : Text) : Reader Unit := fun t =>
  (Text.dropMark? w t).map fun rest => ((), rest)

/-- All characters of a class that stand in front. -/
def takeWhile (p : Char → Bool) : Reader Text := fun t =>
  some (t.takeWhile p, t.dropWhile p)

/-- One or more characters of a class. -/
def takeSome (p : Char → Bool) : Reader Text := fun t =>
  if (t.takeWhile p).isEmpty then none else some (t.takeWhile p, t.dropWhile p)

/-- Passes over all characters of a class that stand in front. -/
def skipWhile (p : Char → Bool) : Reader Unit := fun t =>
  some ((), t.dropWhile p)

/-- Any blanks. -/
def blanks : Reader Unit :=
  skipWhile Text.isBlank

/-- Nothing but the end of the text. -/
def finish : Reader Unit := fun t =>
  if t.isEmpty then some ((), []) else none

/-- What a reader makes of a whole text. -/
def whole {α : Type} (r : Reader α) (t : Text) : Option α :=
  match r t with
  | some (a, []) => some a
  | _ => none

theorem run_char (c : Char) (t : Text) : char c (c :: t) = some ((), t) := by
  simp [char]

theorem run_word (w t : Text) : word w (w ++ t) = some ((), t) := by
  simp [word, Text.dropMark?_append]

theorem bind_eq_some_iff {α β : Type} {r : Reader α} {f : α → Reader β} {t : Text}
    {b : β × Text} :
    (r >>= f) t = some b ↔ ∃ a rest, r t = some (a, rest) ∧ f a rest = some b := by
  simp [bind, StateT.bind, Option.bind_eq_some_iff]

theorem pure_eq_some_iff {α : Type} {a : α} {t : Text} {b : α × Text} :
    (pure a : Reader α) t = some b ↔ b = (a, t) := by
  show some (a, t) = some b ↔ b = (a, t)
  rw [Option.some.injEq, eq_comm]

theorem whole_eq_some_iff {α : Type} {r : Reader α} {t : Text} {a : α} :
    whole r t = some a ↔ r t = some (a, []) := by
  unfold whole
  split
  · next b h => simp [h]
  · next h => simpa using h a

end Reader

end MailMerge
