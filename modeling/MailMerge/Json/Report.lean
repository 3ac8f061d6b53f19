import MailMerge.Text.Reader

/-!
# Reports of faulty documents

When a document cannot be decoded it is reported why, and where if that is known:
at a line, counted from one, and a column. The position stands at the end of the
text of a report. One whose line is zero is no position and is not shown.

Main facts:

* `text_ofText_of_no_mark`: a text without a position is left as it is.
-/

namespace MailMerge.Json

/-- Why a document cannot be decoded, and where; the line is zero when it is not known. -/
structure Report where
  cause : Text
  line : Nat
  column : Nat
deriving DecidableEq, Repr

namespace Report

/-- What stands in front of the line of a position. -/
def lineMark : Text := " at line ".toList

/-- What stands in front of the column of a position. -/
def columnMark : Text := " column ".toList

/-- A number that fits 64 bits. -/
def count : Reader Nat := do
  let n := Text.digitsValue (← Reader.takeSome Text.isDigit)
  if n < Nat.pow 2 64 then return n else failure

/-- The line and the column of a position. -/
def position : Reader (Nat × Nat) := do
  let line ← count
  Reader.word columnMark
  return (line, ← count)

/-- A text in front of the last mark in it, and what stands behind the mark. -/
def splitAtLast (mark t : Text) : Option (Text × Text) :=
  (Text.splitAtMark mark.reverse t.reverse).map fun (back, front) => (front.reverse, back.reverse)

/-- The report that a text spells. -/
def ofText (t : Text) : Report :=
  match splitAtLast lineMark t with
  | none => ⟨t, 0, 0⟩
  | some (cause, rest) =>
    match Reader.whole position rest with
    | some (line, column) => ⟨cause, line, column⟩
    | none => ⟨t, 0, 0⟩

/-- The text of a report. -/
def text (r : Report) : Text :=
  if r.line = 0 then r.cause
  else r.cause ++ lineMark ++ Text.natural r.line ++ columnMark ++ Text.natural r.column

theorem text_ofText_of_no_mark {t : Text} (h : splitAtLast lineMark t = none) :
    (ofText t).text = t := by
  simp [ofText, h, text]

end Report

end MailMerge.Json
