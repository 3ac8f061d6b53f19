import MailMerge.Text.Reader
import MailMerge.Uuid

/-!
# Quoted texts

A text in a settings file stands in double or in single quotation marks, one or
three of either. Within three marks it may have several lines, and an end of
line right behind the opening marks is passed over. Within double marks a
backslash escapes a character; at the end of a line it joins the line to the
text on the next.

Main facts:

* `suffix_of_quoted`: what is left behind a quoted text is the end of the text in
  which it stands.
-/

namespace MailMerge.Toml

/-- Whether a character may stand in a text or in a comment as it is. -/
def isOrdinary (c : Char) : Bool :=
  c = '\t' || (32 ≤ c.toNat && c.toNat ≠ 127)

/-- Whether a character is a blank within a line. -/
def isSpace (c : Char) : Bool :=
  c = ' ' || c = '\t'

/-- The width of an end of line at the head of a text; zero when there is none. -/
def lineEndWidth : Text → Nat
  | '\n' :: _ => 1
  | '\r' :: '\n' :: _ => 2
  | _ => 0

/-- A piece of a quoted text: what it stands for, how many characters it has, and whether
it closes the text. -/
structure Segment where
  content : Text
  width : Nat
  closes : Bool
deriving DecidableEq, Repr

/-- How many characters a text has at its head that are blanks or ends of lines; `skip`
characters belong to an end of line that has been counted. -/
def gapWidth : Nat → Text → Nat
  | _, [] => 0
  | skip + 1, _ :: cs => gapWidth skip cs
  | 0, c :: cs =>
    let width := if isSpace c then 1 else lineEndWidth (c :: cs)
    if width = 0 then 0 else width + gapWidth (width - 1) cs

/-- The character of a number that is written in hexadecimal digits. -/
def numbered? (digits : Text) : Option Char := do
  let n ← Uuid.readHex? digits
  if h : n.isValidChar then return Char.ofNatAux n h else none

/-- The segment behind a backslash. -/
def escaped? : Text → Option Segment
  | [] => none
  | c :: rest =>
    let plain (d : Char) : Option Segment := some ⟨[d], 2, false⟩
    let coded (width : Nat) : Option Segment :=
      if (rest.take width).length = width then
        (numbered? (rest.take width)).map fun d => ⟨[d], width + 2, false⟩
      else none
    if c = 'b' then plain '\x08'
    else if c = 't' then plain '\t'
    else if c = 'n' then plain '\n'
    else if c = 'f' then plain '\x0c'
    else if c = 'r' then plain '\r'
    else if c = '\x22' then plain '\x22'
    else if c = '\\' then plain '\\'
    else if c = 'u' then coded 4
    else if c = 'U' then coded 8
    else none

/-- The segment behind a backslash, in a text of several lines. -/
def escapedInLines? (t : Text) : Option Segment :=
  let spaces := (t.takeWhile isSpace).length
  if lineEndWidth (t.drop spaces) = 0 then escaped? t
  else some ⟨[], 1 + gapWidth 0 t, false⟩

/-- A character that stands for itself. -/
def ordinary? (c : Char) : Option Segment :=
  if isOrdinary c then some ⟨[c], 1, false⟩ else none

/-- The segment at the head of a text between single marks of a kind. -/
def inLine? (mark : Char) (escape : Text → Option Segment) : Text → Option Segment
  | [] => none
  | c :: rest =>
    if c = mark then some ⟨[], 1, true⟩
    else if c = '\\' && mark = '\x22' then escape rest
    else ordinary? c

/-- The segment at the head of a text between triple marks of a kind; up to two more
marks may stand in front of the closing ones. -/
def inLines? (mark : Char) (escape : Text → Option Segment) (t : Text) : Option Segment :=
  let marks := min 5 (t.takeWhile (· = mark)).length
  if 3 ≤ marks then some ⟨List.replicate (marks - 3) mark, marks, true⟩
  else
    match lineEndWidth t, t with
    | _ + 1, _ => some ⟨['\n'], lineEndWidth t, false⟩
    | 0, c :: rest =>
      if c = '\\' && mark = '\x22' then escape rest
      else if c = mark then some ⟨[c], 1, false⟩
      else ordinary? c
    | 0, [] => none

/-- The content of a quoted text behind its opening marks, and what stands behind its
closing ones; `skip` characters belong to a segment that has been taken. -/
def readBody (segment? : Text → Option Segment) : Nat → Text → Option (Text × Text)
  | _, [] => none
  | skip + 1, _ :: cs => readBody segment? skip cs
  | 0, c :: cs =>
    match segment? (c :: cs) with
    | none => none
    | some s =>
      if s.closes then some (s.content, (c :: cs).drop s.width)
      else (readBody segment? (s.width - 1) cs).map fun (t, rest) => (s.content ++ t, rest)

/-- A quoted text of one line. -/
def quotedLine : Reader Text := fun t =>
  match t with
  | '\x22' :: rest => readBody (inLine? '\x22' escaped?) 0 rest
  | '\x27' :: rest => readBody (inLine? '\x27' escaped?) 0 rest
  | _ => none

/-- A quoted text of any kind. -/
def quoted : Reader Text := fun t =>
  match t with
  | '\x22' :: '\x22' :: '\x22' :: rest =>
    readBody (inLines? '\x22' escapedInLines?) 0 (rest.drop (lineEndWidth rest))
  | '\x27' :: '\x27' :: '\x27' :: rest =>
    readBody (inLines? '\x27' escapedInLines?) 0 (rest.drop (lineEndWidth rest))
  | _ => quotedLine t

theorem suffix_of_readBody {segment? : Text → Option Segment} {skip : Nat}
    {t content rest : Text} (h : readBody segment? skip t = some (content, rest)) :
    rest <:+ t := by
  induction t generalizing skip content with
  | nil => cases skip <;> cases h
  | cons c cs ih =>
    cases skip with
    | succ skip => exact (ih h).trans (List.suffix_cons c cs)
    | zero =>
      rw [readBody] at h
      split at h
      · cases h
      · next s _ =>
        split at h
        · cases h
          exact List.drop_suffix s.width (c :: cs)
        · simp only [Option.map_eq_some_iff] at h
          obtain ⟨⟨inner, rest'⟩, hinner, hpair⟩ := h
          cases hpair
          exact (ih hinner).trans (List.suffix_cons c cs)

theorem suffix_of_quotedLine {t content rest : Text} (h : quotedLine t = some (content, rest)) :
    rest <:+ t := by
  unfold quotedLine at h
  split at h
  · exact (suffix_of_readBody h).trans (List.suffix_cons _ _)
  · exact (suffix_of_readBody h).trans (List.suffix_cons _ _)
  · cases h

theorem suffix_of_quoted {t content rest : Text} (h : quoted t = some (content, rest)) :
    rest <:+ t := by
  have hlines (mark : Char) (segment? : Text → Option Segment) (more : Text)
      (hbody : readBody segment? 0 (more.drop (lineEndWidth more)) = some (content, rest)) :
      rest <:+ mark :: mark :: mark :: more :=
    (suffix_of_readBody hbody).trans
      ((List.drop_suffix _ more).trans (List.suffix_append [mark, mark, mark] more))
  unfold quoted at h
  split at h
  · exact hlines _ _ _ h
  · exact hlines _ _ _ h
  · exact suffix_of_quotedLine h

end MailMerge.Toml
