import MailMerge.Calendar.Date
import MailMerge.Settings.Value
import MailMerge.Toml.Quoted

/-!
# Plain values in settings files

A plain value is a truth value, an integer, a number, a date or a time, or a
quoted text. Between the digits of a number low lines may stand. An integer has
64 bits and may be written in hexadecimal, octal or binary digits. A date or a
time is kept as a text in its usual form.

A date that a text spells may be looser than one that stands by itself: the day may
end with the hour 24, and a zone may have more than 59 minutes.

Main facts:

* `digits?_eq_some`: the digits of a number are of its class, and there are some;
* `mem_of_integer?`: an integer fits 64 bits, in whatever base it is written.
-/

namespace MailMerge.Toml

/-- A plain value. -/
inductive Scalar where
  | truth (b : Bool)
  | integer (n : Int)
  | real (x : Extended)
  | text (t : Text)
  /-- A date or a time, in its usual form. -/
  | moment (t : Text)

/-- Digits of a class with low lines between them, without the low lines. -/
def digits? (p : Char → Bool) (t : Text) : Option Text :=
  let groups := Text.fields '_' t
  if groups.all fun g => !g.isEmpty && g.all p then some groups.flatten else none

/-- Decimal digits without a zero in front of others. -/
def wholeDigits? (t : Text) : Option Text := do
  let ds ← digits? Text.isDigit t
  if ds.head? = some '0' && ds.length ≠ 1 then none else some ds

/-- An integer that fits 64 bits. -/
def fitting? (n : Int) : Option Int :=
  if Setting.leastInteger ≤ n ∧ n ≤ Setting.greatestInteger then some n else none

/-- Digits of another base than ten. -/
def based? (base : Nat) (t : Text) : Option Int := do
  let value? (c : Char) : Option Nat := (Uuid.hexValue? c).filter (· < base)
  let ds ← digits? (fun c => (value? c).isSome) t
  fitting? ((ds.filterMap value?).foldl (fun n d => base * n + d) 0 : Nat)

/-- An integer. -/
def integer? (t : Text) : Option Int :=
  match t with
  | '0' :: 'x' :: rest => based? 16 rest
  | '0' :: 'o' :: rest => based? 8 rest
  | '0' :: 'b' :: rest => based? 2 rest
  | _ => do
    let (negative, magnitude) := Extended.splitSign t
    let n := Text.digitsValue (← wholeDigits? magnitude)
    fitting? (if negative then -(n : Int) else n)

/-- The exponent of a number; none when there is nothing that could be one. -/
def exponent? : Text → Option Int
  | [] => some 0
  | _ :: rest => do
    let (negative, t) := Extended.splitSign rest
    let n := Text.digitsValue (← digits? Text.isDigit t)
    return if negative then -(n : Int) else n

/-- A number with a point or an exponent. -/
def pointed? (negative : Bool) (t : Text) : Option Extended := do
  let isEnd (c : Char) : Bool := c = '.' || c = 'e' || c = 'E'
  let whole ← wholeDigits? (t.takeWhile (!isEnd ·))
  let rest := t.dropWhile (!isEnd ·)
  let (places, rest) ←
    match rest with
    | [] => none
    | '.' :: more => do
      let ds ← digits? Text.isDigit (more.takeWhile (!isEnd ·))
      pure (ds, more.dropWhile (!isEnd ·))
    | _ => some ([], rest)
  if rest.head? = some '.' then none
  else return .ofDigits negative whole places (← exponent? rest)

/-- A number. One that is too large is no number, but one that is too small is the
negative infinity. -/
def real? (t : Text) : Option Extended :=
  let (negative, magnitude) := Extended.splitSign t
  if magnitude = "inf".toList then some (.infinite negative)
  else if magnitude = "nan".toList then some .nan
  else (pointed? negative magnitude).filter (· ≠ .infinite false)

/-- A day. -/
def day : Reader Text := do
  let y ← Reader.number 4 4
  Reader.char '-'
  let m ← Reader.number 2 2
  Reader.char '-'
  let d ← Reader.number 2 2
  if Calendar.Date.valid ⟨(y : Nat), m, d⟩ then
    return Text.padded 4 y ++ '-' :: Text.padded 2 m ++ '-' :: Text.padded 2 d
  else failure

/-- The digits of a part of a second behind its point, without zeros at the end. -/
def partOfSecond : Reader Text := do
  match ← get with
  | '.' :: rest =>
    set rest
    let ds ← Reader.takeSome Text.isDigit
    let kept := Text.dropEndWhile (· = '0') (ds.take 9)
    return if kept.isEmpty then [] else '.' :: kept
  | _ => return []

/-- A time of day. -/
def time (loose : Bool) : Reader Text := do
  let h ← Reader.number 2 2
  Reader.char ':'
  let m ← Reader.number 2 2
  Reader.char ':'
  let s ← Reader.number 2 2
  let part ← partOfSecond
  if h < (if loose then 25 else 24) ∧ m < 60 ∧ s ≤ 60 then
    return Text.padded 2 h ++ ':' :: Text.padded 2 m ++ ':' :: Text.padded 2 s ++ part
  else failure

/-- The distance of a zone from universal time; nothing when no zone is given. -/
def zone (loose : Bool) : Reader Text := do
  match ← get with
  | 'Z' :: rest => set rest; return ['Z']
  | 'z' :: rest => set rest; return ['Z']
  | '+' :: rest => set rest; distance '+'
  | '-' :: rest => set rest; distance '-'
  | _ => return []
where
  distance (sign : Char) : Reader Text := do
    let h ← Reader.number 2 2
    Reader.char ':'
    let m ← Reader.number 2 2
    let minutes := 60 * h + m
    if if loose then minutes ≤ 1440 else h < 24 ∧ m < 60 then
      let sign := if minutes = 0 then '+' else sign
      return sign :: Text.padded 2 (minutes / 60) ++ ':' :: Text.padded 2 (minutes % 60)
    else failure

/-- A day with a time and perhaps a zone. -/
def dayAndTime (loose : Bool) : Reader Text := do
  let d ← day
  Reader.oneOf ['T', 't', ' ']
  let t ← time loose
  let z ← zone loose
  return d ++ 'T' :: t ++ z

/-- A date or a time. -/
def dateOf? (loose : Bool) (t : Text) : Option Text :=
  Reader.whole (dayAndTime loose) t <|> Reader.whole day t <|> Reader.whole (time loose) t

/-- A date or a time that stands by itself. -/
def date? : Text → Option Text :=
  dateOf? false

/-- A date or a time that a text spells. -/
def spelledMoment? : Text → Option Text :=
  dateOf? true

/-- The plain value that a text without quotation marks spells. -/
def plain? (t : Text) : Option Scalar :=
  if t = "true".toList then some (.truth true)
  else if t = "false".toList then some (.truth false)
  else
    (integer? t).map .integer <|> (real? t).map .real <|> (date? t).map .moment

/-- Whether a character may stand in a plain value without quotation marks. -/
def isPlainChar (c : Char) : Bool :=
  c ∉ [' ', '\t', '\n', '\r', ',', ']', '\x7d', '#']

/-- The text of a plain value without quotation marks; between a day and a time a blank
may stand. -/
def plainText : Reader Text := do
  let first ← Reader.takeSome isPlainChar
  match ← get with
  | ' ' :: c :: rest =>
    if (Reader.whole day first).isSome && Text.isDigit c then
      set (c :: rest)
      let second ← Reader.takeSome isPlainChar
      return first ++ ' ' :: second
    else return first
  | _ => return first

/-- A plain value. -/
def scalar : Reader Scalar := do
  match ← get with
  | '\x22' :: _ => .text <$> quoted
  | '\x27' :: _ => .text <$> quoted
  | _ =>
    let t ← plainText
    match plain? t with
    | some s => return s
    | none => failure

theorem digits?_eq_some {p : Char → Bool} {t ds : Text} (h : digits? p t = some ds) :
    ds ≠ [] ∧ ∀ c ∈ ds, p c = true := by
  unfold digits? at h
  dsimp only at h
  split at h
  · next hall =>
    cases h
    simp only [List.all_eq_true, Bool.and_eq_true, Bool.not_eq_true', List.isEmpty_eq_false_iff]
      at hall
    constructor
    · intro hnil
      obtain ⟨g, hg⟩ := List.exists_mem_of_ne_nil _ (Text.fields_ne_nil '_' t)
      exact (hall g hg).1 (List.flatten_eq_nil_iff.1 hnil g hg)
    · intro c hc
      obtain ⟨g, hg, hcg⟩ := List.mem_flatten.1 hc
      exact (hall g hg).2 c hcg
  · cases h

theorem mem_of_fitting? {i n : Int} (h : fitting? i = some n) :
    Setting.leastInteger ≤ n ∧ n ≤ Setting.greatestInteger := by
  unfold fitting? at h
  split at h
  · next hmem => exact Option.some.inj h ▸ hmem
  · cases h

theorem mem_of_based? {base : Nat} {t : Text} {n : Int} (h : based? base t = some n) :
    Setting.leastInteger ≤ n ∧ n ≤ Setting.greatestInteger := by
  obtain ⟨ds, -, hfitting⟩ := Option.bind_eq_some_iff.1 h
  exact mem_of_fitting? hfitting

theorem mem_of_integer? {t : Text} {n : Int} (h : integer? t = some n) :
    Setting.leastInteger ≤ n ∧ n ≤ Setting.greatestInteger := by
  unfold integer? at h
  split at h
  · exact mem_of_based? h
  · exact mem_of_based? h
  · exact mem_of_based? h
  · obtain ⟨ds, -, hfitting⟩ := Option.bind_eq_some_iff.1 h
    exact mem_of_fitting? hfitting

end MailMerge.Toml
