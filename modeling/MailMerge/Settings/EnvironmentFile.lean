import MailMerge.Settings.Environment
import MailMerge.Text.Alphanumeric

/-!
# Files of variables

A file may hold more variables for the environment, one to a line: a name, an
equals sign and a value, with `export` in front if one likes. A variable that
is already there keeps its value. The first faulty line ends the file; what was
set before stays set.

A value may stand in quotation marks, across several lines if need be. Outside
of single quotation marks a backslash escapes a character, and a dollar sign
stands in front of the name of a variable, which may be put in braces, and is
replaced by its value. Behind a blank a comment may follow.

Main facts:

* `get?_load_of_known`: a variable that is already there keeps its value, whatever
  the file holds.
-/

namespace MailMerge.EnvironmentFile

/-- What surrounds a character when lines are put together. -/
inductive Surrounding where
  | plain
  | blank
  | escape
  | weak
  | weakEscape
  | strong
  | strongEscape
deriving DecidableEq, Repr

namespace Surrounding

/-- What surrounds the character behind `c`; none when a comment begins with `c`. -/
def next : Surrounding → Char → Option Surrounding
  | plain, c =>
    if Text.isBlank c && c ≠ '\n' && c ≠ '\r' then some blank else some (opened c)
  | blank, c => if c = '#' then none else some (opened c)
  | escape, _ => some plain
  | weak, c => some (if c = '\\' then weakEscape else if c = '\x22' then plain else weak)
  | weakEscape, _ => some weak
  | strong, c => some (if c = '\\' then strongEscape else if c = '\x27' then plain else strong)
  | strongEscape, _ => some strong
where
  opened (c : Char) : Surrounding :=
    if c = '\\' then escape
    else if c = '\x22' then weak
    else if c = '\x27' then strong
    else plain

/-- What surrounds the end of a text, or what stands in front of the comment in it. -/
def through : Surrounding → Text → Surrounding ⊕ Text
  | s, [] => .inl s
  | s, c :: cs =>
    match s.next c with
    | none => .inr []
    | some s' =>
      match through s' cs with
      | .inl last => .inl last
      | .inr front => .inr (c :: front)

end Surrounding

/-- The lines of a text, each with the end of line that it has. -/
def linesOf (t : Text) : List Text :=
  let parts := Text.fields '\n' t
  parts.dropLast.map (· ++ ['\n']) ++ (parts.getLast?.filter (· ≠ [])).toList

/-- The text without the end of line at its end. -/
def withoutEnd (t : Text) : Text :=
  match t.reverse with
  | '\n' :: '\r' :: rest => rest.reverse
  | '\n' :: rest => rest.reverse
  | _ => t

/-- The lines put together where a quotation mark or a backslash is left open; none
stands for one that stays open until the end. `pending` is what has been put
together already. -/
def joined (pending : Text) (s : Surrounding) : List Text → List (Option Text)
  | [] => if s = .plain then [] else [none]
  | line :: rest =>
    if (Text.trimStart (pending ++ line)).head? = some '#' then some [] :: joined [] .plain rest
    else
      match s.through line with
      | .inr front => some (pending ++ front) :: joined [] .plain rest
      | .inl .plain => some (withoutEnd (pending ++ line)) :: joined [] .plain rest
      | .inl s' => joined (pending ++ line) s' rest

/-- How far a value has been read. -/
inductive Stage where
  | plain
  | escape
  | strong
  /-- Behind a dollar sign, with the letters of the name so far. -/
  | name (letters : Text)
  /-- In braces behind a dollar sign, with what they hold so far. -/
  | braced (held : Text)
  /-- Behind the blank at the end of a value. -/
  | ended
  | comment
deriving DecidableEq, Repr

/-- A value that is being read: what it is so far, whether a double quotation mark is
open, and the stage. -/
structure Reading where
  value : Text
  weak : Bool
  stage : Stage
deriving DecidableEq, Repr

namespace Reading

/-- The reading before any character. -/
def start : Reading := ⟨[], false, .plain⟩

/-- The reading with more of the value. -/
def add (r : Reading) (t : Text) : Reading :=
  { r with value := r.value ++ t }

/-- The reading behind a character that nothing stands in front of. -/
def plainStep (r : Reading) (c : Char) : Reading :=
  if c = '$' then { r with stage := .name [] }
  else if c = '\\' then { r with stage := .escape }
  else if r.weak then if c = '\x22' then { r with weak := false } else r.add [c]
  else if c = '\x27' then { r with stage := .strong }
  else if c = '\x22' then { r with weak := true }
  else if c = ' ' || c = '\t' then { r with stage := .ended }
  else r.add [c]

/-- The reading behind one more character; none when it must not stand there. `value`
gives the values of variables. -/
def step (value : Text → Text) (r : Reading) (c : Char) : Option Reading :=
  match r.stage with
  | .plain => some (r.plainStep c)
  | .escape =>
    if c ∈ ['\\', '\x27', '\x22', '$', ' '] then some { r.add [c] with stage := .plain }
    else if c = 'n' then some { r.add ['\n'] with stage := .plain }
    else none
  | .strong => some (if c = '\x27' then { r with stage := .plain } else r.add [c])
  | .name letters =>
    if Text.isAlphanumeric c then some { r with stage := .name (letters ++ [c]) }
    else if c = '\x7b' && letters.isEmpty then some { r with stage := .braced [] }
    else if c = '$' then some { r.add (value letters) with stage := .name [] }
    else some { r.add (value letters ++ [c]) with stage := .plain }
  | .braced held =>
    if c = '\x7d' then some { r.add (value held) with stage := .plain }
    else some { r with stage := .braced (held ++ [c]) }
  | .ended =>
    if c = ' ' || c = '\t' then some r
    else if c = '#' then some { r with stage := .comment }
    else none
  | .comment => some r

/-- The value that has been read at the end of a text; none when something is open. -/
def finish (value : Text → Text) (r : Reading) : Option Text :=
  if r.weak then none
  else
    match r.stage with
    | .strong => none
    | .braced _ => none
    | .name letters => some (r.value ++ value letters)
    | _ => some r.value

end Reading

/-- The value that a text spells; `value` gives the values of variables. -/
def valueOf? (value : Text → Text) (t : Text) : Option Text :=
  (t.foldlM (Reading.step value) Reading.start).bind (Reading.finish value)

/-- Whether a character may stand in the name of a variable. -/
def isNameChar (c : Char) : Bool :=
  c.isAlphanum || c = '_' || c = '.'

/-- A name at the head of a text, and what stands behind it and any blanks. -/
def splitName? (t : Text) : Option (Text × Text) :=
  match t with
  | c :: _ =>
    if c.isAlpha || c = '_' then
      some (t.takeWhile isNameChar, Text.trimStart (t.dropWhile isNameChar))
    else none
  | [] => none

/-- The name of a variable and the text behind the equals sign. -/
def assignment? (t : Text) : Option (Text × Text) := do
  let (name, rest) ← splitName? t
  match rest with
  | '=' :: value => return (name, Text.trimStart value)
  | _ =>
    if name = "export".toList then
      let (name, rest) ← splitName? rest
      match rest with
      | '=' :: value => return (name, Text.trimStart value)
      | _ => none
    else none

/-- The environment with a variable set, unless it is there already. -/
def set (env : Environment) (name value : Text) : Environment :=
  if (env.get? name).isSome then env else Dict.set env name value

/-- The environment behind a line; none when the line is faulty. -/
def loadLine? (env : Environment) (line : Text) : Option Environment :=
  let line := Text.trim line
  if line.isEmpty || line.head? = some '#' then some env
  else do
    let (name, rest) ← assignment? line
    if rest.isEmpty || rest.head? = some '#' then return set env name []
    else
      let value ← valueOf? (fun n => (env.get? n).getD []) rest
      return set env name value

/-- The environment behind lines, up to the first faulty one. -/
def loadLines (env : Environment) : List (Option Text) → Environment
  | [] => env
  | line :: rest =>
    match line.bind (loadLine? env) with
    | some env' => loadLines env' rest
    | none => env

/-- The environment with the variables of a file. -/
def load (env : Environment) (file : Text) : Environment :=
  loadLines env (joined [] .plain (linesOf (Text.withoutOrderMark file)))

section Known

variable {env env' : Environment} {known old : Text}

theorem get?_set_of_known (h : env.get? known = some old) (name value : Text) :
    (set env name value).get? known = some old := by
  unfold set
  split
  · exact h
  · next hname =>
    have hne : name ≠ known := by
      rintro rfl
      simp [h] at hname
    rw [Dict.get?_set, if_neg hne, h]

theorem get?_loadLine?_of_known (h : env.get? known = some old) {line : Text}
    (hline : loadLine? env line = some env') : env'.get? known = some old := by
  simp only [loadLine?] at hline
  split at hline
  · cases hline
    exact h
  · simp only [bind, Option.bind_eq_some_iff] at hline
    obtain ⟨⟨name, rest⟩, -, hset⟩ := hline
    split at hset
    · cases hset
      exact get?_set_of_known h name []
    · obtain ⟨value, -, hset⟩ := Option.bind_eq_some_iff.1 hset
      cases hset
      exact get?_set_of_known h name value

theorem get?_loadLines_of_known (h : env.get? known = some old) (lines : List (Option Text)) :
    (loadLines env lines).get? known = some old := by
  induction lines generalizing env with
  | nil => exact h
  | cons line rest ih =>
    rw [loadLines]
    split
    · next env' hstep =>
      obtain ⟨text, -, hload⟩ := Option.bind_eq_some_iff.1 hstep
      exact ih (get?_loadLine?_of_known h hload)
    · exact h

theorem get?_load_of_known (h : env.get? known = some old) (file : Text) :
    (load env file).get? known = some old :=
  get?_loadLines_of_known h _

end Known

end MailMerge.EnvironmentFile
