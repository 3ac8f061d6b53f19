import MailMerge.Toml.Scalar
import MailMerge.Toml.Tree

/-!
# Settings files

A settings file has one statement to a line: a header in brackets that opens a
table, a header in double brackets that opens a row, or a name with a value. A
value may be a list in brackets, over several lines if need be, or a table in
braces. A number sign starts a comment.

Lists and tables in braces stand inside of one another to a bounded depth, and a
name has a bounded number of parts.

Main facts:

* `length_lt_of_names`: a name has fewer parts than the bound;
* `step_assignment_eq_none`, `step_table_eq_none`: a statement that gives a value or opens
  a table is a fault when it is made again right away.
-/

namespace MailMerge.Toml

/-- Blanks within a line. -/
def spaces : Reader Unit :=
  Reader.skipWhile isSpace

/-- A comment, if there is one. -/
def comment : Reader Unit := do
  match ← get with
  | '#' :: rest => set (rest.dropWhile isOrdinary)
  | _ => return

/-- The end of a line or of the file. -/
def lineEnd : Reader Unit := fun t =>
  if t.isEmpty then some ((), [])
  else if lineEndWidth t = 0 then none
  else some ((), t.drop (lineEndWidth t))

/-- Blanks, comments and ends of lines; at most `fuel` lines. -/
def gap : Nat → Reader Unit
  | 0 => return
  | fuel + 1 => do
    spaces
    comment
    let t ← get
    if lineEndWidth t = 0 then return
    else
      lineEnd
      gap fuel

/-- Whether a character may stand in a name without quotation marks. -/
def isBareChar (c : Char) : Bool :=
  c.isAlphanum || c = '_' || c = '-'

/-- One name. -/
def name : Reader Text := do
  match ← get with
  | '\x22' :: _ => quotedLine
  | '\x27' :: _ => quotedLine
  | _ => Reader.takeSome isBareChar

/-- The names behind the points that follow a name; at most `fuel` of them. -/
def moreNames : Nat → Reader (List Text)
  | 0 => return []
  | fuel + 1 => do
    spaces
    match ← get with
    | '.' :: rest =>
      set rest
      spaces
      let n ← name
      return n :: (← moreNames fuel)
    | _ => return []

/-- The bound on the depth of values and on the parts of a name, which do not reach it. -/
def depthBound : Nat := 80

/-- Names with points between them: the names on the way and the last one. -/
def names : Reader (List Text × Text) := do
  spaces
  let first ← name
  let t ← get
  let all := first :: (← moreNames t.length)
  if all.length < depthBound then return (all.dropLast, all.getLastD first) else failure

mutual

/-- A value that stands inside of `depth` others; `fuel` exceeds the length of the text. -/
def value : Nat → Nat → Reader Item
  | 0, _ => failure
  | fuel + 1, depth => do
    match ← get with
    | '[' :: rest =>
      if depth + 1 < depthBound then
        set rest
        return .list (← items fuel (depth + 1))
      else failure
    | '\x7b' :: rest =>
      if depth + 1 < depthBound then
        set rest
        spaces
        match ← get with
        | '\x7d' :: rest =>
          set rest
          return .table .closed []
        | _ => return .table .closed (← members fuel (depth + 1) [])
      else failure
    | _ => .plain <$> scalar

/-- The items of a list behind its opening bracket. -/
def items : Nat → Nat → Reader (List Item)
  | 0, _ => failure
  | fuel + 1, depth => do
    gap (← get).length
    match ← get with
    | ']' :: rest =>
      set rest
      return []
    | _ =>
      let v ← value fuel depth
      gap (← get).length
      match ← get with
      | ',' :: rest =>
        set rest
        return v :: (← items fuel depth)
      | ']' :: rest =>
        set rest
        return [v]
      | _ => failure

/-- The members of a table in braces, added to those so far. -/
def members : Nat → Nat → Items → Reader Items
  | 0, _, _ => failure
  | fuel + 1, depth, ms => do
    let (path, last) ← names
    spaces
    Reader.char '='
    spaces
    let v ← value fuel depth
    match Items.assignUnder last v path ms with
    | none => failure
    | some ms =>
      spaces
      match ← get with
      | ',' :: rest =>
        set rest
        members fuel depth ms
      | '\x7d' :: rest =>
        set rest
        return ms
      | _ => failure

end

/-- A statement. -/
inductive Statement where
  | table (path : List Text) (last : Text)
  | row (path : List Text) (last : Text)
  | assignment (path : List Text) (last : Text) (value : Item)

/-- A statement. -/
def statement : Reader Statement := do
  match ← get with
  | '[' :: '[' :: rest =>
    set rest
    let (path, last) ← names
    spaces
    Reader.word "]]".toList
    return .row path last
  | '[' :: rest =>
    set rest
    let (path, last) ← names
    spaces
    Reader.char ']'
    return .table path last
  | t =>
    let (path, last) ← names
    spaces
    Reader.char '='
    spaces
    return .assignment path last (← value (t.length + 1) 0)

/-- The statements of a text of fewer than `fuel` lines. -/
def statements : Nat → Reader (List Statement)
  | 0 => failure
  | fuel + 1 => do
    gap (← get).length
    match ← get with
    | [] => return []
    | _ =>
      let s ← statement
      spaces
      comment
      lineEnd
      return s :: (← statements fuel)

/-- The tables of a file, and the path of the table that is open. -/
structure Progress where
  root : Items
  path : List Text

/-- The tables behind a statement. -/
def Progress.step (p : Progress) : Statement → Option Progress
  | .table path last => do
    return ⟨← Items.changeAt (Items.openTable last) path p.root, path ++ [last]⟩
  | .row path last => do
    return ⟨← Items.changeAt (Items.openRow last) path p.root, path ++ [last]⟩
  | .assignment path last v => do
    return ⟨← Items.changeAt (Items.assignUnder last v path) p.path p.root, p.path⟩

/-- The settings of a file, which are a table. -/
def read? (file : Text) : Option (List (Text × Setting)) := do
  let text := Text.withoutOrderMark file
  let all ← Reader.whole (statements (text.length + 1)) text
  let progress ← all.foldlM Progress.step ⟨[], []⟩
  match ← Items.tableSetting? progress.root with
  | .table entries => return entries
  | _ => none

theorem length_lt_of_names {t rest : Text} {path : List Text} {last : Text}
    (h : names t = some ((path, last), rest)) : path.length + 1 < depthBound := by
  obtain ⟨_, behind, -, hfirst⟩ := Reader.bind_eq_some_iff.1 h
  obtain ⟨first, more, -, hget⟩ := Reader.bind_eq_some_iff.1 hfirst
  obtain ⟨t', more', -, hmore⟩ := Reader.bind_eq_some_iff.1 hget
  obtain ⟨parts, rest', -, hall⟩ := Reader.bind_eq_some_iff.1 hmore
  split at hall
  · next hlength =>
    have hpair := congrArg Prod.fst (Reader.pure_eq_some_iff.1 hall)
    have hpath : path = (first :: parts).dropLast := congrArg Prod.fst hpair
    rw [hpath, List.length_dropLast]
    simpa using hlength
  · cases hall

theorem step_assignment_eq_none {p p' : Progress} {path : List Text} {last : Text} {v : Item}
    (h : p.step (.assignment path last v) = some p') (w : Item) :
    p'.step (.assignment path last w) = none := by
  obtain ⟨root, hroot, hp⟩ := Option.bind_eq_some_iff.1 h
  cases hp
  have hfault := Items.changeAt_eq_none
    (fun _ _ hassigned => Items.assignUnder_eq_none hassigned w) hroot
  simp only [Progress.step, hfault, bind, Option.bind_none]

theorem step_table_eq_none {p p' : Progress} {path : List Text} {last : Text}
    (h : p.step (.table path last) = some p') : p'.step (.table path last) = none := by
  obtain ⟨root, hroot, hp⟩ := Option.bind_eq_some_iff.1 h
  cases hp
  simp only [Progress.step, Items.changeAt_openTable_eq_none hroot, bind, Option.bind_none]

end MailMerge.Toml
