import MailMerge.Settings.Value
import MailMerge.Text.Reader

/-!
# Paths to settings

A setting is reached from the outermost table by a path: a name, and behind it
names with points in front and places of lists in brackets, as in
`server.cors_origins[0]`. Places count from zero, or from the end when they are
negative.

Laying a value at a path makes the path where it is missing: what is no table
where a name leads becomes a table, what is no list where a place is asked for
becomes a list, and a list grows until it has the place, with gaps in between.

Main facts:

* `exists_name_of_path?`: every path that is spelled begins with a name;
* `get?_putAt_of_ne`: a value at a path changes no entry but that of the first name;
* `get?_layOver_of_forall_ne`: values laid over a table leave an entry as it is when
  none of their paths begins with its name.
-/

namespace MailMerge.Setting

/-- A step of a path: into a table or into a list. -/
inductive Step where
  | name (n : Text)
  | position (i : Int)
deriving DecidableEq, Repr

/-- The number of gaps by which a list grows at most. No list with so many of them is
a setting, so that more would not be told apart. -/
def gapLimit : Nat := 0x1000

/-- A list cut at a place, which it gets when it does not have it: the items in front,
the one at the place and those behind. -/
def cutAt (i : Int) (items : List Setting) : List Setting × Setting × List Setting :=
  let count := items.length
  match i with
  | .ofNat n =>
    (items.take n ++ List.replicate (min (n - count) gapLimit) nothing,
      items.getD n nothing, items.drop (n + 1))
  | .negSucc n =>
    if n < count then
      (items.take (count - (n + 1)), items.getD (count - (n + 1)) nothing,
        items.drop (count - n))
    else ([], nothing, List.replicate (min (n - count) gapLimit) nothing ++ items)

/-- What becomes of a setting when a value is laid at the end of steps that lead on from
it: over the entry of a name, but in the place of an item as a whole. -/
def putAt (value : Setting) : List Step → Setting → Setting
  | [], _ => value
  | [.name n], old => table (put n value old.entries)
  | .name n :: rest, old =>
    let inner := (get? (Text.lower n) old.entries).getD nothing
    table (place Prod.fst (Text.lower n, putAt value rest inner) old.entries)
  | .position i :: rest, old =>
    let (front, item, back) := cutAt i old.items
    list (front ++ putAt value rest item :: back)

/-- Whether a character may stand in a name of a path. -/
def isNameChar (c : Char) : Bool :=
  c.isAlphanum || c ∈ [' ', '_', '-']

/-- A place in brackets, behind the opening one. -/
def position : Reader Int := do
  let space (c : Char) : Bool := c = ' ' || c = '\t'
  Reader.skipWhile space
  let negative := (← get).head? = some '-'
  if negative then Reader.char '-'
  let n := Text.digitsValue (← Reader.takeSome Text.isDigit)
  Reader.skipWhile space
  Reader.char ']'
  let i : Int := if negative then -(n : Int) else n
  if leastInteger ≤ i ∧ i ≤ greatestInteger then return i else failure

/-- The steps up to the end of a text, which are fewer than `fuel`. -/
def steps : Nat → Reader (List Step)
  | 0 => failure
  | fuel + 1 => do
    match ← get with
    | [] => return []
    | '.' :: rest =>
      set rest
      let n ← Reader.takeSome isNameChar
      return .name n :: (← steps fuel)
    | '[' :: rest =>
      set rest
      let i ← position
      return .position i :: (← steps fuel)
    | _ => failure

/-- The path that a text spells. -/
def path? (t : Text) : Option (List Step) :=
  Reader.whole (do
    let n ← Reader.takeSome isNameChar
    return .name n :: (← steps (t.length + 1))) t

/-- Named values laid over the entries of a table, each at the path that its name spells;
a name that spells no path names nothing. -/
def layOver (es new : List (Text × Setting)) : List (Text × Setting) :=
  new.foldl (fun es e => ((path? e.1).map fun p => (putAt e.2 p (table es)).entries).getD es) es

theorem exists_name_of_path? {t : Text} {p : List Step} (h : path? t = some p) :
    ∃ n rest, p = .name n :: rest := by
  obtain ⟨n, t', -, hsteps⟩ := Reader.bind_eq_some_iff.1 (Reader.whole_eq_some_iff.1 h)
  obtain ⟨rest, t'', -, hp⟩ := Reader.bind_eq_some_iff.1 hsteps
  have hpair := Reader.pure_eq_some_iff.1 hp
  exact ⟨n, rest, congrArg Prod.fst hpair⟩

theorem get?_putAt_of_ne {n other : Text} (h : Text.lower n ≠ other) (value old : Setting)
    (rest : List Step) :
    get? other (putAt value (.name n :: rest) old).entries = get? other old.entries := by
  cases rest with
  | nil => rw [putAt, entries, get?_put_of_ne h]
  | cons step rest => simp only [putAt, entries, get?_place_of_ne h]

theorem get?_layOver_of_forall_ne {new : List (Text × Setting)} {other : Text}
    (h : ∀ e ∈ new, ∀ n rest, path? e.1 = some (.name n :: rest) → Text.lower n ≠ other)
    (es : List (Text × Setting)) : get? other (layOver es new) = get? other es := by
  unfold layOver
  induction new generalizing es with
  | nil => rfl
  | cons e new ih =>
    rw [List.forall_mem_cons] at h
    rw [List.foldl_cons, ih h.2]
    cases hpath : path? e.1 with
    | none => rfl
    | some p =>
      obtain ⟨n, rest, rfl⟩ := exists_name_of_path? hpath
      simp only [Option.map_some, Option.getD_some]
      rw [get?_putAt_of_ne (h.1 n rest hpath), entries]

end MailMerge.Setting
