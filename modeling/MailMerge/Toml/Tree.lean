import MailMerge.Toml.Scalar

/-!
# Tables of a settings file

The tables of a file are opened by headers or by the points in a name. A header
opens a table once; rows of a table of several rows are opened one after the
other, and what follows belongs to the last row. The tables on the way to a
table are there without being opened. A table that is a value between braces is
closed.

A date may also be given as a table: its first name is then `momentName`, and the
text under it spells the date.

Main facts:

* `changeAt_openTable_eq_none`: a header opens its table once, wherever the table is;
* `assignUnder_eq_none`: what has a value is not given another one.
-/

namespace MailMerge.Toml

/-- How a table came to be there. -/
inductive TableOrigin where
  /-- A header opened it. -/
  | opened
  /-- It is on the way to a table that a header opened. -/
  | passed
  /-- A name with points leads into it. -/
  | pointed
  /-- It is a value between braces. -/
  | closed
deriving DecidableEq, Repr

/-- What stands under a name or in a list. -/
inductive Item where
  | plain (s : Scalar)
  | list (items : List Item)
  | table (origin : TableOrigin) (members : List (Text × Item))
  | rows (tables : List (List (Text × Item)))

/-- The items of a table. -/
abbrev Items := List (Text × Item)

namespace Items

/-- The item under a name. -/
def get? (ms : Items) (name : Text) : Option Item :=
  (ms.find? fun m => m.1 = name).map Prod.snd

/-- The items with one under a name. -/
def set (ms : Items) (name : Text) (item : Item) : Items :=
  place Prod.fst (name, item) ms

/-- The items with one at the end under a name that has none. -/
def insert? (ms : Items) (name : Text) (item : Item) : Option Items :=
  if (ms.get? name).isSome then none else some (ms ++ [(name, item)])

/-- The items without those under a name. -/
def erase (ms : Items) (name : Text) : Items :=
  ms.filter fun m => m.1 ≠ name

/-- Rows of which the last is changed. -/
def changeLast (f : Items → Option Items) (tables : List Items) : Option (List Items) := do
  let last ← tables.getLast?
  return tables.dropLast ++ [← f last]

/-- Changes the items of the table at a path, from header to header. -/
def changeAt (f : Items → Option Items) : List Text → Items → Option Items
  | [], ms => f ms
  | name :: rest, ms => do
    match ms.get? name with
    | none => return ms.set name (.table .passed (← changeAt f rest []))
    | some (.table .closed _) => none
    | some (.table origin inner) =>
      return ms.set name (.table origin (← changeAt f rest inner))
    | some (.rows tables) =>
      return ms.set name (.rows (← changeLast (changeAt f rest) tables))
    | some _ => none

/-- Gives a name an item behind the points of a name. -/
def assignUnder (name : Text) (s : Item) : List Text → Items → Option Items
  | [], ms => ms.insert? name s
  | p :: rest, ms => do
    match ms.get? p with
    | none => return ms.set p (.table .pointed (← assignUnder name s rest []))
    | some (.table .pointed inner) =>
      return ms.set p (.table .pointed (← assignUnder name s rest inner))
    | some (.table .passed inner) =>
      if rest.isEmpty then none
      else return ms.set p (.table .passed (← assignUnder name s rest inner))
    | some (.rows tables) =>
      if rest.isEmpty then none
      else return ms.set p (.rows (← changeLast (assignUnder name s rest) tables))
    | some _ => none

/-- Opens a table, which comes behind all others. -/
def openTable (name : Text) (ms : Items) : Option Items :=
  match ms.get? name with
  | none => some (ms.set name (.table .opened []))
  | some (.table .passed inner) => some ((ms.erase name).set name (.table .opened inner))
  | some _ => none

/-- Opens a row of a table of several rows. -/
def openRow (name : Text) (ms : Items) : Option Items :=
  match ms.get? name with
  | none => some (ms.set name (.rows [[]]))
  | some (.rows tables) => some (ms.set name (.rows (tables ++ [[]])))
  | some _ => none

/-- The first name of a table that is a date. -/
def momentName : Text := "$__toml_private_datetime".toList

/-- The value of a plain item. -/
def scalarSetting : Scalar → Setting
  | .truth b => .truth b
  | .integer n => .integer n
  | .real x => .real x
  | .text t => .text t
  | .moment t => .text t

/-- The date that a table with a first member is, if its name says so. -/
def moment? : Item → Option Setting
  | .plain (.text t) => (spelledMoment? t).map .text
  | _ => none

mutual

/-- An item as a setting; none when a table says that it is a date and is none. -/
def setting? : Item → Option Setting
  | .plain s => some (scalarSetting s)
  | .list items => Setting.list <$> settings? items
  | .table _ members => tableSetting? members
  | .rows tables => Setting.list <$> rowSettings? tables

/-- The items of a list as settings. -/
def settings? : List Item → Option (List Setting)
  | [] => some []
  | item :: rest => do return (← setting? item) :: (← settings? rest)

/-- A table as a setting. -/
def tableSetting? : List (Text × Item) → Option Setting
  | [] => some (.table [])
  | (name, item) :: rest =>
    if name = momentName then moment? item
    else do return .table ((name, ← setting? item) :: (← memberSettings? rest))

/-- The members of a table as settings. -/
def memberSettings? : List (Text × Item) → Option (List (Text × Setting))
  | [] => some []
  | (name, item) :: rest => do return (name, ← setting? item) :: (← memberSettings? rest)

/-- Rows as settings. -/
def rowSettings? : List (List (Text × Item)) → Option (List Setting)
  | [] => some []
  | row :: rest => do return (← tableSetting? row) :: (← rowSettings? rest)

end

@[simp] theorem get?_set (ms : Items) (name : Text) (item : Item) :
    (ms.set name item).get? name = some item := by
  rw [get?, set, Dict.map_find?_place, if_pos rfl]

theorem openTable_eq_none {name : Text} {ms ms' : Items} (h : openTable name ms = some ms') :
    openTable name ms' = none := by
  unfold openTable at h
  split at h
  · cases h
    simp [openTable]
  · cases h
    simp [openTable]
  · cases h

theorem insert?_eq_none {name : Text} {item : Item} {ms ms' : Items}
    (h : ms.insert? name item = some ms') (other : Item) : ms'.insert? name other = none := by
  unfold insert? at h
  split at h
  · cases h
  · cases h
    simp [insert?, get?]

section Once

variable {f g : Items → Option Items}

theorem changeLast_eq_none {tables tables' : List Items}
    (hfg : ∀ ms ms', f ms = some ms' → g ms' = none)
    (h : changeLast f tables = some tables') : changeLast g tables' = none := by
  obtain ⟨last, -, hlast⟩ := Option.bind_eq_some_iff.1 h
  obtain ⟨last', hf, htables⟩ := Option.bind_eq_some_iff.1 hlast
  cases htables
  simp [changeLast, hfg last last' hf]

/-- If `g` does nothing behind `f`, then neither does it in a table at the end of a path. -/
theorem changeAt_eq_none (hfg : ∀ ms ms', f ms = some ms' → g ms' = none) {path : List Text}
    {ms ms' : Items} (h : changeAt f path ms = some ms') : changeAt g path ms' = none := by
  induction path generalizing ms ms' with
  | nil => exact hfg ms ms' h
  | cons name rest ih =>
    rw [changeAt] at h
    split at h
    · obtain ⟨inner, hinner, hset⟩ := Option.bind_eq_some_iff.1 h
      cases hset
      simp [changeAt, ih hinner]
    · cases h
    · obtain ⟨inner, hinner, hset⟩ := Option.bind_eq_some_iff.1 h
      cases hset
      simp [changeAt, ih hinner]
    · obtain ⟨tables, htables, hset⟩ := Option.bind_eq_some_iff.1 h
      cases hset
      simp [changeAt, changeLast_eq_none (fun _ _ => ih) htables]
    · cases h

end Once

theorem changeAt_openTable_eq_none {name : Text} {path : List Text} {ms ms' : Items}
    (h : changeAt (openTable name) path ms = some ms') :
    changeAt (openTable name) path ms' = none :=
  changeAt_eq_none (fun _ _ => openTable_eq_none) h

theorem assignUnder_eq_none {name : Text} {item : Item} {path : List Text} {ms ms' : Items}
    (h : assignUnder name item path ms = some ms') (other : Item) :
    assignUnder name other path ms' = none := by
  induction path generalizing ms ms' with
  | nil => exact insert?_eq_none h other
  | cons p rest ih =>
    rw [assignUnder] at h
    split at h
    · obtain ⟨inner, hinner, hset⟩ := Option.bind_eq_some_iff.1 h
      cases hset
      simp [assignUnder, ih hinner]
    · obtain ⟨inner, hinner, hset⟩ := Option.bind_eq_some_iff.1 h
      cases hset
      simp [assignUnder, ih hinner]
    · split at h
      · cases h
      · obtain ⟨inner, hinner, hset⟩ := Option.bind_eq_some_iff.1 h
        cases hset
        simp [assignUnder, ih hinner]
    · split at h
      · cases h
      · obtain ⟨tables, htables, hset⟩ := Option.bind_eq_some_iff.1 h
        cases hset
        simp [assignUnder, changeLast_eq_none (fun _ _ => ih) htables]
    · cases h

end Items

end MailMerge.Toml
