import MailMerge.Store.Memory

/-!
# Records in a table without an order

Records can also be kept in a table that lists its rows in no particular order. A
row holds a record under its key, together with a number: how many keys had come
before this one. A record that is stored again takes the place of the earlier one
and keeps the number of its row. A search looks at the rows as they come and sorts
what it has found by number.

Main facts:

* `insert_of_known`, `insert_of_new`: what storing a record does to the rows.
-/

namespace MailMerge

/-- Records under their keys, with numbers. -/
structure Table.Row where
  key : Text × Uuid
  number : Nat
  record : Record
deriving DecidableEq

/-- The rows of a table and the number of the next one. -/
structure Table where
  rows : Keyed Table.Row.key
  next : Nat

namespace Table

/-- A table without rows. -/
def empty : Table := ⟨.empty, 0⟩

instance : Inhabited Table := ⟨empty⟩

/-- The table with a record added or replaced. -/
def insert (t : Table) (r : Record) : Table :=
  match t.rows.find? r.key with
  | some row => { t with rows := t.rows.insert { row with record := r } }
  | none => ⟨t.rows.insert ⟨r.key, t.next, r⟩, t.next + 1⟩

/-- The table with several records added or replaced, from left to right. -/
def insertAll (t : Table) (rs : List Record) : Table :=
  rs.foldl insert t

/-- The number of records. -/
def recordCount (t : Table) : Nat :=
  t.rows.size

/-- The record with an identifier, with the columns asked for. -/
def retrieve (t : Table) (entity : Text) (id : Uuid) (columns : Columns) :
    Except StoreError Record :=
  match t.rows.find? (entity, id) with
  | some row => .ok (row.record.project columns)
  | none => .error (.notFound entity id)

/-- The records that a query asks for among rows that are visited in some order,
sorted by number. -/
def search (visited : List Row) (query : Query) : List Record :=
  let found := (visited.filter fun row => query.accepts row.record).map fun row =>
    (row.number, row.record.project query.columns)
  (found.mergeSort fun a b => a.1 ≤ b.1).map Prod.snd

theorem insert_of_known {t : Table} {r : Record} {row : Row}
    (h : t.rows.find? r.key = some row) :
    t.insert r = { t with rows := t.rows.insert { row with record := r } } := by
  simp [insert, h]

theorem insert_of_new {t : Table} {r : Record} (h : t.rows.find? r.key = none) :
    t.insert r = ⟨t.rows.insert ⟨r.key, t.next, r⟩, t.next + 1⟩ := by
  simp [insert, h]

end Table

end MailMerge
