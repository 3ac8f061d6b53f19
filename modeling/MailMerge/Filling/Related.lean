import MailMerge.Filling.Session

/-!
# Queries for related records

The records related to a given one are those of an entity whose key field points
at it. Of their fields only the custom ones are fetched, those whose names start
with `ym_` or `kc_`; a path fetches its first field.

A caller may put another query in the place of the usual one, under the entity
and the key field. Its conditions are taken as they are; its columns are always
those of the list at hand.

Main facts:

* `nodup_addColumn`: no column is taken up twice.
-/

namespace MailMerge.Filling

/-- Whether a part of a list names a custom field. -/
def isCustom (part : Text) : Bool :=
  Text.startsWith "ym_".toList part || Text.startsWith "kc_".toList part

/-- The columns so far and the column of one more part, if it is custom and new. -/
def addColumn (columns : List Text) (part : Text) : List Text :=
  if isCustom part ∧ Text.before '.' part ∉ columns then columns ++ [Text.before '.' part]
  else columns

/-- The columns that the parts of a list need. -/
def columnsOf (parts : List Text) : List Text :=
  parts.foldl addColumn []

/-- The name under which a query for related records is replaced. -/
def overrideName (entity key : Text) : Text :=
  entity ++ '-' :: key

/-- Puts a query in the place of the usual one. -/
def addOverride {ε : Type} (name : Text) (query : Query) : Work ε Unit :=
  Work.update fun s => { s with overrides := s.overrides.set name query }

/-- The usual query for related records. -/
def usualQuery (entity key : Text) (parent : Uuid) (columns : List Text) : Query :=
  ⟨entity, .only columns, [⟨key, .equal, .id parent⟩]⟩

/-- The query for related records. An override is kept with the columns that it was
last asked for. -/
def build {ε : Type} (entity key : Text) (parent : Uuid) (columns : List Text) : Work ε Query := do
  let s ← Work.session
  match s.overrides.get? (overrideName entity key) with
  | some query =>
    let query := { query with columns := .only columns }
    Work.update fun s => { s with overrides := s.overrides.set (overrideName entity key) query }
    return query
  | none => return usualQuery entity key parent columns

theorem nodup_addColumn {columns : List Text} (h : columns.Nodup) (part : Text) :
    (addColumn columns part).Nodup := by
  unfold addColumn
  split
  · next hp =>
    rw [List.nodup_append]
    refine ⟨h, by simp, ?_⟩
    intro a ha b hb
    rw [List.mem_singleton] at hb
    rintro rfl
    exact hp.2 (hb ▸ ha)
  · exact h

end MailMerge.Filling
