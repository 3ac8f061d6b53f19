import MailMerge.Keyed
import MailMerge.Record.Value

/-!
# Records and columns

A record belongs to an entity, has an identifier and holds named fields. A field
that holds the null value counts as absent. A set of columns says which fields
of a record are asked for.

Main facts:

* `fields_project`, `get?_project`: a projection keeps the fields that are asked for and no
  other one;
* `project_project`: a second projection to the same columns changes nothing.
-/

namespace MailMerge

/-- A record of an entity. -/
structure Record where
  entity : Text
  id : Uuid
  fields : Dict Text Value
deriving DecidableEq

/-- The columns that are asked for. -/
inductive Columns where
  | all
  | only (names : List Text)
deriving DecidableEq, Inhabited

namespace Columns

/-- Whether a column is asked for. -/
def asks : Columns → Text → Bool
  | all, _ => true
  | only names, name => name ∈ names

end Columns

namespace Record

instance : Inhabited Record := ⟨⟨[], default, default⟩⟩

/-- What tells a record from the others of a store. -/
def key (r : Record) : Text × Uuid :=
  (r.entity, r.id)

/-- The value of a field; a null value counts as absent. -/
def get? (r : Record) (field : Text) : Option Value :=
  (r.fields.get? field).filter fun v => !v.isNull

/-- The reference in a field, if it holds one. -/
def reference? (r : Record) (field : Text) : Option Reference :=
  match r.get? field with
  | some (.reference target) => some target
  | _ => none

/-- The text in a field, if it holds one. -/
def text? (r : Record) (field : Text) : Option Text :=
  match r.get? field with
  | some (.text t) => some t
  | _ => none

/-- A reference to the record, without a name. -/
def toReference (r : Record) : Reference :=
  ⟨r.entity, r.id, none⟩

/-- The record with the fields that are asked for. -/
def project (r : Record) (columns : Columns) : Record :=
  { r with fields := r.fields.filter fun field => columns.asks field.1 }

theorem fields_project (r : Record) (columns : Columns) (field : Text) :
    (r.project columns).fields.get? field =
      if columns.asks field then r.fields.get? field else none := by
  have h : ∀ xs : List (Text × Value),
      (xs.filter fun x => columns.asks x.1).find? (fun x => decide (x.1 = field)) =
        if columns.asks field then xs.find? (fun x => decide (x.1 = field)) else none := by
    intro xs
    rw [List.find?_filter]
    by_cases hc : columns.asks field = true
    · simp only [hc, if_true]
      congr 1
      funext x
      by_cases hx : x.1 = field <;> simp [hx, hc]
    · simp only [hc, if_false, Bool.false_eq_true]
      rw [List.find?_eq_none]
      intro x _ hx
      simp only [decide_eq_true_eq] at hx
      exact hc (hx.2 ▸ hx.1)
  unfold project Dict.get? Keyed.find? Keyed.filter
  simp only [h]
  split <;> simp

theorem get?_project (r : Record) (columns : Columns) (field : Text) :
    (r.project columns).get? field = if columns.asks field then r.get? field else none := by
  unfold get?
  rw [fields_project]
  split <;> rfl

theorem project_project (r : Record) (columns : Columns) :
    (r.project columns).project columns = r.project columns := by
  simp [project, Keyed.filter, List.filter_filter]

end Record

end MailMerge
