import MailMerge.Record.Basic

/-!
# Queries

A query asks for the records of one entity that satisfy all of its conditions,
and for some of their columns. A condition looks at the complete record. An
absent field satisfies neither an equality nor the demand to be there.

Main facts:

* `holds_notEqual`: being different is the denial of being equal, for absent
  fields too;
* `accepts_append`: conditions are joined by "and".
-/

namespace MailMerge

/-- How a condition compares a field. -/
inductive Operator where
  | equal
  | notEqual
  | null
  | notNull
deriving DecidableEq, Inhabited

/-- A condition on one field; the value plays no part in `null` and `notNull`. -/
structure Condition where
  field : Text
  operator : Operator
  value : Value
deriving DecidableEq, Inhabited

namespace Condition

/-- Whether a record satisfies a condition. -/
def holds (c : Condition) (r : Record) : Bool :=
  let current := r.get? c.field
  match c.operator with
  | .equal => current.any (·.agrees c.value)
  | .notEqual => !current.any (·.agrees c.value)
  | .null => current.isNone
  | .notNull => current.isSome

theorem holds_notEqual (field : Text) (value : Value) (r : Record) :
    holds ⟨field, .notEqual, value⟩ r = !holds ⟨field, .equal, value⟩ r := rfl

end Condition

/-- A query for records of an entity. -/
structure Query where
  entity : Text
  columns : Columns
  conditions : List Condition
deriving DecidableEq, Inhabited

namespace Query

/-- Whether a complete record is one that the query asks for. -/
def accepts (q : Query) (r : Record) : Bool :=
  r.entity = q.entity && q.conditions.all (·.holds r)

theorem accepts_append (entity : Text) (columns : Columns) (cs ds : List Condition) (r : Record) :
    accepts ⟨entity, columns, cs ++ ds⟩ r
      = (accepts ⟨entity, columns, cs⟩ r && accepts ⟨entity, columns, ds⟩ r) := by
  simp only [accepts, List.all_append]
  cases decide (r.entity = entity) <;> simp

end Query

end MailMerge
