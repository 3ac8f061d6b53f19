import MailMerge.Filling.Session

/-!
# Labels of option sets

The label of a code is looked up among the choices of its field. They are taken
from the schema of the entity when the field is first met and kept for the rest
of the session; a field that is no picklist is kept with no choices. The schema
itself is asked for once, too.

Main facts:

* `label_of_known`: for a field whose choices are known nothing is asked for.
-/

namespace MailMerge.Filling

/-- The label of a code among some choices. -/
def labelAmong (choices : List Choice) (code : Int32) : Option Text :=
  (choices.find? fun c => c.code = code).map Choice.label

/-- The schema of an entity, asked for only once in a session. -/
def schemaOf (source : Source) (entity : Text) : Work StoreError Schema := do
  let s ← Work.session
  match s.schemas.get? entity with
  | some schema => return schema
  | none =>
    let schema ← Work.describe source entity
    Work.update fun s => { s with schemas := s.schemas.set entity schema }
    return schema

/-- The label of a code of a field; `fetch` gives the schema and is only used for a
field that has not been met before. -/
def labelFor (fetch : Work StoreError Schema) (entity field : Text) (code : Int32) :
    Work StoreError (Option Text) := do
  let s ← Work.session
  match s.choices.get? (entity, field) with
  | some choices =>
    Work.count Counters.addHit
    return labelAmong choices code
  | none =>
    Work.count Counters.addMiss
    let schema ← fetch
    let choices := (schema.choices? field).getD []
    Work.update fun s => { s with choices := s.choices.set (entity, field) choices }
    return labelAmong choices code

theorem label_of_known {fetch : Work StoreError Schema} {entity field : Text} {code : Int32}
    {s : Session} {choices : List Choice} (h : s.choices.get? (entity, field) = some choices) :
    (labelFor fetch entity field code).perform s =
      (.ok (labelAmong choices code), s.count Counters.addHit) := by
  simp [labelFor, h]

end MailMerge.Filling
