import MailMerge.Calendar.Reading
import MailMerge.Filling.Choices

/-!
# Paths of fields

A path names fields with points between them: `a.b.c` follows the reference in
`a`, then the reference in `b` of the record found there, and shows `c`. Each
step asks for the one column that it needs.

The text of the last field depends on its value: an option set shows the label
of its code, a reference the name of its record, a date the minute in the zone
of the letter. Any other value is shown as the schema of its entity says: as a
link, as a date, or as it stands.

Whatever is missing on the way, a field, a record, a label, shows as nothing.
Only failures of the source that are no gaps in the data are failures.

Main facts:

* `nameField_eq`: the name of a record stands in `ym_name` for a field of the vendor, in
  `name` for any other;
* `formatDate_of_not_date`: a value that is neither a date nor a text shows no
  date;
* `follow_congr`, `resolve_congr`: the first field of a path and the entity are all that
  is read from a record;
* `resolve_missing_field`: an absent field shows as nothing, and nothing is
  asked for.
-/

namespace MailMerge.Filling

/-- The name field of a reference that has no name with it. -/
def nameField (field : Text) : Text :=
  if Text.startsWith "ym_".toList field then "ym_name".toList else "name".toList

/-- A link of an address to itself; a blank address has none. -/
def addressLink (address : Text) : Text :=
  if Text.blank address then []
  else "<a href='".toList ++ address ++ "'>".toList ++ address ++ "</a>".toList

/-- The instant in a value, typed or in a text. -/
def instantOf? : Value → Option Calendar.Instant
  | .dateTime t => some t
  | .text t => Calendar.Instant.ofTyped? t
  | _ => none

/-- The minute of a date some hours ahead of universal time; nothing for a value that
is no date or leaves the calendar. -/
def formatDate (v : Value) (offsetHours : Int) : Text :=
  match (instantOf? v).bind fun t => t.shift offsetHours with
  | some t => t.minuteText
  | none => []

/-- The text of a value under the kind of its attribute, if it has one. -/
def showAs (kind : Option AttributeKind) (v : Value) (offsetHours : Int) : Text :=
  match kind with
  | some (.text (some format)) =>
    if Text.sameLetters format "url".toList then addressLink v.display else v.display
  | some .dateTime => formatDate v offsetHours
  | _ => v.display

/-- The name of a referenced record: the one that the reference carries, or else what
the name field of the record shows. -/
def referenceName (source : Source) (field : Text) (target : Reference) : Work StoreError Text :=
  match target.name.filter fun name => !Text.blank name with
  | some name => return name
  | none => do
    let column := nameField field
    let found ← Work.orMissing (Work.retrieve source target.entity target.id (.only [column]))
    return ((found.bind fun r => r.get? column).map Value.display).getD []

/-- The text of a field of a record. -/
def showField (source : Source) (offsetHours : Int) (field : Text) (record : Record) :
    Work StoreError Text :=
  match record.get? field with
  | none => return []
  | some (.optionSet code) => do
    let label ← labelFor (schemaOf source record.entity) record.entity field code
    return label.getD []
  | some (.reference target) => referenceName source field target
  | some (.dateTime t) => return formatDate (.dateTime t) offsetHours
  | some v => do
    let schema ← schemaOf source record.entity
    return showAs ((schema.attribute? field).map Attribute.kind) v offsetHours

/-- The text at a path of fields that starts from a record. -/
def follow (source : Source) (offsetHours : Int) : List Text → Record → Work StoreError Text
  | [], _ => return []
  | [field], record => showField source offsetHours field record
  | field :: next :: rest, record =>
    match record.reference? field with
    | none => return []
    | some target => do
      let found ← Work.orMissing (Work.retrieve source target.entity target.id (.only [next]))
      match found with
      | none => return []
      | some related => follow source offsetHours (next :: rest) related

/-- The text at a path that is written with points. -/
def resolve (source : Source) (offsetHours : Int) (path : Text) (record : Record) :
    Work StoreError Text :=
  follow source offsetHours (Text.fields '.' path) record

theorem nameField_eq (field : Text) :
    nameField field = if "ym_".toList <+: field then "ym_name".toList else "name".toList := by
  unfold nameField
  simp only [Text.startsWith_iff_isPrefix]

theorem formatDate_of_not_date {v : Value} (h : instantOf? v = none) (offsetHours : Int) :
    formatDate v offsetHours = [] := by
  simp [formatDate, h]

/-- Of a record a path reads the entity and its own first field, and nothing else. -/
theorem follow_congr {source : Source} {offsetHours : Int} {path : List Text} {q r : Record}
    (hentity : q.entity = r.entity)
    (hfield : ∀ field ∈ path.head?, q.get? field = r.get? field) :
    follow source offsetHours path q = follow source offsetHours path r := by
  match path with
  | [] => rfl
  | [field] =>
    unfold follow showField
    rw [hfield field rfl, hentity]
  | field :: next :: rest =>
    unfold follow Record.reference?
    rw [hfield field rfl]

theorem resolve_congr {source : Source} {offsetHours : Int} {path : Text} {q r : Record}
    (hentity : q.entity = r.entity)
    (hfield : q.get? (Text.before '.' path) = r.get? (Text.before '.' path)) :
    resolve source offsetHours path q = resolve source offsetHours path r := by
  apply follow_congr hentity
  intro field hhead
  rw [Text.head?_fields] at hhead
  obtain rfl := Option.some.inj hhead
  exact hfield

theorem resolve_missing_field {source : Source} {offsetHours : Int} {path : Text} {record : Record}
    (h : record.get? (Text.before '.' path) = none) :
    resolve source offsetHours path record = pure [] := by
  have hhead := Text.head?_fields '.' path
  unfold resolve
  rcases hpath : Text.fields '.' path with _ | ⟨field, _ | ⟨next, rest⟩⟩
  · rfl
  · rw [hpath] at hhead
    rw [← Option.some.inj hhead] at h
    simp only [follow, showField, h]
  · rw [hpath] at hhead
    rw [← Option.some.inj hhead] at h
    simp only [follow, Record.reference?, h]

end MailMerge.Filling
