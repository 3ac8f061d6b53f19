import MailMerge.Json.RecordForm
import MailMerge.Json.RequestForm

/-!
# Writing documents

A document is written without blanks. In a string the quotation mark, the
backslash and the control characters are escaped, all other characters stand for
themselves.

The data of the library is written in the forms in which it is decoded, with two
exceptions: a name or a format that is not there is left out, and a decimal is
written as the text of its digits.

Main facts:

* `escape_append`: a text is escaped character by character.
-/

namespace MailMerge

/-- A document. -/
inductive Json where
  | null
  | bool (b : Bool)
  | integer (n : Int)
  | text (t : Text)
  | array (items : List Json)
  | object (members : List (Text × Json))

namespace Json

instance : Inhabited Json := ⟨null⟩

/-- A character as it stands in a string. -/
def escapeChar (c : Char) : Text :=
  if c = '\x22' then ['\\', '\x22']
  else if c = '\\' then ['\\', '\\']
  else if c = '\x08' then ['\\', 'b']
  else if c = '\x0c' then ['\\', 'f']
  else if c = '\n' then ['\\', 'n']
  else if c = '\r' then ['\\', 'r']
  else if c = '\t' then ['\\', 't']
  else if c.toNat < 32 then '\\' :: 'u' :: Uuid.hexDigits 4 c.toNat
  else [c]

/-- A text as it stands in a string. -/
def escape (t : Text) : Text :=
  t.flatMap escapeChar

/-- A string. -/
def quote (t : Text) : Text :=
  '\x22' :: escape t ++ ['\x22']

mutual

/-- The text of a document. -/
def write : Json → Text
  | null => "null".toList
  | bool true => "true".toList
  | bool false => "false".toList
  | integer n => Text.integer n
  | text t => quote t
  | array items => '[' :: writeItems items ++ [']']
  | object members => '\x7b' :: writeMembers members ++ ['\x7d']

/-- The items of a list with commas between them. -/
def writeItems : List Json → Text
  | [] => []
  | [item] => write item
  | item :: rest => write item ++ ',' :: writeItems rest

/-- The members of an object with commas between them. -/
def writeMembers : List (Text × Json) → Text
  | [] => []
  | [(name, value)] => quote name ++ ':' :: write value
  | (name, value) :: rest => quote name ++ ':' :: write value ++ ',' :: writeMembers rest

end

/-- An object with named members. -/
def ofMembers (members : List (String × Json)) : Json :=
  object (members.map fun (name, value) => (name.toList, value))

/-- A value or null. -/
def orNull (o : Option Json) : Json :=
  o.getD null

/-- A text that stands in the source of the library. -/
def word (s : String) : Json :=
  text s.toList

/-- An identifier. -/
def ofUuid (u : Uuid) : Json :=
  text u.text

/-- A reference. -/
def ofReference (r : Reference) : Json :=
  .ofMembers <| [("entity", text r.entity), ("id", ofUuid r.id)]
    ++ (r.name.map fun name => ("name", text name)).toList

/-- The type of a value and what is written for it. -/
def typed (kind : ValueKind) (value : Json) : Json :=
  .ofMembers [("type", text kind.name), ("value", value)]

/-- A field value. -/
def ofValue : Value → Json
  | .null => .ofMembers [("type", text ValueKind.null.name)]
  | .text t => typed .text (text t)
  | .integer n => typed .integer (integer n.toInt)
  | .decimal x => typed .decimal (text x.text)
  | .boolean b => typed .boolean (bool b)
  | .dateTime t => typed .dateTime (text t.stamp)
  | .optionSet code => typed .optionSet (integer code.toInt)
  | .reference r => typed .reference (ofReference r)
  | .id u => typed .id (ofUuid u)

/-- A record. -/
def ofRecord (r : Record) : Json :=
  .ofMembers [("entity", text r.entity), ("id", ofUuid r.id),
    ("fields", object (r.fields.members.map fun (name, v) => (name, ofValue v)))]

/-- The columns that are asked for. -/
def ofColumns : Columns → Json
  | .all => word "all"
  | .only names => .ofMembers [("columns", array (names.map text))]

/-- The written name of an operator. -/
def operatorName : Operator → Text
  | .equal => "equal".toList
  | .notEqual => "not_equal".toList
  | .null => "null".toList
  | .notNull => "not_null".toList

/-- A condition. -/
def ofCondition (c : Condition) : Json :=
  .ofMembers [("field", text c.field), ("operator", text (operatorName c.operator)),
    ("value", ofValue c.value)]

/-- A query. -/
def ofQuery (q : Query) : Json :=
  .ofMembers [("entity", text q.entity), ("columns", ofColumns q.columns),
    ("conditions", array (q.conditions.map ofCondition))]

/-- A code and its label. -/
def ofChoice (c : Choice) : Json :=
  .ofMembers [("value", integer c.code.toInt), ("label", text c.label)]

/-- The members that tell the kind of an attribute. -/
def kindMembers : AttributeKind → List (String × Json)
  | .text format =>
    ("kind", word "text") :: (format.map fun f => ("format", text f)).toList
  | .dateTime => [("kind", word "date_time")]
  | .picklist choices => [("kind", word "picklist"), ("options", array (choices.map ofChoice))]
  | .lookup => [("kind", word "lookup")]
  | .other => [("kind", word "other")]

/-- An attribute. -/
def ofAttribute (a : Attribute) : Json :=
  .ofMembers (("name", text a.name) :: kindMembers a.kind)

/-- A schema. -/
def ofSchema (s : Schema) : Json :=
  .ofMembers [("entity", text s.entity), ("attributes", array (s.attributes.map ofAttribute))]

/-- A seed. -/
def ofSeed (s : Seed) : Json :=
  .ofMembers [("records", array (s.records.map ofRecord)),
    ("metadata", array (s.schemas.map ofSchema))]

/-- A letter. -/
def ofLetter (l : Letter) : Json :=
  .ofMembers [("subject", text l.subject), ("body", text l.body)]

/-- A request for a letter, with null for what it does not name. -/
def ofRequest (r : Service.Request) : Json :=
  .ofMembers [("template_name", orNull (r.templateName.map text)),
    ("user_template_id", orNull (r.userTemplateId.map ofUuid)),
    ("record", orNull (r.record.map ofReference)),
    ("substitutions", object (r.tokens.members.map fun (name, t) => (name, text t))),
    ("filters", object (r.filters.members.map fun (name, q) => (name, ofQuery q)))]

theorem escape_append (s t : Text) : escape (s ++ t) = escape s ++ escape t := by
  simp [escape]

end Json

end MailMerge
