import MailMerge.Json.Shape
import MailMerge.Record.Query
import MailMerge.Record.Schema
import MailMerge.Store.Memory

/-!
# Records, queries and schemas as documents

The written forms of the data of a store are decoded here.

A field value is an object with a `type` and a `value`, in either order, or a
list of the two. When the value comes first it is kept until the type is known.
An attribute is an object in which the members of its kind stand beside its name
and its kind; all of them are kept until the object ends.
-/

namespace MailMerge.Json

open Decode

/-- A reference. -/
def reference : Decoder Reference :=
  (Field.required "entity" text |>.both (.both (Field.required "id" uuid)
    (Field.withDefault "name" (nullable text) none))).decode
    fun (entity, id, name) => ⟨entity, id, name⟩

/-- The kinds of field value. -/
inductive ValueKind where
  | null
  | text
  | integer
  | decimal
  | boolean
  | dateTime
  | optionSet
  | reference
  | id
deriving DecidableEq, Repr

namespace ValueKind

/-- The written name of a kind. -/
def name : ValueKind → Text
  | null => "null".toList
  | text => "text".toList
  | integer => "integer".toList
  | decimal => "decimal".toList
  | boolean => "boolean".toList
  | dateTime => "date_time".toList
  | optionSet => "option_set".toList
  | reference => "reference".toList
  | id => "id".toList

/-- All kinds. -/
def all : List ValueKind :=
  [null, text, integer, decimal, boolean, dateTime, optionSet, reference, id]

/-- The kind with a written name. -/
def ofName? (t : Text) : Option ValueKind :=
  all.find? fun kind => kind.name = t

/-- The value of a kind. -/
def content : ValueKind → Decoder Value
  | null => fun depth node => (fun _ => Value.null) <$> Decode.null depth node
  | text => fun depth node => Value.text <$> Decode.text depth node
  | integer => fun depth node => Value.integer <$> int64 depth node
  | decimal => fun depth node => (fun x => Value.decimal (.finite x)) <$> Decode.decimal depth node
  | boolean => fun depth node => Value.boolean <$> bool depth node
  | dateTime => fun depth node => Value.dateTime <$> instant depth node
  | optionSet => fun depth node => Value.optionSet <$> int32 depth node
  | reference => fun depth node => Value.reference <$> Json.reference depth node
  | id => fun depth node => Value.id <$> uuid depth node

/-- A kind, as a member of an object. -/
def tag : Decoder ValueKind :=
  plainVariant ofName?

end ValueKind

/-- What is known of a field value. -/
inductive ValueDraft where
  | nothing
  | kind (k : ValueKind)
  | content (node : Node)
  | complete (v : Value)

namespace ValueDraft

/-- Takes in the type. -/
def putKind (draft : ValueDraft) (depth : Nat) (node : Node) : Except Fault ValueDraft :=
  match draft with
  | nothing => kind <$> ValueKind.tag depth node
  | content c => do
    let k ← ValueKind.tag depth node
    complete <$> kept k.content depth c
  | _ => .error .mismatch

/-- Takes in the value. -/
def putContent (draft : ValueDraft) (depth : Nat) (node : Node) : Except Fault ValueDraft :=
  match draft with
  | nothing => if node.usable depth then .ok (content node) else .error .malformed
  | kind k => complete <$> k.content depth node
  | _ => .error .mismatch

/-- The value, if it is complete; only the null value needs no more than its type. -/
def finish : ValueDraft → Except Fault Value
  | complete v => .ok v
  | kind .null => .ok .null
  | _ => .error .mismatch

end ValueDraft

/-- The field value from the members of an object. -/
def valueOfMembers (depth : Nat) (draft : ValueDraft) (ending : Ending) :
    List (Key × Node) → Except Fault Value
  | [] => do
    closed ending
    draft.finish
  | (key, node) :: rest =>
    if key.whole then do
      let draft ←
        if key.text = "type".toList then draft.putKind depth node
        else if key.text = "value".toList then draft.putContent depth node
        else (fun _ => draft) <$> ignore node
      valueOfMembers depth draft ending rest
    else .error .malformed

/-- The field value from the items of a list. -/
def valueOfItems (depth : Nat) (ending : Ending) (items : List Node) : Except Fault Value :=
  match items with
  | [] => do
    closed ending
    .error .mismatch
  | first :: rest => do
    let kind ← checked text ValueKind.ofName? depth first
    match rest with
    | [] => do
      closed ending
      .error .mismatch
    | second :: rest => do
      let v ← kind.content depth second
      if rest.isEmpty ∧ ending = .closed then .ok v else .error .malformed

/-- A field value. -/
def value : Decoder Value := fun depth node =>
  match node with
  | .object members ending => valueOfMembers (depth + 1) .nothing ending members
  | .array items ending => valueOfItems (depth + 1) ending items
  | node => .error (misfit node)

/-- A record. -/
def record : Decoder Record :=
  (Field.required "entity" text |>.both (.both (Field.required "id" uuid)
    (Field.withDefault "fields" (dict value) .empty))).decode
    fun (entity, id, fields) => ⟨entity, id, fields⟩

/-- The columns that are asked for. -/
def columns : Decoder Columns :=
  variant (fun name => if name = "all".toList then some .all else none) fun name =>
    if name = "all".toList then some fun depth node => (fun _ => .all) <$> null depth node
    else if name = "columns".toList then some fun depth node => .only <$> list text depth node
    else none

/-- The operator with a written name. -/
def operatorOfName? (t : Text) : Option Operator :=
  if t = "equal".toList then some .equal
  else if t = "not_equal".toList then some .notEqual
  else if t = "null".toList then some .null
  else if t = "not_null".toList then some .notNull
  else none

/-- A condition. -/
def condition : Decoder Condition :=
  (Field.required "field" text |>.both (.both
    (Field.required "operator" (plainVariant operatorOfName?))
    (Field.withDefault "value" value .null))).decode
    fun (field, operator, v) => ⟨field, operator, v⟩

/-- A query. -/
def query : Decoder Query :=
  (Field.required "entity" text |>.both (.both (Field.withDefault "columns" columns .all)
    (Field.withDefault "conditions" (list condition) []))).decode
    fun (entity, columns, conditions) => ⟨entity, columns, conditions⟩

/-- A code and its label. -/
def choice : Decoder Choice :=
  (Field.required "value" int32 |>.both (Field.required "label" text)).decode
    fun (code, label) => ⟨code, label⟩

/-- The documents kept under a name, which must come no more than once. -/
def keptOnce (kept : List (Text × Node)) (name : String) : Except Fault (Option Node) :=
  match kept.filter fun member => member.1 = name.toList with
  | [] => .ok none
  | [(_, node)] => .ok (some node)
  | _ => .error .mismatch

/-- The names of the kinds of attribute, in their order. -/
def attributeKindNames : List Text :=
  ["text".toList, "date_time".toList, "picklist".toList, "lookup".toList, "other".toList]

/-- The name of the kind of an attribute, given as such or by its place in the order. -/
def attributeKindName : Node → Except Fault Text
  | .string t _ => if t ∈ attributeKindNames then .ok t else .error .mismatch
  | .number (some (.integer n)) =>
    if 0 ≤ n then Shape.require attributeKindNames[n.toNat]? else .error .mismatch
  | _ => .error .mismatch

/-- The kind of an attribute, from the members kept beside its name. -/
def attributeKind (depth : Nat) (members : List (Text × Node)) : Except Fault AttributeKind := do
  let tag ← Shape.require (← keptOnce members "kind")
  let name ← attributeKindName tag
  if name = "text".toList then
    match ← keptOnce members "format" with
    | none => .ok (.text none)
    | some node => .text <$> kept (nullable text) depth node
  else if name = "date_time".toList then .ok .dateTime
  else if name = "picklist".toList then
    match ← keptOnce members "options" with
    | none => .ok (.picklist [])
    | some node => .picklist <$> kept (list choice) depth node
  else if name = "lookup".toList then .ok .lookup
  else .ok .other

/-- An attribute from the members of an object, with its name and the members beside it
as far as they are known. -/
def attributeOfMembers (depth : Nat) (name : Option Text) (kept : List (Text × Node))
    (ending : Ending) : List (Key × Node) → Except Fault Attribute
  | [] => do
    closed ending
    let name ← Shape.require name
    return ⟨name, ← attributeKind depth kept.reverse⟩
  | (key, node) :: rest =>
    if key.whole then
      if key.text = "name".toList then
        if name.isSome then .error .mismatch
        else do
          let name ← text depth node
          attributeOfMembers depth (some name) kept ending rest
      else if node.usable depth then
        attributeOfMembers depth name ((key.text, node) :: kept) ending rest
      else .error .malformed
    else .error .malformed

/-- An attribute. -/
def attributeDecoder : Decoder Attribute := fun depth node =>
  match node with
  | .object members ending => attributeOfMembers (depth + 1) none [] ending members
  | node => .error (misfit node)

/-- A schema. -/
def schema : Decoder Schema :=
  (Field.required "entity" text |>.both
    (Field.withDefault "attributes" (list attributeDecoder) [])).decode
    fun (entity, attributes) => ⟨entity, attributes⟩

/-- A seed. -/
def seed : Decoder Seed :=
  (Field.withDefault "records" (list record) [] |>.both
    (Field.withDefault "metadata" (list schema) [])).decode
    fun (records, schemas) => ⟨records, schemas⟩

end MailMerge.Json
