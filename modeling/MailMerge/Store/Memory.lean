import MailMerge.Keyed
import MailMerge.Store.Source

/-!
# Records in memory

A store keeps records under their entity and identifier, and schemas under their
entity. A record that is stored again takes the place of the earlier one, so that
a search lists records in the order in which they were first stored. An entity
without a schema has no attributes.

A store can be made to fail: a rule names a call and an entity, either of which
may be left open, and the first rule that fits a call decides how it fails.

Main facts:

* `retrieve_insert`: the record stored last under an identifier is retrieved;
* `describe_ne_error`: a store always knows a schema;
* `Source.failing_failing`: rules over rules are the rules one after the other.
-/

namespace MailMerge

/-- Records and schemas in memory. -/
structure Store where
  records : Keyed Record.key
  schemas : Keyed Schema.entity
deriving DecidableEq

/-- What a store is filled with at first. -/
structure Seed where
  records : List Record
  schemas : List Schema
deriving DecidableEq, Inhabited

namespace Store

/-- A store that holds nothing. -/
def empty : Store := ⟨.empty, .empty⟩

instance : Inhabited Store := ⟨empty⟩

/-- The store with a record added or replaced. -/
def insert (s : Store) (r : Record) : Store :=
  { s with records := s.records.insert r }

/-- The store with a schema added or replaced. -/
def insertSchema (s : Store) (schema : Schema) : Store :=
  { s with schemas := s.schemas.insert schema }

/-- A store filled with the records of a seed and then with its schemas. -/
def ofSeed (seed : Seed) : Store :=
  ⟨Keyed.ofList seed.records, Keyed.ofList seed.schemas⟩

/-- The number of records. -/
def recordCount (s : Store) : Nat :=
  s.records.size

/-- The record with an identifier, with the columns asked for. -/
def retrieve (s : Store) (entity : Text) (id : Uuid) (columns : Columns) :
    Except StoreError Record :=
  match s.records.find? (entity, id) with
  | some r => .ok (r.project columns)
  | none => .error (.notFound entity id)

/-- The records that a query asks for, in the order in which they were first stored. -/
def search (s : Store) (query : Query) : List Record :=
  (s.records.members.filter query.accepts).map fun r => r.project query.columns

/-- The schema of an entity. -/
def describe (s : Store) (entity : Text) : Schema :=
  (s.schemas.find? entity).getD ⟨entity, []⟩

/-- The store as a source. -/
def toSource (s : Store) : Source where
  retrieve := s.retrieve
  search query := .ok (s.search query)
  describe entity := .ok (s.describe entity)

theorem retrieve_insert (s : Store) (r : Record) (columns : Columns) :
    (s.insert r).retrieve r.entity r.id columns = .ok (r.project columns) := by
  simp [retrieve, insert, Keyed.find?_insert, Record.key]

theorem describe_ne_error (s : Store) (entity : Text) (e : StoreError) :
    s.toSource.describe entity ≠ .error e := by
  simp [toSource]

end Store

/-- The three kinds of call. -/
inductive CallKind where
  | retrieve
  | search
  | describe
deriving DecidableEq

/-- How a failing call fails. -/
inductive FailureKind where
  | unavailable
  | notFound
  | unreadable
  | undecodable
deriving DecidableEq

/-- A rule that makes calls fail; an open part fits every call. -/
structure FailureRule where
  call : Option CallKind
  entity : Option Text
  failure : FailureKind
  reason : Text
deriving DecidableEq

namespace FailureRule

/-- Whether a rule fits a call. -/
def fits (rule : FailureRule) (kind : CallKind) (entity : Text) : Bool :=
  rule.call.all (· = kind) && rule.entity.all (· = entity)

/-- The failure that the first rule that fits a call asks for. -/
def failure? (rules : List FailureRule) (kind : CallKind) (entity : Text) (id : Uuid) :
    Option StoreError :=
  (rules.find? fun rule => rule.fits kind entity).map fun rule =>
    match rule.failure with
    | .unavailable => .unavailable rule.reason
    | .notFound => .notFound entity id
    | .unreadable => .unreadable rule.reason
    | .undecodable => .undecodable rule.reason

theorem failure?_append (first rules : List FailureRule) (kind : CallKind) (entity : Text)
    (id : Uuid) :
    failure? (first ++ rules) kind entity id =
      (failure? first kind entity id).or (failure? rules kind entity id) := by
  unfold failure?
  rw [List.find?_append, Option.map_or]

end FailureRule

namespace Source

/-- A source that fails where a rule fits and answers like another one elsewhere. -/
def failing (s : Source) (rules : List FailureRule) : Source where
  retrieve entity id columns :=
    match FailureRule.failure? rules .retrieve entity id with
    | some e => .error e
    | none => s.retrieve entity id columns
  search query :=
    match FailureRule.failure? rules .search query.entity .zero with
    | some e => .error e
    | none => s.search query
  describe entity :=
    match FailureRule.failure? rules .describe entity .zero with
    | some e => .error e
    | none => s.describe entity

theorem failing_failing (s : Source) (first rules : List FailureRule) :
    (s.failing rules).failing first = s.failing (first ++ rules) := by
  unfold failing
  simp only [FailureRule.failure?_append, Source.mk.injEq]
  refine ⟨?_, ?_, ?_⟩
  · funext entity id columns
    cases FailureRule.failure? first .retrieve entity id <;> rfl
  · funext query
    cases FailureRule.failure? first .search query.entity .zero <;> rfl
  · funext entity
    cases FailureRule.failure? first .describe entity .zero <;> rfl

end Source

end MailMerge
