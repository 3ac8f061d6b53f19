import MailMerge.Record.Query
import MailMerge.Record.Schema

/-!
# Sources of records

Letters are filled from a source that answers three questions: the record with
an identifier, the records that a query asks for, and the schema of an entity.
Any of them may fail. A call is a question put to a source.

A source is what a store answers at one time, so that it answers a question alike
however often it is asked. Where records come and go, or a call fails once and
succeeds later, another source takes the place of the first one: a run of requests
puts each of them to a source of its own. Answers that change while one and the
same request is being served are not told apart here.

Main facts:

* `isNotFound_iff`: a failure is a gap in the data exactly when the record that
  was asked for is not there.
-/

namespace MailMerge

/-- Why a source gave no answer. -/
inductive StoreError where
  /-- There is no such record. -/
  | notFound (entity : Text) (id : Uuid)
  /-- The source cannot be reached or refuses. -/
  | unavailable (reason : Text)
  /-- Stored data could not be decoded. -/
  | undecodable (reason : Text)
  /-- Stored data could not be read. -/
  | unreadable (reason : Text)
deriving DecidableEq, Inhabited

namespace StoreError

/-- The wording of a failure. -/
def message : StoreError → Text
  | notFound entity id =>
    "Record not found: ".toList ++ entity ++ '(' :: id.text ++ [')']
  | unavailable reason => "Store unavailable: ".toList ++ reason
  | undecodable reason => "Serialization error: ".toList ++ reason
  | unreadable reason => "I/O error: ".toList ++ reason

/-- Whether a failure is a gap in the data, which a letter shows as nothing. -/
def isNotFound : StoreError → Bool
  | notFound _ _ => true
  | _ => false

theorem isNotFound_iff (e : StoreError) :
    e.isNotFound = true ↔ ∃ entity id, e = .notFound entity id := by
  cases e <;> simp [isNotFound]

end StoreError

/-- A question put to a source. -/
inductive Call where
  | retrieve (entity : Text) (id : Uuid) (columns : Columns)
  | search (query : Query)
  | describe (entity : Text)
deriving DecidableEq

/-- What answers the questions. -/
structure Source where
  /-- The record of an entity with an identifier, with the columns asked for. -/
  retrieve : Text → Uuid → Columns → Except StoreError Record
  /-- The records that a query asks for. -/
  search : Query → Except StoreError (List Record)
  /-- The schema of an entity. -/
  describe : Text → Except StoreError Schema

namespace Source

/-- The failure of a call, if it fails. -/
def failure? (s : Source) : Call → Option StoreError
  | .retrieve entity id columns =>
    match s.retrieve entity id columns with
    | .error e => some e
    | .ok _ => none
  | .search query =>
    match s.search query with
    | .error e => some e
    | .ok _ => none
  | .describe entity =>
    match s.describe entity with
    | .error e => some e
    | .ok _ => none

end Source

end MailMerge
