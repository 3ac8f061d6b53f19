import MailMerge.Calendar.Instant
import MailMerge.Number.Extended
import MailMerge.Uuid

/-!
# Field values

A field of a record holds one of a few kinds of value. A decimal is any floating point
number; a document spells finite ones only, but what is put into a store may hold the
others too. A reference points at another record by entity and identifier and may carry
the name that the record goes by.

Values are compared in two ways. `same` is equality. `agrees` is what a
condition of a query asks: a reference matches the identifier it points at, and
two references match when they point at the same record, whatever name they
carry.

Main facts:

* `agrees_comm`: agreement is symmetric;
* `agrees_self_iff`: every value agrees with itself but a decimal that is no number.
-/

namespace MailMerge

/-- A pointer at a record, with the name of that record if it came along. -/
structure Reference where
  entity : Text
  id : Uuid
  name : Option Text
deriving DecidableEq, Inhabited

/-- The value of a field. -/
inductive Value where
  | null
  | text (t : Text)
  | integer (n : Int64)
  | decimal (x : Extended)
  | boolean (b : Bool)
  | dateTime (t : Calendar.Instant)
  | optionSet (code : Int32)
  | reference (r : Reference)
  | id (u : Uuid)
deriving DecidableEq

namespace Value

instance : Inhabited Value := ⟨.null⟩

/-- Whether a value is the null value. -/
def isNull : Value → Bool
  | null => true
  | _ => false

/-- Equality of values; the two zeros among the decimals are equal, and a decimal that is no
number equals nothing. -/
def same : Value → Value → Bool
  | decimal x, decimal y => x.same y
  | v, w => v = w

/-- What a condition asks of two values. -/
def agrees : Value → Value → Bool
  | reference r, id u => r.id = u
  | id u, reference r => r.id = u
  | reference r, reference s => r.id = s.id ∧ r.entity = s.entity
  | v, w => same v w

/-- The text of a value in a letter; a reference and an option show their identifier
and their code. -/
def display : Value → Text
  | null => []
  | text t => t
  | integer n => Text.integer n.toInt
  | decimal x => x.text
  | boolean true => "true".toList
  | boolean false => "false".toList
  | dateTime t => t.offsetStamp
  | optionSet code => Text.integer code.toInt
  | reference r => r.id.text
  | id u => u.text

theorem same_self_iff (v : Value) : v.same v = true ↔ v ≠ decimal .nan := by
  cases v <;> simp [same, Extended.same_self_iff]

theorem same_comm (v w : Value) : v.same w = w.same v := by
  cases v <;> cases w <;> simp [same, Extended.same_comm, eq_comm]

theorem agrees_self_iff (v : Value) : v.agrees v = true ↔ v ≠ decimal .nan := by
  cases v <;> simp [agrees, same_self_iff]

theorem agrees_comm (v w : Value) : v.agrees w = w.agrees v := by
  cases v <;> cases w <;> simp [agrees, same_comm, eq_comm]

end Value

end MailMerge
