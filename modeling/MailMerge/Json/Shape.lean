import MailMerge.Json.Decode

/-!
# Objects of a fixed shape

A value with several parts is written as an object whose members are the parts,
or as a list of the parts in order. Members of other names are passed over; a
member that comes twice is a fault, and so is one that is missing, unless it has
a value for that case.

A `Shape δ α` knows the members of an `α`; they are collected in a draft `δ`.

Main facts:

* `put_field_of_ne`: a part takes no member of another name;
* `put_both_of_left`: of two parts with one name the first takes the member.
-/

namespace MailMerge.Json

variable {α β δ ε : Type}

/-- One part of a value: its name, its decoder, and its value when it is missing from an
object or left off at the end of a list. -/
structure Field (α : Type) where
  name : Text
  decode : Decoder α
  absent : Option α
  omitted : Option α

/-- The members of an `α`, collected in a draft `δ`. -/
structure Shape (δ α : Type) where
  /-- The draft without members. -/
  empty : δ
  /-- The draft with one more member, or nothing when there is no member of that name. -/
  put : δ → Text → Nat → Node → Option (Except Fault δ)
  /-- The value of a draft that is complete. -/
  finish : δ → Except Fault α
  /-- The value from the first items of a list, with the items left over. -/
  take : Nat → List Node → Ending → Except Fault (α × List Node)

namespace Shape

/-- A part that is there or has a value for the case that it is not. -/
def require (o : Option α) : Except Fault α :=
  match o with
  | some a => .ok a
  | none => .error .mismatch

/-- A value with one part. -/
def field (f : Field α) : Shape (Option α) α where
  empty := none
  put draft name depth node :=
    if name = f.name then
      some (if draft.isSome then .error .mismatch else some <$> f.decode depth node)
    else none
  finish draft := require (draft <|> f.absent)
  take depth items ending :=
    match items with
    | item :: rest => do return (← f.decode depth item, rest)
    | [] => do
      Decode.closed ending
      return (← require f.omitted, [])

/-- A value with the parts of two others. -/
def both (s : Shape δ α) (r : Shape ε β) : Shape (δ × ε) (α × β) where
  empty := (s.empty, r.empty)
  put draft name depth node :=
    match s.put draft.1 name depth node with
    | some result => some (result.map fun d => (d, draft.2))
    | none => (r.put draft.2 name depth node).map fun result => result.map fun e => (draft.1, e)
  finish draft := do return (← s.finish draft.1, ← r.finish draft.2)
  take depth items ending := do
    let (a, rest) ← s.take depth items ending
    let (b, rest) ← r.take depth rest ending
    return ((a, b), rest)

/-- The draft with the members of an object. -/
def putAll (s : Shape δ α) (depth : Nat) (draft : δ) : List (Key × Node) → Except Fault δ
  | [] => .ok draft
  | (key, node) :: rest =>
    if key.whole then do
      let draft ←
        match s.put draft key.text depth node with
        | some result => result
        | none => (fun _ => draft) <$> Decode.ignore node
      putAll s depth draft rest
    else .error .malformed

/-- Decodes a value from an object of its members or a list of its parts. -/
def decode (s : Shape δ α) (f : α → β) : Decoder β := fun depth node =>
  match node with
  | .object members ending => do
    let draft ← s.putAll (depth + 1) s.empty members
    Decode.closed ending
    return f (← s.finish draft)
  | .array items ending => do
    let (a, rest) ← s.take (depth + 1) items ending
    if rest.isEmpty ∧ ending = .closed then .ok (f a) else .error .malformed
  | node => .error (Decode.misfit node)

theorem put_field_of_ne (f : Field α) {name : Text} (h : name ≠ f.name) (draft : Option α)
    (depth : Nat) (node : Node) : (field f).put draft name depth node = none := by
  simp [field, h]

theorem put_both_of_left (s : Shape δ α) (r : Shape ε β) {draft : δ × ε} {name : Text}
    {depth : Nat} {node : Node} {d : δ} (h : s.put draft.1 name depth node = some (.ok d)) :
    (both s r).put draft name depth node = some (.ok (d, draft.2)) := by
  simp [both, h, Except.map]

end Shape

namespace Field

/-- A part that must be there. -/
def required (name : String) (d : Decoder α) : Shape (Option α) α :=
  .field ⟨name.toList, d, none, none⟩

/-- A part with a value for the case that it is not there. -/
def withDefault (name : String) (d : Decoder α) (a : α) : Shape (Option α) α :=
  .field ⟨name.toList, d, some a, some a⟩

/-- A part that may be null, which it is when an object does not have it; a list must
have it. -/
def optional (name : String) (d : Decoder α) : Shape (Option (Option α)) (Option α) :=
  .field ⟨name.toList, Decode.nullable d, some none, none⟩

end Field

end MailMerge.Json
