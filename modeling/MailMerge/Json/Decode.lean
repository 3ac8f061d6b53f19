import MailMerge.Json.Node
import MailMerge.Keyed
import MailMerge.Calendar.Reading

/-!
# Decoding

A decoder makes a value from a document. It goes through the document from left
to right and stops at the first fault: either the text is no document there, or
the document has another shape than the value asked for.

Main facts:

* `ofText_of_read`: a text is decoded when its document is, and nothing stands
  behind the document.
-/

namespace MailMerge.Json

/-- Why a value cannot be decoded. -/
inductive Fault where
  /-- The text is no document. -/
  | malformed
  /-- The document is not of the shape asked for. -/
  | mismatch
deriving DecidableEq, Repr

/-- Makes a value from a document that has a number of lists and objects around it. -/
abbrev Decoder (α : Type) := Nat → Node → Except Fault α

namespace Decode

variable {α β : Type}

/-- The fault of a document that is not of the shape asked for. A plain value is read to
its end before that is noticed, a list or an object is not. -/
def misfit : Node → Fault
  | .broken => .malformed
  | .number none => .malformed
  | .string _ false => .malformed
  | _ => .mismatch

/-- The fault of a document that is not to be kept: it is malformed unless it is sound. -/
def ignore (node : Node) : Except Fault Unit :=
  if node.sound then .ok () else .error .malformed

/-- A document must be closed when all that was asked for has been found in it. -/
def closed (ending : Ending) : Except Fault Unit :=
  if ending = .closed then .ok () else .error .malformed

/-- A value made from another one, where that is possible. -/
def checked (d : Decoder α) (f : α → Option β) : Decoder β := fun depth node => do
  match f (← d depth node) with
  | some b => .ok b
  | none => .error .mismatch

/-- A text. -/
def text : Decoder Text := fun _ node =>
  match node with
  | .string t true => .ok t
  | node => .error (misfit node)

/-- An integer. -/
def integer : Decoder Int := fun _ node =>
  match node with
  | .number (some (.integer n)) => .ok n
  | node => .error (misfit node)

/-- An integer of 64 bits. -/
def int64 : Decoder Int64 :=
  checked integer fun n =>
    if -0x8000000000000000 ≤ n ∧ n < 0x8000000000000000 then some (Int64.ofInt n) else none

/-- An integer of 32 bits. -/
def int32 : Decoder Int32 :=
  checked integer fun n =>
    if -0x80000000 ≤ n ∧ n < 0x80000000 then some (Int32.ofInt n) else none

/-- A natural number. -/
def nat : Decoder Nat :=
  checked integer fun n => if 0 ≤ n then some n.toNat else none

/-- A floating point number. -/
def decimal : Decoder Binary64 := fun _ node =>
  match node with
  | .number (some (.integer n)) =>
    match Binary64.ofQuotient? (n < 0) n.natAbs 1 with
    | some x => .ok x
    | none => .error .mismatch
  | .number (some (.decimal x)) => .ok x
  | node => .error (misfit node)

/-- A truth value. -/
def bool : Decoder Bool := fun _ node =>
  match node with
  | .bool b => .ok b
  | node => .error (misfit node)

/-- Null. -/
def null : Decoder Unit := fun _ node =>
  match node with
  | .null => .ok ()
  | node => .error (misfit node)

/-- A value or null. -/
def nullable (d : Decoder α) : Decoder (Option α) := fun depth node =>
  match node with
  | .null => .ok none
  | node => some <$> d depth node

/-- An identifier. -/
def uuid : Decoder Uuid :=
  checked text Uuid.read?

/-- An instant. -/
def instant : Decoder Calendar.Instant :=
  checked text Calendar.Instant.ofStamp?

/-- Values decoded one after the other. -/
def each (d : Decoder α) (depth : Nat) : List Node → Except Fault (List α)
  | [] => .ok []
  | node :: rest => do
    let a ← d depth node
    return a :: (← each d depth rest)

/-- A list. -/
def list (d : Decoder α) : Decoder (List α) := fun depth node =>
  match node with
  | .array items ending => do
    let values ← each d (depth + 1) items
    closed ending
    return values
  | node => .error (misfit node)

/-- Named values decoded one after the other; the last value of a name stays. -/
def eachMember (d : Decoder α) (depth : Nat) (start : Dict Text α) :
    List (Key × Node) → Except Fault (Dict Text α)
  | [] => .ok start
  | (key, node) :: rest =>
    if key.whole then do
      let a ← d depth node
      eachMember d depth (start.set key.text a) rest
    else .error .malformed

/-- An object whose members are all of one kind. -/
def dict (d : Decoder α) : Decoder (Dict Text α) := fun depth node =>
  match node with
  | .object members ending => do
    let values ← eachMember d (depth + 1) .empty members
    closed ending
    return values
  | node => .error (misfit node)

/-- One of several variants, by name. A variant is written as its name alone, if it has
nothing more to it, or as an object with one member of that name. Anything else is
no document of a variant at all. -/
def variant (alone : Text → Option α) (content : Text → Option (Decoder α)) : Decoder α :=
  fun depth node =>
    match node with
    | .string name true =>
      match alone name with
      | some a => .ok a
      | none => .error .mismatch
    | .object ((key, value) :: rest) ending =>
      if key.whole then
        match content key.text with
        | some d => do
          let a ← d (depth + 1) value
          if rest.isEmpty ∧ ending = .closed then .ok a else .error .malformed
        | none => .error .mismatch
      else .error .malformed
    | .object [] .nameless => .error .mismatch
    | _ => .error .malformed

/-- One of several variants that have nothing more to them. -/
def plainVariant (alone : Text → Option α) : Decoder α :=
  variant alone fun name => (alone name).map fun a depth node => (fun _ => a) <$> null depth node

/-- A value from a document that was kept for later: it is malformed as a whole or not at
all. -/
def kept (d : Decoder α) : Decoder α := fun depth node =>
  match d depth node with
  | .ok a => .ok a
  | .error _ => .error .mismatch

/-- A value from a text. -/
def ofText (d : Decoder α) (t : Text) : Except Fault α := do
  let (node, rest) := Node.read t
  let a ← d 0 node
  if rest.isEmpty then .ok a else .error .malformed

theorem ofText_of_read {d : Decoder α} {t : Text} {node : Node} {a : α}
    (hr : Node.read t = (node, [])) (hd : d 0 node = .ok a) : ofText d t = .ok a := by
  simp [ofText, hr, hd, bind, Except.bind]

end Decode

end MailMerge.Json
