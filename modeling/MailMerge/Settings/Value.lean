import MailMerge.Keyed
import MailMerge.Number.Extended

/-!
# Values of settings

A setting is a plain value, a list or a table of named settings. Settings come
from several places, each of which may replace single entries of a table: what
comes later is laid over what came before. Names are the same in capitals and in
small letters. A list may have gaps, in which nothing stands.

A plain value is taken as what is asked for where that makes sense: a number may
be a text of digits, and a text may be a number.

Main facts:

* `get?_put_of_ne`, `get?_putAll_of_forall_ne`: what is laid over entries leaves
  those of other names as they are;
* `le_of_asNatural?`, `mem_of_asInteger32?`: numbers are taken within their bounds.
-/

namespace MailMerge

/-- The value of a setting. -/
inductive Setting where
  | nothing
  | text (t : Text)
  | integer (n : Int)
  | real (x : Extended)
  | truth (b : Bool)
  | list (items : List Setting)
  | table (entries : List (Text × Setting))

namespace Setting

instance : Inhabited Setting := ⟨table []⟩

/-- The entries of a table; other values have none. -/
def entries : Setting → List (Text × Setting)
  | table es => es
  | _ => []

/-- The items of a list; other values have none. -/
def items : Setting → List Setting
  | list items => items
  | _ => []

/-- The entry of a name. -/
def get? (name : Text) (es : List (Text × Setting)) : Option Setting :=
  (es.find? fun e => e.1 = name).map Prod.snd

mutual

/-- A value laid over the entry of a name: a table entry by entry, any other value as a
whole. -/
def put (name : Text) : Setting → List (Text × Setting) → List (Text × Setting)
  | table new, es =>
    place Prod.fst (Text.lower name, putAll new ((get? (Text.lower name) es).getD (table []))) es
  | nothing, es => place Prod.fst (Text.lower name, nothing) es
  | text t, es => place Prod.fst (Text.lower name, text t) es
  | integer n, es => place Prod.fst (Text.lower name, integer n) es
  | real x, es => place Prod.fst (Text.lower name, real x) es
  | truth b, es => place Prod.fst (Text.lower name, truth b) es
  | list items, es => place Prod.fst (Text.lower name, list items) es

/-- Entries laid over a value, which becomes a table unless there are none. -/
def putAll : List (Text × Setting) → Setting → Setting
  | [], old => old
  | (name, value) :: rest, old => putAll rest (table (put name value old.entries))

end

/-- Reads an integer between two bounds: digits, with a sign if it need not be natural or
is a plus sign. -/
def readInteger? (low high : Int) (t : Text) : Option Int :=
  let (negative, digits) := Extended.splitSign t
  if digits.isEmpty || !digits.all Text.isDigit || (negative && 0 ≤ low) then none
  else
    let n : Int := if negative then -(Text.digitsValue digits : Int) else Text.digitsValue digits
    if low ≤ n ∧ n ≤ high then some n else none

/-- The least integer of 64 bits. -/
def leastInteger : Int := -0x8000000000000000

/-- The greatest integer of 64 bits. -/
def greatestInteger : Int := 0x7fffffffffffffff

/-- The greatest natural number of 64 bits. -/
def greatestNatural : Int := 0xffffffffffffffff

/-- A plain value as a text. -/
def asText? : Setting → Option Text
  | nothing => none
  | text t => some t
  | integer n => some (Text.integer n)
  | real x => some x.text
  | truth b => some (if b then "true".toList else "false".toList)
  | list _ => none
  | table _ => none

/-- A plain value as an integer between two bounds of 64 bits: a truth value counts as
one or zero, a text may be a word for a truth value. -/
def asIntegerWithin? (low high : Int) : Setting → Option Int
  | nothing => none
  | text t =>
    let word := Text.lower t
    if word ∈ ["true".toList, "on".toList, "yes".toList] then some 1
    else if word ∈ ["false".toList, "off".toList, "no".toList] then some 0
    else readInteger? low high t
  | integer n => if low ≤ n ∧ n ≤ high then some n else none
  | real x => some (x.rounded low high)
  | truth b => some (if b then 1 else 0)
  | list _ => none
  | table _ => none

/-- A plain value as a natural number up to a bound. -/
def asNatural? (bound : Nat) (s : Setting) : Option Nat := do
  let n ← s.asIntegerWithin? 0 greatestNatural
  if n.toNat ≤ bound then some n.toNat else none

/-- A plain value as an integer of 32 bits. -/
def asInteger32? (s : Setting) : Option Int := do
  let n ← s.asIntegerWithin? leastInteger greatestInteger
  if -0x80000000 ≤ n ∧ n < 0x80000000 then some n else none

/-- A list of texts. -/
def asTexts? : Setting → Option (List Text)
  | list items => items.mapM asText?
  | _ => none

theorem get?_place_of_ne {name other : Text} (h : name ≠ other) (s : Setting)
    (es : List (Text × Setting)) :
    get? other (place Prod.fst (name, s) es) = get? other es := by
  rw [get?, Dict.map_find?_place, if_neg h]
  rfl

/-- Whatever is laid over the entry of a name, it is the only one that changes. -/
theorem exists_put_eq_place (name : Text) (s : Setting) (es : List (Text × Setting)) :
    ∃ s', put name s es = place Prod.fst (Text.lower name, s') es := by
  cases s <;> exact ⟨_, rfl⟩

theorem get?_put_of_ne {name other : Text} (h : Text.lower name ≠ other) (s : Setting)
    (es : List (Text × Setting)) : get? other (put name s es) = get? other es := by
  obtain ⟨s', hput⟩ := exists_put_eq_place name s es
  rw [hput, get?_place_of_ne h]

theorem get?_putAll_of_forall_ne {new : List (Text × Setting)} {other : Text}
    (h : ∀ e ∈ new, Text.lower e.1 ≠ other) (old : Setting) :
    get? other (putAll new old).entries = get? other old.entries := by
  induction new generalizing old with
  | nil => rw [putAll]
  | cons e rest ih =>
    obtain ⟨name, value⟩ := e
    rw [List.forall_mem_cons] at h
    rw [putAll, ih h.2, entries, get?_put_of_ne h.1]

theorem le_of_asNatural? {bound n : Nat} {s : Setting} (h : s.asNatural? bound = some n) :
    n ≤ bound := by
  simp only [asNatural?, bind, Option.bind_eq_some_iff] at h
  obtain ⟨i, -, hi⟩ := h
  split at hi
  · next hle => exact Option.some.inj hi ▸ hle
  · cases hi

theorem mem_of_asInteger32? {n : Int} {s : Setting} (h : s.asInteger32? = some n) :
    -0x80000000 ≤ n ∧ n < 0x80000000 := by
  simp only [asInteger32?, bind, Option.bind_eq_some_iff] at h
  obtain ⟨i, -, hi⟩ := h
  split at hi
  · next hmem => exact Option.some.inj hi ▸ hmem
  · cases hi

end Setting

end MailMerge
