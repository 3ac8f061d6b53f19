import MailMerge.Text.Basic

/-!
# Media types

The header that says what kind of content a message carries: a type and a
subtype, which may have a suffix behind its last plus sign, and parameters
behind semicolons. The parameters are checked but not kept.

Main facts:

* `subtype_append_suffix`: the suffix is what stands behind the last plus sign of the
  subtype.
-/

namespace MailMerge.Web

/-- Whether a character may stand in a name or in a plain value. -/
def isTokenChar (c : Char) : Bool :=
  c.isAlphanum || c ∈ "!#$%&'*+-.^_|~\x60".toList

/-- How far the parameters of a media type have been read. -/
inductive ParameterState where
  | start
  | name
  | valueStart
  | value
  | quotedStart
  | quoted
  | quotedEnd
deriving DecidableEq, Repr

namespace ParameterState

/-- The state behind one more character; none when it must not stand there. A quoted
value has at least one character, whatever that is. -/
def step : ParameterState → Char → Option ParameterState
  | start, c => if c = ' ' then some start else if isTokenChar c then some name else none
  | name, c => if c = '=' then some valueStart else if isTokenChar c then some name else none
  | valueStart, c =>
    if c = '\x22' then some quotedStart else if isTokenChar c then some value else none
  | value, c => if c = ';' then some start else if isTokenChar c then some value else none
  | quotedStart, c => if c = '\t' then none else some quoted
  | quoted, c => if c = '\x22' then some quotedEnd else if c = '\t' then none else some quoted
  | quotedEnd, c => if c = ';' then some start else if c = ' ' then some quotedEnd else none

/-- Whether the parameters may end in a state. -/
def complete : ParameterState → Bool
  | name => false
  | quotedStart => false
  | quoted => false
  | _ => true

end ParameterState

/-- A media type: its type, and its subtype with the suffix cut off. -/
structure MediaType where
  type : Text
  subtype : Text
  suffix : Option Text
deriving DecidableEq, Repr

namespace MediaType

/-- A media type of a type and a whole subtype. -/
def ofNames (type subtype : Text) : MediaType :=
  let suffix := Text.behindLast '+' subtype
  let rest := subtype.take (subtype.length - suffix.length - 1)
  if rest.isEmpty then ⟨type, subtype, none⟩ else ⟨type, rest, some suffix⟩

/-- Whether parameters are well-formed. -/
def parametersOk (t : Text) : Bool :=
  (t.foldlM ParameterState.step .start).any ParameterState.complete

/-- Whether a header is made of printable ASCII characters, blanks and tabs. -/
def printable (t : Text) : Bool :=
  t.all fun c => (32 ≤ c.toNat && c.toNat < 127) || c = '\t'

/-- Reads the header of a media type. -/
def read? (t : Text) : Option MediaType :=
  if printable t then
    match t.span isTokenChar with
    | (type, '/' :: rest) =>
      if type.isEmpty then none
      else
        match rest.span isTokenChar with
        | (subtype, []) => some (ofNames type subtype)
        | (subtype, ';' :: parameters) =>
          if !subtype.isEmpty && parametersOk parameters then some (ofNames type subtype) else none
        | _ => none
    | _ => none
  else none

/-- Whether content of a media type is a document. -/
def isJson (m : MediaType) : Bool :=
  Text.sameLetters m.type "application".toList &&
    (Text.sameLetters m.subtype "json".toList
      || m.suffix.any fun s => Text.sameLetters s "json".toList)

theorem subtype_append_suffix {type subtype suffix : Text}
    (h : (ofNames type subtype).suffix = some suffix) :
    '+' ∉ suffix ∧ (ofNames type subtype).subtype ++ '+' :: suffix = subtype := by
  by_cases hplus : '+' ∈ subtype
  · obtain ⟨back, front, hreverse, hback⟩ :=
      List.eq_append_cons_of_mem (List.mem_reverse.2 hplus)
    have hsubtype : subtype = front.reverse ++ '+' :: back.reverse := by
      rw [← List.reverse_reverse subtype, hreverse]
      simp
    have hlast : '+' ∉ back.reverse := fun hmem => hback (List.mem_reverse.1 hmem)
    subst hsubtype
    rw [ofNames, Text.behindLast_append_cons hlast] at h ⊢
    have htake : (front.reverse ++ '+' :: back.reverse).length - back.reverse.length - 1 =
        front.reverse.length := by
      simp only [List.length_append, List.length_cons]
      omega
    rw [htake, List.take_left] at h ⊢
    split at h
    · cases h
    · next hne =>
      cases h
      rw [if_neg hne]
      exact ⟨hlast, rfl⟩
  · have hwhole : Text.behindLast '+' subtype = subtype := Text.behindLast_of_not_mem hplus
    rw [ofNames, hwhole] at h
    simp at h

end MediaType

end MailMerge.Web
