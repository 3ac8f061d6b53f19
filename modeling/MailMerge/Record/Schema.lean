import MailMerge.Text.Basic

/-!
# Descriptions of entities

A schema lists the attributes of an entity and what kind each of them is of. The
code of an option set is given a label by the choices of a picklist. Attributes
are found by name up to the case of ASCII letters, the first one first.

Main facts:

* `attribute?_of_sameLetters`: the case of the letters in a name is of no
  account.
-/

namespace MailMerge

/-- A code and its label. -/
structure Choice where
  code : Int32
  label : Text
deriving DecidableEq

/-- What an attribute holds. -/
inductive AttributeKind where
  | text (format : Option Text)
  | dateTime
  | picklist (choices : List Choice)
  | lookup
  | other
deriving DecidableEq

/-- An attribute of an entity. -/
structure Attribute where
  name : Text
  kind : AttributeKind
deriving DecidableEq

/-- The attributes of an entity. -/
structure Schema where
  entity : Text
  attributes : List Attribute
deriving DecidableEq

namespace Schema

instance : Inhabited Schema := ⟨⟨[], []⟩⟩

/-- The first attribute with a name. -/
def attribute? (s : Schema) (name : Text) : Option Attribute :=
  s.attributes.find? fun a => Text.sameLetters a.name name

/-- The choices of an attribute; none when it is missing or no picklist. -/
def choices? (s : Schema) (name : Text) : Option (List Choice) :=
  match s.attribute? name with
  | some ⟨_, .picklist choices⟩ => some choices
  | _ => none

theorem attribute?_of_sameLetters (s : Schema) {a b : Text} (h : Text.sameLetters a b = true) :
    s.attribute? a = s.attribute? b := by
  have hl : Text.lower a = Text.lower b := by simpa [Text.sameLetters] using h
  simp [attribute?, Text.sameLetters, hl]

end Schema

end MailMerge
