import MailMerge.Text.Basic

/-!
# Directives

A directive is told by the word that it starts with; the first of these that
fits decides.

| Directive | It asks for |
|---|---|
| `REF_RECORD_URL_field\|text` | a link to the record that a field points at |
| `RECORD_URL\|text` | a link to the record at hand |
| `RELATED_entity-key-part-part…` | a list of the records whose key field points here |
| anything else | the value at a path of fields |

The text of a link stands behind the last bar, and is the whole directive when
there is none.

Main facts:

* `parse_eq_field`: a directive that starts with none of the words is a path;
* `ofParts_cons_cons`: a list needs an entity and a key.
-/

namespace MailMerge.Template

/-- What a placeholder asks for. -/
inductive Directive where
  | referenceLink (field text : Text)
  | recordLink (text : Text)
  | related (entity key : Text) (parts : List Text)
  | malformedRelated
  | field (path : Text)
deriving DecidableEq, Repr

/-- The kinds of directive that are counted apart. -/
inductive DirectiveKind where
  | field
  | recordLink
  | referenceLink
  | related
deriving DecidableEq, Repr

namespace Directive

/-- The word for a link to a referenced record. -/
def referenceLinkWord : Text := "REF_RECORD_URL".toList

/-- The word for a link to the record at hand. -/
def recordLinkWord : Text := "RECORD_URL".toList

/-- The word for a list of related records. -/
def relatedWord : Text := "RELATED".toList

/-- A directive for related records from its parts: the entity, the key field and
what each item shows. -/
def ofParts : List Text → Directive
  | entity :: key :: parts =>
    if entity = [] ∨ key = [] then malformedRelated else related entity key parts
  | _ => malformedRelated

/-- Reads a directive. -/
def parse (t : Text) : Directive :=
  if Text.startsWith referenceLinkWord t then
    referenceLink ((Text.dropMark? (referenceLinkWord ++ ['_']) (Text.before '|' t)).getD [])
      (Text.behindLast '|' t)
  else if Text.startsWith recordLinkWord t then
    recordLink (Text.behindLast '|' t)
  else
    match Text.dropMark? relatedWord t with
    | some rest => ofParts (Text.fields '-' ((Text.dropMark? ['_'] rest).getD rest))
    | none => field t

/-- The kind that a directive is counted as. -/
def kind : Directive → DirectiveKind
  | referenceLink _ _ => .referenceLink
  | recordLink _ => .recordLink
  | related _ _ _ => .related
  | malformedRelated => .related
  | field _ => .field

theorem ofParts_cons_cons {entity key : Text} (he : entity ≠ []) (hk : key ≠ [])
    (parts : List Text) : ofParts (entity :: key :: parts) = related entity key parts := by
  simp [ofParts, he, hk]

theorem parse_eq_field {t : Text} (h1 : Text.startsWith referenceLinkWord t = false)
    (h2 : Text.startsWith recordLinkWord t = false)
    (h3 : Text.dropMark? relatedWord t = none) : parse t = field t := by
  simp [parse, h1, h2, h3]

end Directive

end MailMerge.Template
