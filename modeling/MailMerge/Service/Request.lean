import MailMerge.Filling.Letter

/-!
# Requests for letters

A request names a template by title or by the identifier of a user's template,
the record that the letter is for, values for the caller's tokens, and queries
that take the place of the usual ones for related records. Without a record the
template is shown as it stands.

Main facts:

* `source_of_title`: a title that is not blank decides which template is meant.
-/

namespace MailMerge.Service

/-- A request for a letter. -/
structure Request where
  templateName : Option Text
  userTemplateId : Option Uuid
  record : Option Reference
  tokens : Dict Text Text
  filters : Dict Text Query
deriving DecidableEq

namespace Request

/-- The template that is meant. -/
def source (r : Request) : Filling.TemplateSource :=
  .select r.templateName r.userTemplateId

theorem source_of_title {r : Request} {title : Text} (hn : r.templateName = some title)
    (ht : Text.trim title ≠ []) : r.source = .named (Text.trim title) := by
  simp [source, Filling.TemplateSource.select, hn, Option.filter, ht]

end Request

end MailMerge.Service
