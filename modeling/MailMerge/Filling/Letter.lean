import MailMerge.Filling.Expansion
import MailMerge.Template.StoredText
import MailMerge.Template.Substitution

/-!
# Letters

A letter has a subject and a body. Its template is a shared one, found by its
title, or one that belongs to a user, found by its identifier; a name that is not
blank wins. A shared template is stored in CDATA sections, a user's template as it
stands.

A letter is filled for a record that is fetched first. Every letter that was to
be filled is counted as filled or failed; a template that is only looked at is
not.

Main facts:

* `select_eq_named_iff`, `select_eq_user_iff`: what a caller means by a name and an
  identifier.
-/

namespace MailMerge

/-- The subject and the body of a letter. -/
structure Letter where
  subject : Text
  body : Text
deriving DecidableEq, Inhabited

namespace Filling

/-- Where the text of a letter comes from. -/
inductive TemplateSource where
  /-- A shared template with a title. -/
  | named (title : Text)
  /-- A template that belongs to a user. -/
  | user (id : Uuid)
  /-- No template was given. -/
  | unset
deriving DecidableEq

/-- Why a letter could not be made. -/
inductive TemplateError where
  /-- No template has the name. -/
  | notFound (name : Text)
  /-- Several templates have the name. -/
  | ambiguous (name : Text) (count : Nat)
  /-- No template was given. -/
  | noSource
  /-- The source failed. -/
  | store (e : StoreError)
deriving DecidableEq

namespace TemplateError

/-- The wording of a failure. -/
def message : TemplateError → Text
  | notFound name => "Template not found: ".toList ++ name
  | ambiguous name count =>
    "Template name is ambiguous: ".toList ++ name ++ " (".toList ++ Text.natural count
      ++ " matches)".toList
  | noSource =>
    "Can't find template: neither a template name nor a user template id was supplied".toList
  | store e => e.message

end TemplateError

namespace TemplateSource

/-- The template that a caller means by a name and an identifier. -/
def select (name : Option Text) (id : Option Uuid) : TemplateSource :=
  match (name.map Text.trim).filter (· ≠ []), id with
  | some title, _ => named title
  | none, some id => user id
  | none, none => unset

section Selected

variable {name : Option Text} {id : Option Uuid}

/-- A name that is not blank wins. -/
theorem select_of_filter {title : Text}
    (h : (name.map Text.trim).filter (· ≠ []) = some title) :
    select name id = named title := by
  simp only [select, h]

theorem select_of_filter_eq_none (h : (name.map Text.trim).filter (· ≠ []) = none) :
    select name id = (id.map user).getD unset := by
  cases id <;> simp only [select, h, Option.map_some, Option.map_none, Option.getD]

theorem select_eq_named_iff {title : Text} :
    select name id = named title ↔ title ≠ [] ∧ name.map Text.trim = some title := by
  have hfilter : (name.map Text.trim).filter (· ≠ []) = some title ↔
      title ≠ [] ∧ name.map Text.trim = some title := by
    rw [Option.filter_eq_some_iff, decide_eq_true_eq, and_comm]
  rw [← hfilter]
  cases hgiven : (name.map Text.trim).filter (· ≠ []) with
  | some given => rw [select_of_filter hgiven, named.injEq, Option.some.injEq]
  | none =>
    rw [select_of_filter_eq_none hgiven]
    cases id <;> exact iff_of_false nofun nofun

theorem select_eq_user_iff {owned : Uuid} :
    select name id = user owned ↔ (∀ n ∈ name, Text.trim n = []) ∧ id = some owned := by
  have hfilter : (name.map Text.trim).filter (· ≠ []) = none ↔ ∀ n ∈ name, Text.trim n = [] := by
    simp
  rw [← hfilter]
  cases hgiven : (name.map Text.trim).filter (· ≠ []) with
  | some given =>
    rw [select_of_filter hgiven]
    exact iff_of_false nofun fun h => nomatch h.1
  | none =>
    rw [select_of_filter_eq_none hgiven]
    cases id <;> simp

end Selected

end TemplateSource

/-- The entity of the shared templates. -/
def templateEntity : Text := "template".toList

/-- The entity of the templates that belong to users. -/
def userTemplateEntity : Text := "ym_user_email_template".toList

/-- The query for the shared templates with a title. -/
def titleQuery (title : Text) : Query :=
  ⟨templateEntity, .only ["subject".toList, "body".toList],
    [⟨"title".toList, .equal, .text title⟩]⟩

/-- The texts of a shared template. -/
def loadNamed (source : Source) (title : Text) : Work TemplateError Letter := do
  let found ← Work.mapError .store (Work.search source (titleQuery title))
  match found with
  | [] => Work.fail (.notFound title)
  | [r] =>
    let part (field : String) := Template.cdata ((r.text? field.toList).getD [])
    return ⟨part "subject", part "body"⟩
  | _ => Work.fail (.ambiguous title found.length)

/-- The columns of a template that belongs to a user. -/
def userTemplateColumns : Columns :=
  .only ["ym_clean_template".toList, "ym_clean_subject".toList]

/-- The texts of a template that belongs to a user. -/
def loadUser (source : Source) (id : Uuid) : Work TemplateError Letter := do
  let r ← Work.mapError .store (Work.retrieve source userTemplateEntity id userTemplateColumns)
  let part (field : String) := (r.text? field.toList).getD []
  return ⟨part "ym_clean_subject", part "ym_clean_template"⟩

/-- The texts of a template, with escaped quotation marks turned into apostrophes. -/
def load (source : Source) (template : TemplateSource) : Work TemplateError Letter := do
  let raw ←
    match template with
    | .named title => loadNamed source title
    | .user id => loadUser source id
    | .unset => Work.fail .noSource
  return ⟨Template.normalizeQuotes raw.subject, Template.normalizeQuotes raw.body⟩

/-- The letter for a record, without counting it. -/
def fillFor (setup : Setup) (template : TemplateSource) (target : Reference) :
    Work TemplateError Letter := do
  let record ← Work.mapError .store (Work.retrieve setup.source target.entity target.id .all)
  let raw ← load setup.source template
  let subject ← Work.mapError .store (expand setup record raw.subject)
  let body ← Work.mapError .store (expand setup record raw.body)
  return ⟨subject, body⟩

/-- Work on a letter, counted as a letter filled or failed. -/
def counted {ε α : Type} (w : Work ε α) : Work ε α := fun s =>
  match w.perform s with
  | (.ok a, s') => (.ok a, s'.count Counters.addSuccess)
  | (.error e, s') => (.error e, s'.count Counters.addFailure)

/-- The letter for a record. -/
def fill (setup : Setup) (template : TemplateSource) (target : Reference) :
    Work TemplateError Letter :=
  counted (fillFor setup template target)

/-- The letter for a record, with the caller's tokens replaced. -/
def fillWith (setup : Setup) (template : TemplateSource) (target : Reference)
    (tokens : Dict Text Text) : Work TemplateError Letter := do
  let letter ← fill setup template target
  return ⟨Template.substitute tokens.members letter.subject,
    Template.substitute tokens.members letter.body⟩

/-- The template as it stands. -/
def raw (setup : Setup) (template : TemplateSource) : Work TemplateError Letter :=
  load setup.source template

end Filling

end MailMerge
