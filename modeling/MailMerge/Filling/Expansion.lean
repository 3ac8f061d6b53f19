import MailMerge.Filling.FieldPath
import MailMerge.Filling.Link
import MailMerge.Filling.Related
import MailMerge.Template.Placeholder

/-!
# Expansion of placeholders

The placeholders of a text are filled one after the other, in the order in which
they stand in the text. Filling one replaces every occurrence of it, so that
equal placeholders look alike. A link to a referenced record stays as it is when
the field points nowhere.

A list of related records fills one item after the other: the parts of the
directive become placeholders that are filled for each of the records. Lists
inside of lists are filled down to a given depth; below it they show nothing.

Main facts:

* `expand_of_no_placeholder`: a text without placeholders stays as it is.
-/

namespace MailMerge.Filling

/-- What the letters of a session are filled with. -/
structure Setup where
  source : Source
  /-- The address of a record under the base address. -/
  address : Text → Text → Uuid → Text
  baseAddress : Text
  offsetHours : Int
  maxDepth : Nat

/-- The depth to which lists are filled unless another one is given. -/
def defaultDepth : Nat := 8

/-- The text for a directive; none leaves the placeholder as it is. `list` fills the
list of related records. -/
def render (setup : Setup) (list : Text → Text → List Text → Work StoreError Text)
    (record : Record) : Template.Directive → Work StoreError (Option Text)
  | .referenceLink field text =>
    if Text.blank field then return none
    else
      match record.reference? field with
      | some target =>
        return some (Link.anchor (setup.address setup.baseAddress target.entity target.id) text)
      | none => return none
  | .recordLink text =>
    return some (Link.anchor (setup.address setup.baseAddress record.entity record.id) text)
  | .related entity key parts => some <$> list entity key parts
  | .malformedRelated => return some []
  | .field path => some <$> resolve setup.source setup.offsetHours path record

/-- Fills one placeholder of a text wherever it stands in the text. -/
def fillPlaceholder (renderOne : Template.Directive → Work StoreError (Option Text))
    (text placeholder : Text) : Work StoreError Text := do
  let directive := Template.Directive.parse (Template.directiveText placeholder)
  let rendered ← renderOne directive
  match rendered with
  | none =>
    Work.count Counters.addUnresolved
    return text
  | some new =>
    Work.count fun c => c.addPlaceholder directive.kind
    return Text.replaceAll placeholder new text

/-- Fills the placeholders of a text one after the other. -/
def fillAll (renderOne : Template.Directive → Work StoreError (Option Text)) (text : Text) :
    Work StoreError Text :=
  (Template.scan text).foldlM (fillPlaceholder renderOne) text

/-- The text of which the items of a list are made. -/
def itemTemplate (parts : List Text) : Text :=
  parts.flatMap Template.wrap

/-- A list with its items. -/
def listMarkup (items : List Text) : Text :=
  "<ul>".toList ++ (items.flatMap fun item => "<li>".toList ++ item ++ "</li>".toList)
    ++ "</ul>".toList

/-- The list of the records related to a parent; `fillItem` fills the text of an item
for a record. -/
def relatedList (setup : Setup) (fillItem : Record → Text → Work StoreError Text)
    (parent : Record) (entity key : Text) (parts : List Text) : Work StoreError Text := do
  let query ← build entity key parent.id (columnsOf parts)
  let found ← Work.search setup.source query
  let items ← found.mapM fun r => fillItem r (itemTemplate parts)
  return listMarkup items

/-- Fills the placeholders of a text for a record, with lists inside of lists down to a
depth. -/
def expandAt (setup : Setup) : Nat → Record → Text → Work StoreError Text
  | 0, record, text => fillAll (render setup (fun _ _ _ => return []) record) text
  | depth + 1, record, text =>
    fillAll (render setup (relatedList setup (fun r t => expandAt setup depth r t) record) record)
      text

/-- Fills the placeholders of a text for a record. -/
def expand (setup : Setup) (record : Record) (text : Text) : Work StoreError Text :=
  expandAt setup setup.maxDepth record text

theorem expand_of_no_placeholder (setup : Setup) (record : Record) {text : Text}
    (h : Template.scan text = []) (s : Session) :
    (expand setup record text).perform s = (.ok text, s) := by
  unfold expand
  cases setup.maxDepth <;> simp [expandAt, fillAll, h]

end MailMerge.Filling
