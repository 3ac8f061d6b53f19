import MailMerge.Filling.Expansion

/-!
# How the filling of texts is put together

A text is filled by a few kinds of work that meet the source or the session, and
by plain ways of putting work together: one piece after the other, over a list,
along a path, down to a depth. What is true of those few kinds of work and passes
to work done one after the other is true of all the rest.

This is shown for relations between work, with two fillings side by side: a text
filled from one source, and the same text filled from another. A property of work
is a relation that does not look at the second filling.

Main facts:

* `Sequential.foldlM`, `Sequential.mapM`: loops;
* `Fieldwise.resolve`, `Fieldwise.render`: the text at a path and that of a directive,
  from two sources;
* `fieldwise_eq`: equal work, of sources that give the same records and schemas;
* `Textwise.renderAt`, `Textwise.expandAt`: the text of a directive and the filled
  text from two sources, at any depth;
* `Inherited.resolve`, `Inherited.renderAt`, `Inherited.expandAt`: the same for a
  property of work.
-/

namespace MailMerge.Filling

open Work

/-- A relation between pieces of work that passes to work done one after the other. -/
structure Sequential (R : ∀ α : Type, Work StoreError α → Work StoreError α → Prop) : Prop where
  pure : ∀ {α : Type} (a : α), R α (pure a) (pure a)
  bind : ∀ {α β : Type} {w w' : Work StoreError α} {f f' : α → Work StoreError β},
    R α w w' → (∀ a, R β (f a) (f' a)) → R β (w >>= f) (w' >>= f')

/-- A sequential relation under which placeholders may be counted. -/
structure Counting (R : ∀ α : Type, Work StoreError α → Work StoreError α → Prop) : Prop
    extends Sequential R where
  filled : ∀ kind, R Unit (count fun c => c.addPlaceholder kind)
    (count fun c => c.addPlaceholder kind)
  unresolved : R Unit (count Counters.addUnresolved) (count Counters.addUnresolved)

/-- A sequential relation between the work that fields ask of two sources. -/
structure Fieldwise (source source' : Source)
    (R : ∀ α : Type, Work StoreError α → Work StoreError α → Prop) : Prop
    extends Sequential R where
  look : ∀ entity id columns, R (Option Record) (orMissing (retrieve source entity id columns))
    (orMissing (retrieve source' entity id columns))
  schema : ∀ entity, R Schema (schemaOf source entity) (schemaOf source' entity)
  label : ∀ entity field code, R (Option Text)
    (labelFor (schemaOf source entity) entity field code)
    (labelFor (schemaOf source' entity) entity field code)

/-- A relation between all the work that texts ask of two sources. -/
structure Textwise (source source' : Source)
    (R : ∀ α : Type, Work StoreError α → Work StoreError α → Prop) : Prop
    extends Counting R, Fieldwise source source' R where
  search : ∀ query, R (List Record) (search source query) (search source' query)
  query : ∀ entity key parent columns,
    R Query (build entity key parent columns) (build entity key parent columns)

/-- A property of work that counting has and that passes to work done one after the
other. -/
structure Composable (P : ∀ α : Type, Work StoreError α → Prop) : Prop where
  pure : ∀ {α : Type} (a : α), P α (pure a)
  bind : ∀ {α β : Type} {w : Work StoreError α} {f : α → Work StoreError β},
    P α w → (∀ a, P β (f a)) → P β (w >>= f)
  count : ∀ f, P Unit (count f)

/-- A composable property that is had by all work that meets the source or looks at
what the session remembers. -/
structure Inherited (source : Source) (P : ∀ α : Type, Work StoreError α → Prop) : Prop
    extends Composable P where
  look : ∀ entity id columns, P (Option Record) (orMissing (retrieve source entity id columns))
  search : ∀ query, P (List Record) (search source query)
  schema : ∀ entity, P Schema (schemaOf source entity)
  label : ∀ entity field code,
    P (Option Text) (labelFor (schemaOf source entity) entity field code)
  query : ∀ entity key parent columns, P Query (build entity key parent columns)

/-- The text for a directive at a depth: lists are filled while there is depth left. -/
def renderAt (setup : Setup) (depth : Nat) (record : Record) :
    Template.Directive → Work StoreError (Option Text) :=
  match depth with
  | 0 => render setup (fun _ _ _ => return []) record
  | depth + 1 =>
    render setup (relatedList setup (fun r t => expandAt setup depth r t) record) record

theorem expandAt_eq
    (setup : Setup)
    (depth : Nat)
    (record : Record)
    (text : Text) :
    expandAt setup depth record text =
      fillAll (renderAt setup depth record) text := by
  cases depth <;> rfl

/-- A setup with another source. -/
def Setup.over (setup : Setup) (source : Source) : Setup :=
  { setup with source := source }

section Relations

variable {R : ∀ α : Type, Work StoreError α → Work StoreError α → Prop} {α β : Type}

namespace Sequential

variable (h : Sequential R)
include h

theorem map
    {w w' : Work StoreError α}
    (hw : R α w w')
    (f : α → β) :
    R β (f <$> w) (f <$> w') := by
  rw [← bind_pure_comp, ← bind_pure_comp]
  exact h.bind hw fun a => h.pure (f a)

theorem foldlM
    {f f' : β → α → Work StoreError β}
    (hf : ∀ b a, R β (f b a) (f' b a))
    (xs : List α) (b : β) :
    R β (xs.foldlM f b) (xs.foldlM f' b) := by
  induction xs generalizing b with
  | nil =>
      exact h.pure b
  | cons x xs ih =>
      rw [List.foldlM_cons, List.foldlM_cons]
      exact h.bind (hf b x) ih

theorem mapM
    {f f' : α → Work StoreError β}
    (hf : ∀ a, R β (f a) (f' a))
    (xs : List α) :
    R (List β) (xs.mapM f) (xs.mapM f') := by
  induction xs with
  | nil =>
      rw [List.mapM_nil, List.mapM_nil]
      exact h.pure []
  | cons x xs ih =>
      rw [List.mapM_cons, List.mapM_cons]
      refine h.bind (hf x) ?_
      intro y
      refine h.bind ih ?_
      intro ys
      exact h.pure (y :: ys)

end Sequential

namespace Counting

variable {renderOne renderOne' : Template.Directive → Work StoreError (Option Text)}
variable (h : Counting R)
include h

theorem fillPlaceholder
    (hrender : ∀ directive, R (Option Text) (renderOne directive) (renderOne' directive))
    (text placeholder : Text) :
    R Text (fillPlaceholder renderOne text placeholder)
      (fillPlaceholder renderOne' text placeholder) := by
  unfold Filling.fillPlaceholder
  refine h.bind (hrender _) ?_
  intro rendered
  cases rendered with
  | none =>
      exact h.bind h.unresolved fun _ => h.pure _
  | some new =>
      exact h.bind (h.filled _) fun _ => h.pure _

theorem fillAll
    (hrender : ∀ directive, R (Option Text) (renderOne directive) (renderOne' directive))
    (text : Text) :
    R Text (fillAll renderOne text) (fillAll renderOne' text) :=
  h.foldlM (h.fillPlaceholder hrender) _ _

end Counting

namespace Fieldwise

variable {source source' : Source} (h : Fieldwise source source' R)
include h

theorem referenceName
    (field : Text)
    (target : Reference) :
    R Text (referenceName source field target) (referenceName source' field target) := by
  unfold Filling.referenceName
  split
  · exact h.pure _
  · refine h.bind (h.look _ _ _) ?_
    intro found
    exact h.pure _

theorem showField
    (offsetHours : Int)
    (field : Text)
    (record : Record) :
    R Text (showField source offsetHours field record)
      (showField source' offsetHours field record) := by
  unfold Filling.showField
  split
  · exact h.pure _
  · refine h.bind (h.label record.entity field _) ?_
    intro label
    exact h.pure _
  · exact h.referenceName field _
  · exact h.pure _
  · refine h.bind (h.schema record.entity) ?_
    intro schema
    exact h.pure _

/-- Induction on the path: a step is a call, and the rest of the path is related. -/
theorem follow
    (offsetHours : Int)
    (path : List Text)
    (record : Record) :
    R Text (follow source offsetHours path record)
      (follow source' offsetHours path record) := by
  induction path generalizing record with
  | nil =>
      exact h.pure _
  | cons field rest ih =>
      cases rest with
      | nil =>
          exact h.showField offsetHours field record
      | cons next rest =>
          unfold Filling.follow
          rcases record.reference? field with _ | target
          · exact h.pure _
          · refine h.bind (h.look _ _ _) ?_
            intro found
            cases found with
            | none => exact h.pure _
            | some related => exact ih related

theorem resolve
    (offsetHours : Int)
    (path : Text)
    (record : Record) :
    R Text (resolve source offsetHours path record)
      (resolve source' offsetHours path record) :=
  h.follow offsetHours (Text.fields '.' path) record

end Fieldwise

/-- How lists are filled matters for a directive that asks for one. -/
theorem Fieldwise.render
    {setup : Setup} {source' : Source}
    (h : Fieldwise setup.source source' R)
    {list list' : Text → Text → List Text → Work StoreError Text}
    (record : Record)
    {directive : Template.Directive}
    (hlist : ∀ entity key parts, directive = .related entity key parts →
      R Text (list entity key parts) (list' entity key parts)) :
    R (Option Text) (render setup list record directive)
      (render (setup.over source') list' record directive) := by
  cases directive with
  | referenceLink field text =>
      simp only [Filling.render]
      split
      · exact h.pure _
      · rcases record.reference? field with _ | target
        · exact h.pure _
        · exact h.pure _
  | recordLink text =>
      exact h.pure _
  | related entity key parts =>
      exact h.map (hlist entity key parts rfl) some
  | malformedRelated =>
      exact h.pure _
  | field path =>
      exact h.map (h.resolve setup.offsetHours path record) some

/-- Two sources that give the same records and schemas are asked by the same work. -/
theorem fieldwise_eq
    {source source' : Source}
    (hretrieve : source.retrieve = source'.retrieve)
    (hdescribe : source.describe = source'.describe) :
    Fieldwise source source' fun _ w w' => w = w' where
  pure := fun _ => rfl
  bind := by
    intro α β w w' f f' hw hf
    rw [hw, funext hf]
  look := by
    intro entity id columns
    unfold retrieve
    rw [hretrieve]
  schema := by
    intro entity
    unfold schemaOf describe
    rw [hdescribe]
  label := by
    intro entity field code
    unfold schemaOf describe
    rw [hdescribe]

namespace Textwise

variable {setup : Setup} {source' : Source} (h : Textwise setup.source source' R)
include h

theorem relatedList
    {fillItem fillItem' : Record → Text → Work StoreError Text}
    (hitem : ∀ record text, R Text (fillItem record text) (fillItem' record text))
    (parent : Record)
    (entity key : Text)
    (parts : List Text) :
    R Text (relatedList setup fillItem parent entity key parts)
      (relatedList (setup.over source') fillItem' parent entity key parts) := by
  unfold Filling.relatedList
  refine h.bind (h.query entity key parent.id (columnsOf parts)) ?_
  intro query
  refine h.bind (h.search query) ?_
  intro found
  refine h.bind (h.mapM (fun r => hitem r (itemTemplate parts)) found) ?_
  intro items
  exact h.pure _

/-- Induction on the depth: the items of a list are filled at a smaller one. -/
theorem expandAt
    (depth : Nat)
    (record : Record)
    (text : Text) :
    R Text (expandAt setup depth record text)
      (expandAt (setup.over source') depth record text) := by
  induction depth generalizing record text with
  | zero =>
      exact h.fillAll (fun _ => h.render record fun _ _ _ _ => h.pure []) text
  | succ depth ih =>
      exact h.fillAll (fun _ => h.render record fun _ _ _ _ => h.relatedList ih record _ _ _) text

theorem renderAt
    (depth : Nat)
    (record : Record)
    (directive : Template.Directive) :
    R (Option Text) (renderAt setup depth record directive)
      (renderAt (setup.over source') depth record directive) := by
  cases depth with
  | zero =>
      exact h.render record fun _ _ _ _ => h.pure []
  | succ depth =>
      exact h.render record fun _ _ _ _ => h.relatedList (h.expandAt depth) record _ _ _

theorem expand
    (record : Record)
    (text : Text) :
    R Text (expand setup record text) (expand (setup.over source') record text) :=
  h.expandAt setup.maxDepth record text

end Textwise

end Relations

section Properties

variable {P : ∀ α : Type, Work StoreError α → Prop}

/-- A property of work as a relation that does not look at the second filling. -/
theorem Composable.counting
    (h : Composable P) :
    Counting fun α w _ => P α w where
  pure := h.pure
  bind := h.bind
  filled := fun _ => h.count _
  unresolved := h.count _

theorem Composable.fillPlaceholder
    (h : Composable P)
    {renderOne : Template.Directive → Work StoreError (Option Text)}
    (hrender : ∀ directive, P (Option Text) (renderOne directive))
    (text placeholder : Text) :
    P Text (fillPlaceholder renderOne text placeholder) :=
  @Counting.fillPlaceholder _ renderOne renderOne h.counting hrender text placeholder

namespace Inherited

theorem textwise
    {source : Source}
    (h : Inherited source P) :
    Textwise source source fun α w _ => P α w where
  toCounting := h.counting
  look := h.look
  schema := h.schema
  label := h.label
  search := h.search
  query := h.query

theorem resolve
    {source : Source}
    (h : Inherited source P)
    (offsetHours : Int)
    (path : Text)
    (record : Record) :
    P Text (resolve source offsetHours path record) :=
  h.textwise.resolve offsetHours path record

variable {setup : Setup} (h : Inherited setup.source P)
include h

theorem expandAt
    (depth : Nat)
    (record : Record)
    (text : Text) :
    P Text (expandAt setup depth record text) :=
  h.textwise.expandAt depth record text

theorem renderAt
    (depth : Nat)
    (record : Record)
    (directive : Template.Directive) :
    P (Option Text) (renderAt setup depth record directive) :=
  h.textwise.renderAt depth record directive

theorem expand
    (record : Record)
    (text : Text) :
    P Text (expand setup record text) :=
  h.textwise.expand record text

end Inherited

end Properties

end MailMerge.Filling
