import MailMerge.Proofs.Alike
import MailMerge.Proofs.Assembly

/-!
# Filling is steady

Three pieces of work look at what a session has learnt: the look-up of a schema,
the look-up of a label, and the making of a query for related records. Each of
them is described here by its outcome, in terms of the answers of the session,
and shown to leave the session alike to itself. Everything else that fills a
text is put together from these three and from calls, so it is steady.

Main facts:

* `perform_schemaOf_fst`, `perform_labelFor_fst`, `perform_build_fst`: the
  outcomes of the three;
* `inherited_steady`: all that is filled from a source is filled by steady work;
* `steady_resolve`, `steady_renderAt`, `steady_expand`: so are the text at a path,
  the text of a directive and the filled text.
-/

namespace MailMerge.Filling

open Session Work

section Answers

variable (source : Source) (entity field : Text) (code : Int32) (s : Session)

/-- The schema that is looked up is the one that the session answers with. -/
theorem perform_schemaOf_fst :
    ((schemaOf source entity).perform s).1 =
      s.schemaSeen source.describe entity := by
  unfold schemaOf schemaSeen
  rcases h : s.schemas.get? entity with _ | schema
  · rcases hd : source.describe entity with e | schema
    · simp [h, hd]
    · simp [h, hd]
  · simp [h]

theorem perform_schemaOf_alike :
    ((schemaOf source entity).perform s).2.Alike source.describe s := by
  unfold schemaOf
  rcases h : s.schemas.get? entity with _ | schema
  · have hcall : (s.record (.describe entity)).Alike source.describe s :=
      Alike.record s _
    rcases hd : source.describe entity with e | schema
    · simpa [h, hd] using hcall
    · have hseen :
          (s.record (.describe entity)).schemaSeen source.describe entity =
            .ok schema := by
        rw [hcall.schema]
        simp [schemaSeen, h, hd]
      simpa [h, hd] using (Alike.set_schema hseen).trans hcall
  · simpa [h] using Alike.refl s

theorem steady_schemaOf :
    Steady source.describe (schemaOf source entity) := by
  refine ⟨perform_schemaOf_alike source entity, ?_⟩
  intro s t h
  rw [perform_schemaOf_fst, perform_schemaOf_fst]
  exact h.schema entity

/-- The label that is looked up is the one among the choices that the session answers with. -/
theorem perform_labelFor_fst :
    ((labelFor (schemaOf source entity) entity field code).perform s).1 =
      (s.choicesSeen source.describe entity field).map fun choices =>
        labelAmong choices code := by
  unfold labelFor choicesSeen
  rcases h : s.choices.get? (entity, field) with _ | choices
  · have hmiss : (s.count Counters.addMiss).Alike source.describe s :=
      Alike.count s _
    have hout := perform_schemaOf_fst source entity (s.count Counters.addMiss)
    rw [hmiss.schema] at hout
    rcases hw : (schemaOf source entity).perform (s.count Counters.addMiss)
      with ⟨e | schema, s'⟩
    · rw [hw] at hout
      simp [h, hw, ← hout, Except.map]
    · rw [hw] at hout
      simp [h, hw, ← hout, Except.map]
  · simp [h, Except.map]

theorem perform_labelFor_alike :
    ((labelFor (schemaOf source entity) entity field code).perform s).2.Alike
      source.describe s := by
  unfold labelFor
  rcases h : s.choices.get? (entity, field) with _ | choices
  · have hmiss : (s.count Counters.addMiss).Alike source.describe s :=
      Alike.count s _
    have hout := perform_schemaOf_fst source entity (s.count Counters.addMiss)
    have hafter := perform_schemaOf_alike source entity (s.count Counters.addMiss)
    rcases hw : (schemaOf source entity).perform (s.count Counters.addMiss)
      with ⟨e | schema, s'⟩
    · rw [hw] at hafter
      simpa [h, hw] using hafter.trans hmiss
    · rw [hw] at hout hafter
      have hs' := hafter.trans hmiss
      have hseen :
          s'.choicesSeen source.describe entity field =
            .ok ((schema.choices? field).getD []) := by
        rw [hs'.choices]
        rw [hmiss.schema] at hout
        simp [choicesSeen, h, ← hout, Except.map]
      simpa [h, hw] using (Alike.set_choices hseen).trans hs'
  · simpa [h] using Alike.count s _

theorem steady_labelFor :
    Steady source.describe
      (labelFor (schemaOf source entity) entity field code) := by
  refine ⟨perform_labelFor_alike source entity field code, ?_⟩
  intro s t h
  rw [perform_labelFor_fst, perform_labelFor_fst, h.choices]

end Answers

section Queries

variable {ε : Type} {describe : Descriptions}
variable (entity key : Text) (parent : Uuid) (columns : List Text)

/-- The query for related records under an override, if there is one: the override
gives entity and conditions, and the list at hand gives the columns. -/
def queryUnder (override : Option (Text × List Condition)) : Query :=
  match override with
  | some (e, conditions) => ⟨e, .only columns, conditions⟩
  | none => usualQuery entity key parent columns

theorem perform_build_fst
    (s : Session) :
    ((build (ε := ε) entity key parent columns).perform s).1 =
      .ok (queryUnder entity key parent columns
        (s.overrideSeen (overrideName entity key))) := by
  unfold build overrideSeen queryUnder
  rcases h : s.overrides.get? (overrideName entity key) with _ | query
  · simp [h]
  · simp [h]

theorem perform_build_alike
    (s : Session) :
    ((build (ε := ε) entity key parent columns).perform s).2.Alike
      describe s := by
  unfold build
  rcases h : s.overrides.get? (overrideName entity key) with _ | query
  · simpa [h] using Alike.refl s
  · simpa [h] using Alike.set_columns h (.only columns)

theorem steady_build :
    Steady describe (build (ε := ε) entity key parent columns) := by
  refine ⟨perform_build_alike entity key parent columns, ?_⟩
  intro s t h
  rw [perform_build_fst, perform_build_fst, h.override]

end Queries

section Wholes

variable {describe : Descriptions}

theorem composable_steady :
    Composable fun _ => Steady describe where
  pure := steady_pure
  bind := Steady.bind
  count := steady_count

/-- What is filled from a source is filled by steady work. -/
theorem inherited_steady
    (source : Source) :
    Inherited source fun _ => Steady source.describe where
  toComposable := composable_steady
  look := fun entity id columns => (steady_retrieve source entity id columns).orMissing
  search := steady_search source
  schema := steady_schemaOf source
  label := steady_labelFor source
  query := steady_build

theorem steady_resolve
    (source : Source)
    (offsetHours : Int)
    (path : Text)
    (record : Record) :
    Steady source.describe (resolve source offsetHours path record) :=
  (inherited_steady source).resolve offsetHours path record

theorem steady_fillPlaceholder
    {renderOne : Template.Directive → Work StoreError (Option Text)}
    (h : ∀ directive, Steady describe (renderOne directive))
    (text placeholder : Text) :
    Steady describe (fillPlaceholder renderOne text placeholder) :=
  composable_steady.fillPlaceholder h text placeholder

variable (setup : Setup)

theorem steady_renderAt
    (depth : Nat)
    (record : Record)
    (directive : Template.Directive) :
    Steady setup.source.describe (renderAt setup depth record directive) :=
  (inherited_steady setup.source).renderAt depth record directive

theorem steady_expand
    (record : Record)
    (text : Text) :
    Steady setup.source.describe (expand setup record text) :=
  (inherited_steady setup.source).expand record text

end Wholes

/-- A setup over a source, with the usual links and the usual depth. -/
def setupOver (source : Source) : Setup :=
  ⟨source, Link.path, "https://crm/".toList, 0, defaultDepth⟩

end MailMerge.Filling
