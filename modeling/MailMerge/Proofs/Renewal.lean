import MailMerge.Proofs.Descriptions

/-!
# A session that has been told schemas, and a new one

A session that has served requests fills the next text as a new session does over a
source that describes each entity in the way that was told first. It comes to the same
text, or fails in the same way, and it makes the same calls but for those that ask for
the schemas which it has been told.

The two sessions are compared while they fill the text: the older one is *ahead*, since
it knows some schemas from the start and otherwise what the new one has learnt.

Main facts:

* `asNew_schemaOf`, `asNew_labelFor`: the two pieces of work that look at schemas;
* `textwise_asNew`: all work that fills a text ends alike in both sessions;
* `described_once`: the law for every run of requests.
-/

namespace MailMerge

namespace Filling

/-- Whether a call is still made when some schemas are known: it does not ask for one of
them. -/
def stillMade (known : Text → Option Schema) : Call → Bool
  | .describe entity => (known entity).isNone
  | _ => true

end Filling

namespace Session

/-- The schemas that a session remembers are those of a way to describe entities. -/
def SchemasOf (describe : Descriptions) (s : Session) : Prop :=
  ∀ entity schema, s.schemas.get? entity = some schema → describe entity = .ok schema

theorem SchemasOf.set_schema
    {describe : Descriptions} {s : Session}
    (h : s.SchemasOf describe)
    {entity : Text} {schema : Schema}
    (hd : describe entity = .ok schema) :
    ({ s with schemas := s.schemas.set entity schema } : Session).SchemasOf describe := by
  intro e told htold
  have hget : (if entity = e then some schema else s.schemas.get? e) = some told := by
    rw [← Dict.get?_set]
    exact htold
  by_cases he : entity = e
  · subst he
    rw [if_pos rfl] at hget
    rw [hd, Option.some.inj hget]
  · rw [if_neg he] at hget
    exact h e told hget

/-- A session that knows some schemas from the start, and otherwise what another one has
learnt from a source that describes entities in this way. -/
structure Ahead (known : Text → Option Schema) (describe : Descriptions) (s t : Session) :
    Prop where
  schema : ∀ entity, s.schemas.get? entity = (known entity).or (t.schemas.get? entity)
  described : s.SchemasOf describe
  described' : t.SchemasOf describe
  choices : s.ChoicesOfSchemas
  choices' : t.ChoicesOfSchemas
  override : ∀ name, s.overrideSeen name = t.overrideSeen name

namespace Ahead

variable {known : Text → Option Schema} {describe : Descriptions} {s s' t t' : Session}

/-- Only what sessions remember matters. -/
theorem congr
    (h : s.Ahead known describe t)
    (hschemas : s'.schemas = s.schemas)
    (hchoices : s'.choices = s.choices)
    (hoverride : s'.overrideSeen = s.overrideSeen)
    (hschemas' : t'.schemas = t.schemas)
    (hchoices' : t'.choices = t.choices)
    (hoverride' : t'.overrideSeen = t.overrideSeen) :
    s'.Ahead known describe t' where
  schema := by
    rw [hschemas, hschemas']
    exact h.schema
  described := by
    unfold SchemasOf
    rw [hschemas]
    exact h.described
  described' := by
    unfold SchemasOf
    rw [hschemas']
    exact h.described'
  choices := by
    unfold ChoicesOfSchemas
    rw [hschemas, hchoices]
    exact h.choices
  choices' := by
    unfold ChoicesOfSchemas
    rw [hschemas', hchoices']
    exact h.choices'
  override := by
    rw [hoverride, hoverride']
    exact h.override

/-- Both sessions are told a schema that neither has known. -/
theorem set_schema
    (h : s.Ahead known describe t)
    {entity : Text} {schema : Schema}
    (hs : s.schemas.get? entity = none)
    (ht : t.schemas.get? entity = none)
    (hd : describe entity = .ok schema) :
    ({ s with schemas := s.schemas.set entity schema } : Session).Ahead known describe
      { t with schemas := t.schemas.set entity schema } := by
  refine ⟨?_, h.described.set_schema hd, h.described'.set_schema hd,
    h.choices.set_schema hs schema, h.choices'.set_schema ht schema, h.override⟩
  intro e
  have hschema := h.schema e
  show (s.schemas.set entity schema).get? e = _
  rw [Dict.get?_set, Dict.get?_set]
  by_cases he : entity = e
  · subst he
    rw [hs] at hschema
    have hunknown := (Option.or_eq_none_iff.1 hschema.symm).1
    simp [hunknown]
  · rw [if_neg he, if_neg he]
    exact hschema

/-- The new session is told a schema that has been known from the start. -/
theorem set_schema'
    (h : s.Ahead known describe t)
    {entity : Text} {schema : Schema}
    (ht : t.schemas.get? entity = none)
    (hknown : known entity = some schema) :
    s.Ahead known describe { t with schemas := t.schemas.set entity schema } := by
  have hs : s.schemas.get? entity = some schema := by
    rw [h.schema, hknown, Option.some_or]
  have hd := h.described entity schema hs
  refine ⟨?_, h.described, h.described'.set_schema hd, h.choices,
    h.choices'.set_schema ht schema, h.override⟩
  intro e
  show s.schemas.get? e = (known e).or ((t.schemas.set entity schema).get? e)
  rw [h.schema e, Dict.get?_set]
  by_cases he : entity = e
  · subst he
    rw [hknown, Option.some_or, Option.some_or]
  · rw [if_neg he]

theorem set_choices
    (h : s.Ahead known describe t)
    {entity : Text} {schema : Schema}
    (hs : s.schemas.get? entity = some schema)
    (field : Text) :
    ({ s with choices := s.choices.set (entity, field) ((schema.choices? field).getD []) } :
      Session).Ahead known describe t :=
  ⟨h.schema, h.described, h.described', h.choices.set_choices hs field, h.choices', h.override⟩

theorem set_choices'
    (h : s.Ahead known describe t)
    {entity : Text} {schema : Schema}
    (ht : t.schemas.get? entity = some schema)
    (field : Text) :
    s.Ahead known describe
      { t with choices := t.choices.set (entity, field) ((schema.choices? field).getD []) } :=
  ⟨h.schema, h.described, h.described', h.choices, h.choices'.set_choices ht field, h.override⟩

/-- What the new session has learnt the other one knows as well. -/
theorem known_of_known'
    (h : s.Ahead known describe t)
    {entity : Text} {schema : Schema}
    (ht : t.schemas.get? entity = some schema) :
    s.schemas.get? entity = some schema := by
  have hschema := h.schema entity
  rcases hknown : known entity with _ | told
  · rw [hschema, hknown, Option.none_or, ht]
  · rw [hknown, Option.some_or] at hschema
    have hd := h.described entity told hschema
    rw [hschema, Except.ok.inj (hd.symm.trans (h.described' entity schema ht))]

end Ahead

end Session

namespace Filling

open Session Work

section Renewal

variable {source : Source} {known : Text → Option Schema} {s t : Session} {α β : Type}

/-- What comes of work in a session that knows some schemas, beside what comes of work in a
new one over a source that describes entities as they are known: the same outcome, and the
same calls but for those that ask for these schemas. -/
structure EndsAlike (known : Text → Option Schema) (describe : Descriptions)
    (s t : Session) (p p' : Except StoreError α × Session) : Prop where
  outcome : p.1 = p'.1
  ahead : p.2.Ahead known describe p'.2
  calls : ∃ calls, p'.2.calls = t.calls ++ calls ∧
    p.2.calls = s.calls ++ calls.filter (stillMade known)

/-- Work that ends alike in all such sessions. -/
def AsNew (source : Source) (known : Text → Option Schema) (w w' : Work StoreError α) : Prop :=
  ∀ s t, s.Ahead known (source.knowing known).describe t →
    EndsAlike known (source.knowing known).describe s t (w.perform s) (w'.perform t)

theorem AsNew.bind
    {w w' : Work StoreError α} {f f' : α → Work StoreError β}
    (hw : AsNew source known w w')
    (hf : ∀ a, AsNew source known (f a) (f' a)) :
    AsNew source known (w >>= f) (w' >>= f') := by
  intro s t hst
  obtain ⟨hout, hahead, calls, hcalls', hcalls⟩ := hw s t hst
  rw [perform_bind, perform_bind]
  rcases h : w.perform s with ⟨e | a, s'⟩ <;>
    rcases h' : w'.perform t with ⟨e' | a', t'⟩ <;>
    rw [h, h'] at hout hahead <;>
    rw [h] at hcalls <;>
    rw [h'] at hcalls'
  · obtain rfl := Except.error.inj hout
    exact ⟨rfl, hahead, calls, hcalls', hcalls⟩
  · cases hout
  · cases hout
  · obtain rfl := Except.ok.inj hout
    -- the sessions in between are again one ahead of the other
    obtain ⟨hout₂, hahead₂, calls₂, hcalls₂', hcalls₂⟩ := hf a s' t' hahead
    refine ⟨hout₂, hahead₂, calls ++ calls₂, ?_, ?_⟩
    · rw [hcalls₂', hcalls', List.append_assoc]
    · rw [hcalls₂, hcalls, List.filter_append, List.append_assoc]

/-- Work that makes no call, with the same outcome in both sessions. -/
theorem endsAlike_of_no_call
    {describe : Descriptions}
    {p p' : Except StoreError α × Session}
    (hout : p.1 = p'.1)
    (hahead : p.2.Ahead known describe p'.2)
    (hcalls : p.2.calls = s.calls)
    (hcalls' : p'.2.calls = t.calls) :
    EndsAlike known describe s t p p' := by
  refine ⟨hout, hahead, [], ?_, ?_⟩
  · rw [hcalls', List.append_nil]
  · rw [hcalls, List.filter_nil, List.append_nil]

/-- Work that makes a single call, which does not ask for a schema. -/
theorem asNew_of_call
    {w w' : Work StoreError α}
    {call : Call}
    {outcome : Except StoreError α}
    (hw : ∀ s, w.perform s = (outcome, s.record call))
    (hw' : ∀ t, w'.perform t = (outcome, t.record call))
    (hcall : stillMade known call = true) :
    AsNew source known w w' := by
  intro s t hst
  refine ⟨?_, ?_, [call], ?_, ?_⟩
  · rw [hw, hw']
  · rw [hw, hw']
    exact hst.congr rfl rfl rfl rfl rfl rfl
  · rw [hw']
    rfl
  · rw [hw, List.filter_cons_of_pos hcall]
    rfl

theorem asNew_pure
    (a : α) :
    AsNew source known (pure a) (pure a) :=
  fun _ _ hst => endsAlike_of_no_call rfl hst rfl rfl

theorem asNew_count
    (f : Counters → Counters) :
    AsNew source known (count f) (count f) :=
  fun _ _ hst => endsAlike_of_no_call rfl (hst.congr rfl rfl rfl rfl rfl rfl) rfl rfl

theorem asNew_look
    (entity : Text) (id : Uuid) (columns : Columns) :
    AsNew source known (orMissing (retrieve source entity id columns))
      (orMissing (retrieve (source.knowing known) entity id columns)) := by
  have hlook : ∀ s, (orMissing (retrieve source entity id columns)).perform s =
      (((orMissing (retrieve source entity id columns)).perform .fresh).1,
        s.record (.retrieve entity id columns)) := by
    intro s
    simp only [perform_orMissing, perform_retrieve]
    rcases source.retrieve entity id columns with e | r <;> rfl
  exact asNew_of_call hlook hlook rfl

theorem asNew_build
    (entity key : Text) (parent : Uuid) (columns : List Text) :
    AsNew source known (build entity key parent columns) (build entity key parent columns) := by
  intro s t hst
  obtain ⟨hcalls, hschemas, hchoices⟩ := perform_build_frame entity key parent columns s
  obtain ⟨hcalls', hschemas', hchoices'⟩ := perform_build_frame entity key parent columns t
  have hs := (@perform_build_alike StoreError source.describe entity key parent columns s).override
  have ht := (@perform_build_alike StoreError source.describe entity key parent columns t).override
  refine endsAlike_of_no_call ?_ ?_ hcalls hcalls'
  · rw [perform_build_fst, perform_build_fst, hst.override]
  · exact hst.congr hschemas hchoices (funext hs) hschemas' hchoices' (funext ht)

/-- A schema is asked for in both sessions or in neither, unless it is known from the
start. -/
theorem asNew_schemaOf
    (entity : Text) :
    AsNew source known (schemaOf source entity) (schemaOf (source.knowing known) entity) := by
  intro s t hst
  have hschema := hst.schema entity
  rcases hs : s.schemas.get? entity with _ | schema
  · rw [hs] at hschema
    obtain ⟨hunknown, ht⟩ := Option.or_eq_none_iff.1 hschema.symm
    have hcall : stillMade known (.describe entity) = true := by
      simp [stillMade, hunknown]
    have hd := source.describe_knowing_of_unknown hunknown
    rw [perform_schemaOf_of_unknown hs, perform_schemaOf_of_unknown ht, hd]
    rcases htold : source.describe entity with e | schema
    · refine ⟨rfl, hst.congr rfl rfl rfl rfl rfl rfl, [.describe entity], rfl, ?_⟩
      rw [List.filter_cons_of_pos hcall]
      rfl
    · have htold' := hst.set_schema hs ht (hd.trans htold)
      refine ⟨rfl, htold'.congr rfl rfl rfl rfl rfl rfl, [.describe entity], rfl, ?_⟩
      rw [List.filter_cons_of_pos hcall]
      rfl
  · have hd := hst.described entity schema hs
    rw [perform_schemaOf_of_known hs]
    rcases ht : t.schemas.get? entity with _ | schema'
    · -- the new session is told what is known
      have hknown : known entity = some schema := by
        rw [hs, ht, Option.or_none] at hschema
        exact hschema.symm
      have hcall : stillMade known (.describe entity) = false := by
        simp [stillMade, hknown]
      rw [perform_schemaOf_of_unknown ht, hd]
      have htold := hst.set_schema' ht hknown
      refine ⟨rfl, htold.congr rfl rfl rfl rfl rfl rfl, [.describe entity], rfl, ?_⟩
      rw [List.filter_cons_of_neg (by simp [hcall])]
      exact (List.append_nil _).symm
    · have hd' := hst.described' entity schema' ht
      obtain rfl := Except.ok.inj (hd.symm.trans hd')
      rw [perform_schemaOf_of_known ht]
      exact endsAlike_of_no_call rfl hst rfl rfl

/-- A label is the one of the schema of its entity, which is the same in both sessions. -/
theorem asNew_labelFor
    (entity field : Text)
    (code : Int32) :
    AsNew source known (labelFor (schemaOf source entity) entity field code)
      (labelFor (schemaOf (source.knowing known) entity) entity field code) := by
  intro s t hst
  rcases ht : t.choices.get? (entity, field) with _ | choices'
  · rw [perform_labelFor_of_unknown ht]
    rcases hs : s.choices.get? (entity, field) with _ | choices
    · obtain ⟨hout, hahead, hcalls⟩ := asNew_schemaOf entity (s.count Counters.addMiss)
        (t.count Counters.addMiss) (hst.congr rfl rfl rfl rfl rfl rfl)
      rw [perform_labelFor_of_unknown hs]
      rcases h : (schemaOf source entity).perform (s.count Counters.addMiss)
          with ⟨e | schema, s'⟩ <;>
        rcases h' : (schemaOf (source.knowing known) entity).perform (t.count Counters.addMiss)
          with ⟨e' | schema', t'⟩ <;>
        rw [h, h'] at hout hahead hcalls
      · obtain rfl := Except.error.inj hout
        exact ⟨rfl, hahead, hcalls⟩
      · cases hout
      · cases hout
      · obtain rfl := Except.ok.inj hout
        have hboth := (hahead.set_choices (known_of_perform_schemaOf h) field).set_choices'
          (known_of_perform_schemaOf h') field
        exact ⟨rfl, hboth, hcalls⟩
    · obtain ⟨schema, hschema, rfl⟩ := hst.choices entity field choices hs
      obtain ⟨hout, hahead, hcalls⟩ := asNew_schemaOf entity (s.count Counters.addHit)
        (t.count Counters.addMiss) (hst.congr rfl rfl rfl rfl rfl rfl)
      have hcounted : (s.count Counters.addHit).schemas.get? entity = some schema := hschema
      rw [label_of_known hs]
      rw [perform_schemaOf_of_known hcounted] at hout hahead hcalls
      rcases h' : (schemaOf (source.knowing known) entity).perform (t.count Counters.addMiss)
        with ⟨e' | schema', t'⟩ <;> rw [h'] at hout hahead hcalls
      · cases hout
      · obtain rfl := Except.ok.inj hout
        exact ⟨rfl, hahead.set_choices' (known_of_perform_schemaOf h') field, hcalls⟩
  · obtain ⟨schema, hschema', rfl⟩ := hst.choices' entity field choices' ht
    have hschema := hst.known_of_known' hschema'
    rw [label_of_known ht]
    rcases hs : s.choices.get? (entity, field) with _ | choices
    · have hcounted : (s.count Counters.addMiss).schemas.get? entity = some schema := hschema
      have hahead := hst.set_choices hschema field
      rw [perform_labelFor_of_unknown hs, perform_schemaOf_of_known hcounted]
      exact endsAlike_of_no_call rfl (hahead.congr rfl rfl rfl rfl rfl rfl) rfl rfl
    · obtain ⟨told, htold, rfl⟩ := hst.choices entity field choices hs
      obtain rfl := Option.some.inj (hschema.symm.trans htold)
      rw [label_of_known hs]
      exact endsAlike_of_no_call rfl (hst.congr rfl rfl rfl rfl rfl rfl) rfl rfl

/-- What is filled from a source is filled in a session that knows some schemas as it is in a
new one. -/
theorem textwise_asNew :
    Textwise source (source.knowing known) fun _ w w' => AsNew source known w w' where
  pure := asNew_pure
  bind := AsNew.bind
  filled := fun _ => asNew_count _
  unresolved := asNew_count _
  look := asNew_look
  schema := asNew_schemaOf
  label := asNew_labelFor
  search := fun _ => asNew_of_call (fun _ => rfl) (fun _ => rfl) rfl
  query := asNew_build

end Renewal

/-- A new session is behind one that remembers what it has been told. -/
theorem ahead_of_remembers
    {log : Answers Text StoreError Schema}
    {s : Session}
    (hs : s.Remembers log)
    (source : Source) :
    s.Ahead log.first? (source.knowing log.first?).describe
      { Session.fresh with overrides := s.overrides } where
  schema := by
    intro entity
    rw [hs.schema]
    exact (Option.or_none).symm
  described := by
    intro entity schema h
    rw [hs.schema] at h
    exact source.describe_knowing_of_known h
  described' := by
    intro entity schema h
    cases h
  choices := hs.choices
  choices' := by
    intro entity field choices h
    cases h
  override := fun _ => rfl

/-- Whatever requests a session has served, over sources that may have changed from one to
the next, no entity has been asked for again once it has been described. In that session a
field of a record is shown as the entity was described first, and the entity is asked for
exactly when it has not been described yet. To fill a text, and to show the text at a path,
comes to what it comes to in a new session over a source that describes the entities so; the
calls are the same but for those that ask for them. -/
theorem described_once
    (requests : List Request) :
    let s := afterAll requests .fresh
    let told := toldOver requests .fresh
    let new : Session := { Session.fresh with overrides := s.overrides }
    told.Settled ∧
    (∀ (source : Source) (offsetHours : Int) (field : Text) (record : Record) (v : Value),
      record.get? field = some v → v.isDescribed = true →
        ((showField source offsetHours field record).perform s).1 =
            (match told.first? record.entity with
            | some schema => .ok (schema.textOf offsetHours field v)
            | none => (source.describe record.entity).map fun schema =>
                schema.textOf offsetHours field v) ∧
          ((showField source offsetHours field record).perform s).2.calls =
            s.calls ++
              if (told.first? record.entity).isSome then [] else [.describe record.entity]) ∧
    (∀ (setup : Setup) (record : Record) (text : Text),
      let renewed := setup.over (setup.source.knowing told.first?)
      ((expand setup record text).perform s).1 = ((expand renewed record text).perform new).1 ∧
        ((expand setup record text).perform s).2.calls =
          s.calls ++
            ((expand renewed record text).perform new).2.calls.filter (stillMade told.first?)) ∧
    (∀ (source : Source) (offsetHours : Int) (path : Text) (record : Record),
      let renewed := source.knowing told.first?
      ((resolve source offsetHours path record).perform s).1 =
          ((resolve renewed offsetHours path record).perform new).1 ∧
        ((resolve source offsetHours path record).perform s).2.calls =
          s.calls ++
            ((resolve renewed offsetHours path record).perform new).2.calls.filter
              (stillMade told.first?)) := by
  intro s told new
  have hs : s.Remembers told := remembers_afterAll requests remembers_fresh
  refine ⟨hs.settled, ?_, ?_, ?_⟩
  · intro source offsetHours field record v hv hdescribed
    obtain ⟨hout, hcalls⟩ := perform_showField_of_remembers hs source offsetHours hv hdescribed
    refine ⟨?_, hcalls⟩
    rw [hout]
    rcases hfirst : told.first? record.entity with _ | schema
    · rw [source.describe_knowing_of_unknown hfirst]
    · rw [source.describe_knowing_of_known hfirst]
      rfl
  · intro setup record text renewed
    obtain ⟨hout, -, calls, hnew, hcalls⟩ :=
      textwise_asNew.expand record text s new (ahead_of_remembers hs setup.source)
    refine ⟨hout, ?_⟩
    rw [hcalls, hnew]
    rfl
  · intro source offsetHours path record renewed
    obtain ⟨hout, -, calls, hnew, hcalls⟩ :=
      textwise_asNew.resolve offsetHours path record s new (ahead_of_remembers hs source)
    refine ⟨hout, ?_⟩
    rw [hcalls, hnew]
    rfl

/-- The source of a store that describes no entity. -/
def silentSource (store : Store) : Source :=
  { store.toSource with describe := fun _ => .error (.unavailable "silent".toList) }

/-- The store with the stages of deals renamed. -/
def renamedStore : Store :=
  (dealStore 2).insertSchema
    ⟨"deal".toList, [⟨"stage".toList, .picklist [⟨2, "Gewonnen".toList⟩]⟩]⟩

/-- Requests for the stage of a deal: the first one is told nothing, the second one is told
the stages, and the third one comes after they have been renamed. -/
def stageRequests : List Request :=
  [.resolve (silentSource (dealStore 1)) 0 (dealRecord 1) "stage".toList,
   .expand (setupOver (dealStore 1).toSource) (dealRecord 1) "%;stage;% %;parent.stage;%".toList,
   .resolve renamedStore.toSource 0 (dealRecord 2) "stage".toList]

/-- A request for a page, at a time when pages are addresses. -/
def pageRequests : List Request :=
  [.resolve (linkedStore (some "URL".toList)).toSource 0 linkedDeal "page".toList]

/-- Stages are told under the names that they had first. Pages are still addresses when they
have become plain texts, and a name that a reference lacks is asked for as ever. -/
theorem described_once_for_stages :
    toldOver stageRequests .fresh =
      [("deal".toList, .error (.unavailable "silent".toList)),
        ("deal".toList, .ok ((dealStore 1).describe "deal".toList))] ∧
    (dealRecord 2).get? "stage".toList = some (.optionSet 2) ∧
    (Value.optionSet 2).isDescribed = true ∧
    ((showField renamedStore.toSource 0 "stage".toList (dealRecord 2)).perform
        (afterAll stageRequests .fresh)).1 = .ok "Won".toList ∧
    ((showField renamedStore.toSource 0 "stage".toList (dealRecord 2)).perform
        (afterAll stageRequests .fresh)).2.calls = (afterAll stageRequests .fresh).calls ∧
    ((showField (linkedStore none).toSource 0 "page".toList linkedDeal).perform
        (afterAll pageRequests .fresh)).1 =
      .ok "<a href='https://crm/'>https://crm/</a>".toList ∧
    ((resolve (linkedStore none).toSource 0 "parent.client".toList linkedDeal).perform
        (afterAll pageRequests .fresh)).1 = .ok "Acme".toList := by
  have htold : toldOver stageRequests .fresh =
      [("deal".toList, .error (.unavailable "silent".toList)),
        ("deal".toList, .ok ((dealStore 1).describe "deal".toList))] := by
    decide +kernel
  have hv : (dealRecord 2).get? "stage".toList = some (.optionSet 2) := by
    decide +kernel
  obtain ⟨-, hfields, -⟩ := described_once stageRequests
  obtain ⟨hout, hcalls⟩ :=
    hfields renamedStore.toSource 0 "stage".toList (dealRecord 2) (.optionSet 2) hv rfl
  have hfirst : (toldOver stageRequests .fresh).first? (dealRecord 2).entity =
      some ((dealStore 1).describe "deal".toList) := by
    rw [htold]
    decide +kernel
  have hlabel : ((dealStore 1).describe "deal".toList).textOf 0 "stage".toList (.optionSet 2) =
      "Won".toList := by
    decide +kernel
  rw [hfirst] at hout hcalls
  obtain ⟨-, hpages, -, hpaths⟩ := described_once pageRequests
  have hpage : linkedDeal.get? "page".toList = some (.text "https://crm/".toList) := by
    decide +kernel
  obtain ⟨hlink, -⟩ := hpages (linkedStore none).toSource 0 "page".toList linkedDeal _ hpage rfl
  obtain ⟨hname, -⟩ := hpaths (linkedStore none).toSource 0 "parent.client".toList linkedDeal
  refine ⟨htold, hv, rfl, ?_, ?_, hlink.trans ?_, hname.trans ?_⟩
  · exact hout.trans (congrArg Except.ok hlabel)
  · rw [hcalls]
    exact List.append_nil _
  · decide +kernel
  · decide +kernel

end Filling

end MailMerge
