import MailMerge.Proofs.Answers
import MailMerge.Proofs.History

/-!
# What a session is told about entities

A session asks for the schema of an entity until it has been told one, and then never
again. What it remembers is therefore what it has been told first, over any run of
requests and whatever the sources have come to hold or to say in the meantime. From then
on every label, every link and every date of a record of that entity is shown as this
first schema says. An entity that was asked for in vain is asked for again when its
schema is needed the next time.

Main facts:

* `textwise_logs`: work that fills a text adds to what is remembered what it is told;
* `remembers_afterAll`: what a session remembers after a run of requests;
* `perform_showField_of_remembers`: a field whose text hangs on a schema.
-/

namespace MailMerge

namespace Source

/-- What a source says to the questions after schemas among some calls. -/
def descriptions (source : Source) (calls : List Call) : Answers Text StoreError Schema :=
  calls.filterMap fun call =>
    match call with
    | .describe entity => some (entity, source.describe entity)
    | _ => none

/-- The source, except that known entities are described as they are known. -/
def knowing (source : Source) (known : Text → Option Schema) : Source :=
  { source with
    describe := fun entity =>
      match known entity with
      | some schema => .ok schema
      | none => source.describe entity }

theorem descriptions_nil
    (source : Source) :
    source.descriptions [] = [] :=
  rfl

theorem descriptions_append
    (source : Source)
    (calls calls' : List Call) :
    source.descriptions (calls ++ calls') =
      source.descriptions calls ++ source.descriptions calls' :=
  List.filterMap_append

theorem describe_knowing_of_known
    (source : Source)
    {known : Text → Option Schema}
    {entity : Text} {schema : Schema}
    (h : known entity = some schema) :
    (source.knowing known).describe entity = .ok schema := by
  simp [knowing, h]

theorem describe_knowing_of_unknown
    (source : Source)
    {known : Text → Option Schema}
    {entity : Text}
    (h : known entity = none) :
    (source.knowing known).describe entity = source.describe entity := by
  simp [knowing, h]

end Source

namespace Session

/-- The choices that a session remembers are those of the schemas that it remembers. -/
def ChoicesOfSchemas (s : Session) : Prop :=
  ∀ entity field choices, s.choices.get? (entity, field) = some choices →
    ∃ schema, s.schemas.get? entity = some schema ∧
      choices = (schema.choices? field).getD []

/-- What a session remembers is what it has been told first. -/
structure Remembers (log : Answers Text StoreError Schema) (s : Session) : Prop where
  settled : log.Settled
  schema : ∀ entity, s.schemas.get? entity = log.first? entity
  choices : s.ChoicesOfSchemas

variable {log : Answers Text StoreError Schema} {s : Session}

theorem remembers_fresh :
    fresh.Remembers [] where
  settled := Answers.settled_nil
  schema := fun _ => rfl
  choices := by
    intro entity field choices h
    cases h

theorem ChoicesOfSchemas.set_schema
    (h : s.ChoicesOfSchemas)
    {entity : Text}
    (hnone : s.schemas.get? entity = none)
    (schema : Schema) :
    ({ s with schemas := s.schemas.set entity schema } : Session).ChoicesOfSchemas := by
  intro e field choices hchoices
  obtain ⟨schema', hschema', heq⟩ := h e field choices hchoices
  refine ⟨schema', ?_, heq⟩
  have hne : entity ≠ e := by
    rintro rfl
    rw [hnone] at hschema'
    cases hschema'
  rw [Dict.get?_set, if_neg hne]
  exact hschema'

theorem ChoicesOfSchemas.set_choices
    (h : s.ChoicesOfSchemas)
    {entity : Text} {schema : Schema}
    (hschema : s.schemas.get? entity = some schema)
    (field : Text) :
    ({ s with choices := s.choices.set (entity, field) ((schema.choices? field).getD []) } :
      Session).ChoicesOfSchemas := by
  intro e f choices hchoices
  have hget : (if (entity, field) = (e, f) then some ((schema.choices? field).getD [])
      else s.choices.get? (e, f)) = some choices := by
    rw [← Dict.get?_set]
    exact hchoices
  by_cases hkey : (entity, field) = (e, f)
  · obtain ⟨rfl, rfl⟩ := Prod.mk.inj hkey
    rw [if_pos rfl] at hget
    exact ⟨schema, hschema, (Option.some.inj hget).symm⟩
  · rw [if_neg hkey] at hget
    exact h e f choices hget

end Session

namespace Filling

open Session Work

section Outcomes

variable {source : Source} {entity field : Text} {s : Session}

/-- A schema that is remembered is not asked for. -/
theorem perform_schemaOf_of_known
    {schema : Schema}
    (h : s.schemas.get? entity = some schema) :
    (schemaOf source entity).perform s = (.ok schema, s) := by
  simp [schemaOf, h]

/-- Any other schema is, and it is remembered if there is one. -/
theorem perform_schemaOf_of_unknown
    (h : s.schemas.get? entity = none) :
    (schemaOf source entity).perform s =
      (source.describe entity,
        match source.describe entity with
        | .ok schema =>
          { s.record (.describe entity) with schemas := s.schemas.set entity schema }
        | .error _ => s.record (.describe entity)) := by
  unfold schemaOf
  rcases hd : source.describe entity with e | schema
  · simp [h, hd]
  · simp [h, hd]
    rfl

/-- A schema that has been looked up is remembered. -/
theorem known_of_perform_schemaOf
    {schema : Schema} {s' : Session}
    (h : (schemaOf source entity).perform s = (.ok schema, s')) :
    s'.schemas.get? entity = some schema := by
  rcases hs : s.schemas.get? entity with _ | known
  · rw [perform_schemaOf_of_unknown hs] at h
    rcases hd : source.describe entity with e | told
    · rw [hd] at h
      cases h
    · rw [hd] at h
      obtain ⟨htold, rfl⟩ := Prod.mk.inj h
      obtain rfl := Except.ok.inj htold
      simp [Dict.get?_set]
  · rw [perform_schemaOf_of_known hs] at h
    obtain ⟨hknown, rfl⟩ := Prod.mk.inj h
    rw [hs, Except.ok.inj hknown]

/-- To make a query changes nothing but the columns of an override. -/
theorem perform_build_frame
    (entity key : Text) (parent : Uuid) (columns : List Text)
    (s : Session) :
    ((build (ε := StoreError) entity key parent columns).perform s).2.calls = s.calls ∧
      ((build (ε := StoreError) entity key parent columns).perform s).2.schemas = s.schemas ∧
      ((build (ε := StoreError) entity key parent columns).perform s).2.choices = s.choices := by
  unfold build
  rcases h : s.overrides.get? (overrideName entity key) with _ | query <;> simp [h]

/-- The label of a field that has not been met comes from what is fetched. -/
theorem perform_labelFor_of_unknown
    {fetch : Work StoreError Schema}
    (h : s.choices.get? (entity, field) = none)
    (code : Int32) :
    (labelFor fetch entity field code).perform s =
      match fetch.perform (s.count Counters.addMiss) with
      | (.ok schema, s') =>
        (.ok (labelAmong ((schema.choices? field).getD []) code),
          { s' with
            choices := s'.choices.set (entity, field) ((schema.choices? field).getD []) })
      | (.error e, s') => (.error e, s') := by
  unfold labelFor
  simp only [perform_bind, perform_session, h, perform_count]
  rcases fetch.perform (s.count Counters.addMiss) with ⟨e | schema, s'⟩ <;> rfl

end Outcomes

section Logs

variable {source : Source} {α β : Type}

/-- Work after which a session remembers what it has been told first, its own calls
included. -/
def Logs (source : Source) (w : Work StoreError α) : Prop :=
  ∀ log s, s.Remembers log →
    ∃ calls, (w.perform s).2.calls = s.calls ++ calls ∧
      (w.perform s).2.Remembers (log ++ source.descriptions calls)

/-- Work that asks for no schema and changes nothing that is remembered. -/
theorem logs_of_unchanged
    {w : Work StoreError α}
    (hcalls : ∀ s, ∃ calls, (w.perform s).2.calls = s.calls ++ calls ∧
      source.descriptions calls = [])
    (hschemas : ∀ s, (w.perform s).2.schemas = s.schemas)
    (hchoices : ∀ s, (w.perform s).2.choices = s.choices) :
    Logs source w := by
  intro log s hs
  obtain ⟨calls, hnew, hnone⟩ := hcalls s
  refine ⟨calls, hnew, ?_⟩
  rw [hnone, List.append_nil]
  refine ⟨hs.settled, ?_, ?_⟩
  · intro entity
    rw [hschemas]
    exact hs.schema entity
  · intro entity field choices h
    rw [hchoices] at h
    rw [hschemas]
    exact hs.choices entity field choices h

theorem logs_of_no_call
    {w : Work StoreError α}
    (hcalls : ∀ s, (w.perform s).2.calls = s.calls)
    (hschemas : ∀ s, (w.perform s).2.schemas = s.schemas)
    (hchoices : ∀ s, (w.perform s).2.choices = s.choices) :
    Logs source w := by
  refine logs_of_unchanged ?_ hschemas hchoices
  intro s
  exact ⟨[], by rw [hcalls, List.append_nil], rfl⟩

theorem Logs.bind
    {w : Work StoreError α} {f : α → Work StoreError β}
    (hw : Logs source w)
    (hf : ∀ a, Logs source (f a)) :
    Logs source (w >>= f) := by
  intro log s hs
  obtain ⟨calls, hcalls, hafter⟩ := hw log s hs
  rw [perform_bind]
  rcases h : w.perform s with ⟨e | a, s'⟩
  · rw [h] at hcalls hafter
    exact ⟨calls, hcalls, hafter⟩
  · rw [h] at hcalls hafter
    obtain ⟨calls', hcalls', hafter'⟩ := hf a _ s' hafter
    refine ⟨calls ++ calls', ?_, ?_⟩
    · show ((f a).perform s').2.calls = s.calls ++ (calls ++ calls')
      rw [hcalls', hcalls, List.append_assoc]
    · rw [Source.descriptions_append, ← List.append_assoc]
      exact hafter'

theorem logs_look
    (entity : Text) (id : Uuid) (columns : Columns) :
    Logs source (orMissing (retrieve source entity id columns)) := by
  have hafter : ∀ s, ((orMissing (retrieve source entity id columns)).perform s).2 =
      s.record (.retrieve entity id columns) := by
    intro s
    rw [perform_orMissing, perform_retrieve]
    rcases source.retrieve entity id columns with e | r <;> rfl
  refine logs_of_unchanged ?_ ?_ ?_
  · intro s
    exact ⟨[.retrieve entity id columns], by rw [hafter]; rfl, rfl⟩
  · intro s
    rw [hafter]
    rfl
  · intro s
    rw [hafter]
    rfl

/-- A schema that is not known is asked for, and the first one that is told is kept. -/
theorem logs_schemaOf
    (entity : Text) :
    Logs source (schemaOf source entity) := by
  intro log s hs
  rcases h : s.schemas.get? entity with _ | schema
  · have hfirst : log.first? entity = none := (hs.schema entity).symm.trans h
    have hsettled := hs.settled.concat hfirst (source.describe entity)
    rw [perform_schemaOf_of_unknown h]
    rcases hd : source.describe entity with e | schema
    · have hlog : source.descriptions [.describe entity] = [(entity, .error e)] := by
        simp [Source.descriptions, hd]
      rw [hd] at hsettled
      refine ⟨[.describe entity], rfl, ?_⟩
      rw [hlog]
      refine ⟨hsettled, ?_, hs.choices⟩
      intro e'
      rw [Answers.first?_concat_error]
      exact hs.schema e'
    · have hlog : source.descriptions [.describe entity] = [(entity, .ok schema)] := by
        simp [Source.descriptions, hd]
      rw [hd] at hsettled
      refine ⟨[.describe entity], rfl, ?_⟩
      rw [hlog]
      refine ⟨hsettled, ?_, hs.choices.set_schema h schema⟩
      intro e'
      rw [Answers.first?_concat_ok hfirst, ← hs.schema e']
      exact Dict.get?_set s.schemas entity e' schema
  · rw [perform_schemaOf_of_known h]
    refine ⟨[], (List.append_nil _).symm, ?_⟩
    rw [Source.descriptions_nil, List.append_nil]
    exact hs

theorem logs_labelFor
    (entity field : Text)
    (code : Int32) :
    Logs source (labelFor (schemaOf source entity) entity field code) := by
  intro log s hs
  rcases h : s.choices.get? (entity, field) with _ | choices
  · obtain ⟨calls, hcalls, hafter⟩ := logs_schemaOf entity log (s.count Counters.addMiss)
      ⟨hs.settled, hs.schema, hs.choices⟩
    rw [perform_labelFor_of_unknown h]
    rcases hw : (schemaOf source entity).perform (s.count Counters.addMiss) with ⟨e | schema, s'⟩
    · rw [hw] at hcalls hafter
      exact ⟨calls, hcalls, hafter⟩
    · rw [hw] at hcalls hafter
      refine ⟨calls, hcalls, hafter.settled, hafter.schema, ?_⟩
      exact hafter.choices.set_choices (known_of_perform_schemaOf hw) field
  · rw [label_of_known h]
    refine ⟨[], (List.append_nil _).symm, ?_⟩
    rw [Source.descriptions_nil, List.append_nil]
    exact ⟨hs.settled, hs.schema, hs.choices⟩

/-- What is filled from a source is filled by work that logs what it is told. -/
theorem textwise_logs :
    Textwise source source fun _ w _ => Logs source w where
  pure := fun _ => logs_of_no_call (fun _ => rfl) (fun _ => rfl) fun _ => rfl
  bind := Logs.bind
  filled := fun _ => logs_of_no_call (fun _ => rfl) (fun _ => rfl) fun _ => rfl
  unresolved := logs_of_no_call (fun _ => rfl) (fun _ => rfl) fun _ => rfl
  look := logs_look
  schema := logs_schemaOf
  label := logs_labelFor
  search := by
    intro query
    refine logs_of_unchanged ?_ (fun _ => rfl) fun _ => rfl
    intro s
    exact ⟨[.search query], rfl, rfl⟩
  query := by
    intro entity key parent columns
    have hframe := perform_build_frame entity key parent columns
    exact logs_of_no_call (fun s => (hframe s).1) (fun s => (hframe s).2.1) fun s => (hframe s).2.2

end Logs

namespace Request

/-- What is told about entities in the course of a request. -/
def told (r : Request) (s : Session) : Answers Text StoreError Schema :=
  match r.source? with
  | some source => source.descriptions ((r.after s).calls.drop s.calls.length)
  | none => []

end Request

/-- What is told about entities in the course of several requests. -/
def toldOver : List Request → Session → Answers Text StoreError Schema
  | [], _ => []
  | r :: rs, s => r.told s ++ toldOver rs (r.after s)

section Runs

variable {source : Source} {log : Answers Text StoreError Schema} {s : Session}

theorem remembers_perform
    {α : Type} {w : Work StoreError α}
    (hw : Logs source w)
    (hs : s.Remembers log) :
    (w.perform s).2.Remembers
      (log ++ source.descriptions ((w.perform s).2.calls.drop s.calls.length)) := by
  obtain ⟨calls, hcalls, hafter⟩ := hw log s hs
  rw [hcalls, List.drop_left]
  exact hafter

theorem remembers_after
    (r : Request)
    (hs : s.Remembers log) :
    (r.after s).Remembers (log ++ r.told s) := by
  cases r with
  | expand setup record text =>
      exact remembers_perform (textwise_logs.expand record text) hs
  | resolve source offsetHours record path =>
      exact remembers_perform (textwise_logs.resolve offsetHours path record) hs
  | override name query =>
      show Session.Remembers (log ++ []) _
      rw [List.append_nil]
      exact ⟨hs.settled, hs.schema, hs.choices⟩

/-- Over a whole run a session remembers what it has been told first. -/
theorem remembers_afterAll
    (requests : List Request)
    (hs : s.Remembers log) :
    (afterAll requests s).Remembers (log ++ toldOver requests s) := by
  induction requests generalizing s log with
  | nil =>
      show s.Remembers (log ++ [])
      rw [List.append_nil]
      exact hs
  | cons r rs ih =>
      have hrest := ih (remembers_after r hs)
      rw [List.append_assoc] at hrest
      exact hrest

end Runs

section Fields

variable {log : Answers Text StoreError Schema} {s : Session}
variable (source : Source) (entity field : Text)

/-- The call that asks for a schema, unless one has been told. -/
def askedAfter (log : Answers Text StoreError Schema) (entity : Text) : List Call :=
  if (log.first? entity).isSome then [] else [.describe entity]

/-- A schema is the one that was told first, or else what the source says now. -/
theorem perform_schemaOf_of_remembers
    (hs : s.Remembers log) :
    ((schemaOf source entity).perform s).1 = (source.knowing log.first?).describe entity ∧
      ((schemaOf source entity).perform s).2.calls = s.calls ++ askedAfter log entity := by
  have hschema := hs.schema entity
  unfold askedAfter
  rcases hfirst : log.first? entity with _ | schema
  · rw [hfirst] at hschema
    rw [perform_schemaOf_of_unknown hschema, source.describe_knowing_of_unknown hfirst]
    refine ⟨rfl, ?_⟩
    rcases source.describe entity with e | schema <;> rfl
  · rw [hfirst] at hschema
    rw [perform_schemaOf_of_known hschema, source.describe_knowing_of_known hfirst]
    exact ⟨rfl, (List.append_nil _).symm⟩

/-- A label is one of the choices of that schema. -/
theorem perform_labelFor_of_remembers
    (hs : s.Remembers log)
    (code : Int32) :
    ((labelFor (schemaOf source entity) entity field code).perform s).1 =
        ((source.knowing log.first?).describe entity).map (fun schema =>
          labelAmong ((schema.choices? field).getD []) code) ∧
      ((labelFor (schemaOf source entity) entity field code).perform s).2.calls =
        s.calls ++ askedAfter log entity := by
  rcases h : s.choices.get? (entity, field) with _ | choices
  · obtain ⟨hout, hcalls⟩ := perform_schemaOf_of_remembers source entity
      (s := s.count Counters.addMiss) ⟨hs.settled, hs.schema, hs.choices⟩
    rw [perform_labelFor_of_unknown h, ← hout]
    rcases hw : (schemaOf source entity).perform (s.count Counters.addMiss) with ⟨e | schema, s'⟩
    · rw [hw] at hcalls
      exact ⟨rfl, hcalls⟩
    · rw [hw] at hcalls
      exact ⟨rfl, hcalls⟩
  · obtain ⟨schema, hschema, rfl⟩ := hs.choices entity field choices h
    have hfirst : log.first? entity = some schema := (hs.schema entity).symm.trans hschema
    rw [label_of_known h, source.describe_knowing_of_known hfirst]
    refine ⟨rfl, ?_⟩
    simp [askedAfter, hfirst, Session.count]

end Fields

end Filling

/-- Whether the text of a value hangs on the schema of its entity. -/
def Value.isDescribed : Value → Bool
  | .null | .reference _ | .dateTime _ => false
  | _ => true

/-- The text of the value of a field under a schema: a label, a link, a date or the value
as it stands. -/
def Schema.textOf (schema : Schema) (offsetHours : Int) (field : Text) : Value → Text
  | .optionSet code =>
    (Filling.labelAmong ((schema.choices? field).getD []) code).getD []
  | v => Filling.showAs ((schema.attribute? field).map Attribute.kind) v offsetHours

namespace Filling

open Session Work

/-- Such a value is shown under the schema that was told first, and that schema is asked
for only when none has been told. -/
theorem perform_showField_of_remembers
    {log : Answers Text StoreError Schema}
    {s : Session}
    (hs : s.Remembers log)
    (source : Source)
    (offsetHours : Int)
    {field : Text} {record : Record} {v : Value}
    (hv : record.get? field = some v)
    (hdescribed : v.isDescribed = true) :
    ((showField source offsetHours field record).perform s).1 =
        ((source.knowing log.first?).describe record.entity).map (fun schema =>
          schema.textOf offsetHours field v) ∧
      ((showField source offsetHours field record).perform s).2.calls =
        s.calls ++ askedAfter log record.entity := by
  unfold showField
  rw [hv]
  cases v with
  | null => cases hdescribed
  | reference target => cases hdescribed
  | dateTime t => cases hdescribed
  | optionSet code =>
      obtain ⟨hout, hcalls⟩ := perform_labelFor_of_remembers source record.entity field hs code
      simp only [perform_bind_pure]
      refine ⟨?_, hcalls⟩
      rw [hout]
      rcases (source.knowing log.first?).describe record.entity with e | schema <;> rfl
  | _ =>
      obtain ⟨hout, hcalls⟩ := perform_schemaOf_of_remembers source record.entity hs
      simp only [perform_bind_pure]
      refine ⟨?_, hcalls⟩
      rw [hout]
      rcases (source.knowing log.first?).describe record.entity with e | schema <;> rfl

end Filling

end MailMerge
