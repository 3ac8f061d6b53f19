import MailMerge.Filling.Expansion

/-!
# Sessions that look alike

A session remembers schemas and choices, and it keeps each override with the
columns that it was last asked for. Calls and counters apart, three questions
can be put to a session: the schema of an entity, the choices of a field, and
the override of a name up to its columns. Sessions that give the same answers
are *alike*. What a session has not learnt yet is answered by the source.

Work is *steady* when alike sessions give it the same outcome and when the
session after it, also after a failure, is alike to the one before.

Main facts:

* `Alike.set_schema`, `Alike.set_choices`, `Alike.set_columns`: to remember what
  would have been the answer anyway changes no answer;
* `Steady.bind`, `Steady.orMissing`: steady work one after the other is steady, also
  when gaps in the data are passed over.
-/

namespace MailMerge

/-- The answers of a source about schemas. -/
abbrev Descriptions := Text → Except StoreError Schema

namespace Session

/-- The schema of an entity: the one that is remembered, or what the source says. -/
def schemaSeen (describe : Descriptions) (s : Session) (entity : Text) :
    Except StoreError Schema :=
  match s.schemas.get? entity with
  | some schema => .ok schema
  | none => describe entity

/-- The choices of a field: those that are remembered, or those of the schema. -/
def choicesSeen (describe : Descriptions) (s : Session) (entity field : Text) :
    Except StoreError (List Choice) :=
  match s.choices.get? (entity, field) with
  | some choices => .ok choices
  | none =>
    (s.schemaSeen describe entity).map fun schema =>
      (schema.choices? field).getD []

/-- The override of a name, up to its columns. -/
def overrideSeen (s : Session) (name : Text) : Option (Text × List Condition) :=
  (s.overrides.get? name).map fun query => (query.entity, query.conditions)

/-- Two sessions that give the same answers. -/
structure Alike (describe : Descriptions) (s t : Session) : Prop where
  schema : ∀ entity,
    s.schemaSeen describe entity = t.schemaSeen describe entity
  choices : ∀ entity field,
    s.choicesSeen describe entity field = t.choicesSeen describe entity field
  override : ∀ name,
    s.overrideSeen name = t.overrideSeen name

namespace Alike

variable {describe : Descriptions} {s t u : Session}

theorem refl
    (s : Session) :
    s.Alike describe s :=
  ⟨fun _ => rfl, fun _ _ => rfl, fun _ => rfl⟩

theorem symm
    (h : s.Alike describe t) :
    t.Alike describe s := by
  constructor
  · intro entity
    exact (h.schema entity).symm
  · intro entity field
    exact (h.choices entity field).symm
  · intro name
    exact (h.override name).symm

theorem trans
    (h : s.Alike describe t)
    (h' : t.Alike describe u) :
    s.Alike describe u := by
  constructor
  · intro entity
    exact (h.schema entity).trans (h'.schema entity)
  · intro entity field
    exact (h.choices entity field).trans (h'.choices entity field)
  · intro name
    exact (h.override name).trans (h'.override name)

theorem record
    (s : Session)
    (call : Call) :
    (s.record call).Alike describe s :=
  ⟨fun _ => rfl, fun _ _ => rfl, fun _ => rfl⟩

theorem count
    (s : Session)
    (f : Counters → Counters) :
    (s.count f).Alike describe s :=
  ⟨fun _ => rfl, fun _ _ => rfl, fun _ => rfl⟩

/-- To remember a schema that would have been the answer anyway changes no answer. -/
theorem set_schema
    {entity : Text} {schema : Schema}
    (h : s.schemaSeen describe entity = .ok schema) :
    ({ s with schemas := s.schemas.set entity schema } : Session).Alike
      describe s := by
  have hschema : ∀ e,
      ({ s with schemas := s.schemas.set entity schema } : Session).schemaSeen
        describe e = s.schemaSeen describe e := by
    intro e
    by_cases he : entity = e
    · subst he
      rw [h]
      simp [schemaSeen, Dict.get?_set]
    · simp [schemaSeen, Dict.get?_set, he]
  refine ⟨hschema, ?_, fun _ => rfl⟩
  intro e f
  unfold choicesSeen
  rw [hschema e]

/-- To remember choices that would have been the answer anyway changes no answer. -/
theorem set_choices
    {entity field : Text} {choices : List Choice}
    (h : s.choicesSeen describe entity field = .ok choices) :
    ({ s with choices := s.choices.set (entity, field) choices } : Session).Alike
      describe s := by
  refine ⟨fun _ => rfl, ?_, fun _ => rfl⟩
  intro e f
  by_cases he : (entity, field) = (e, f)
  · obtain ⟨rfl, rfl⟩ := Prod.mk.inj he
    rw [h]
    simp [choicesSeen, Dict.get?_set]
  · unfold choicesSeen
    rw [Dict.get?_set, if_neg he]
    rfl

/-- The columns of an override are not among the answers. -/
theorem set_columns
    {name : Text} {query : Query}
    (h : s.overrides.get? name = some query)
    (columns : Columns) :
    ({ s with overrides := s.overrides.set name { query with columns := columns } } :
      Session).Alike describe s := by
  refine ⟨fun _ => rfl, fun _ _ => rfl, ?_⟩
  intro n
  by_cases hn : name = n
  · subst hn
    simp [overrideSeen, Dict.get?_set, h]
  · simp [overrideSeen, Dict.get?_set, hn]

/-- An override that is set in alike sessions leaves them alike. -/
theorem set_override
    (h : s.Alike describe t)
    (name : Text)
    (query : Query) :
    ({ s with overrides := s.overrides.set name query } : Session).Alike
      describe { t with overrides := t.overrides.set name query } := by
  refine ⟨h.schema, h.choices, ?_⟩
  intro n
  by_cases hn : name = n
  · simp [overrideSeen, Dict.get?_set, hn]
  · have hother := h.override n
    unfold overrideSeen at hother ⊢
    rw [Dict.get?_set, if_neg hn, Dict.get?_set, if_neg hn]
    exact hother

end Alike

end Session

namespace Work

variable {ε α β : Type} {describe : Descriptions}

/-- Work on which it does not show what the session has learnt. -/
structure Steady (describe : Descriptions) (w : Work ε α) : Prop where
  alike : ∀ s, (w.perform s).2.Alike describe s
  outcome : ∀ s t, s.Alike describe t → (w.perform s).1 = (w.perform t).1

theorem steady_pure
    (a : α) :
    Steady describe (pure a : Work ε α) :=
  ⟨fun s => Session.Alike.refl s, fun _ _ _ => rfl⟩

theorem steady_count
    (f : Counters → Counters) :
    Steady describe (count f : Work ε Unit) :=
  ⟨fun s => Session.Alike.count s f, fun _ _ _ => rfl⟩

theorem steady_retrieve
    (source : Source)
    (entity : Text) (id : Uuid) (columns : Columns) :
    Steady describe (retrieve source entity id columns) :=
  ⟨fun s => Session.Alike.record s _, fun _ _ _ => rfl⟩

theorem steady_search
    (source : Source)
    (query : Query) :
    Steady describe (search source query) :=
  ⟨fun s => Session.Alike.record s _, fun _ _ _ => rfl⟩

/-- Steady work followed by steady work is steady. -/
theorem Steady.bind
    {w : Work ε α} {f : α → Work ε β}
    (hw : Steady describe w)
    (hf : ∀ a, Steady describe (f a)) :
    Steady describe (w >>= f) := by
  constructor
  · intro s
    have hs := hw.alike s
    rw [perform_bind]
    rcases h : w.perform s with ⟨e | a, s'⟩
    · rw [h] at hs
      exact hs
    · rw [h] at hs
      exact ((hf a).alike s').trans hs
  · intro s t hst
    have hout := hw.outcome s t hst
    have hs := hw.alike s
    have ht := hw.alike t
    rw [perform_bind, perform_bind]
    rcases h : w.perform s with ⟨e | a, s'⟩ <;>
      rcases h' : w.perform t with ⟨e' | a', t'⟩ <;>
      rw [h] at hout hs <;>
      rw [h'] at hout ht
    · exact congrArg Except.error (Except.error.inj hout)
    · exact absurd hout (by simp)
    · exact absurd hout (by simp)
    · obtain rfl := Except.ok.inj hout
      -- the two sessions in between are alike, so the rest has one outcome
      exact (hf a).outcome s' t' ((hs.trans hst).trans ht.symm)

/-- Steady work stays steady when gaps in the data are passed over. -/
theorem Steady.orMissing
    {w : Work StoreError α}
    (hw : Steady describe w) :
    Steady describe (orMissing w) := by
  constructor
  · intro s
    have hs := hw.alike s
    rw [perform_orMissing]
    rcases h : w.perform s with ⟨e | a, s'⟩
    · rw [h] at hs
      exact hs
    · rw [h] at hs
      exact hs
  · intro s t hst
    have hout := hw.outcome s t hst
    rw [perform_orMissing, perform_orMissing]
    rcases h : w.perform s with ⟨e | a, s'⟩ <;>
      rcases h' : w.perform t with ⟨e' | a', t'⟩ <;>
      rw [h, h'] at hout
    · obtain rfl := Except.error.inj hout
      rfl
    · exact absurd hout (by simp)
    · exact absurd hout (by simp)
    · obtain rfl := Except.ok.inj hout
      rfl

end Work

end MailMerge
