import MailMerge.Proofs.Descriptions

/-!
# Gaps on a path

A path leads from record to record until its last field is left. At each record on
the way one look may be needed: for the record that a field points at, or for the
name of such a record at the end of the path. A look that finds no record is a gap,
and the path shows nothing; a look that fails in any other way is the failure of the
path.

The text of the last field may hang on the schema of its entity, unless the session
has been told what it needs. A description that is missing is no gap: whatever the
failure of the description is, the path fails with it. Nothing else can fail.

Main facts:

* `perform_showField_eq_error_iff`: how the last field fails;
* `perform_resolve_eq_error_iff`: how a path fails;
* `resolve_shows_gaps`: where every entity is described, no gap is a failure;
* `missing_schema_fails`: a description that is not found is a failure.
-/

namespace MailMerge

theorem Record.get?_ne_null
    (r : Record)
    (field : Text) :
    r.get? field ≠ some .null := by
  intro h
  have hnull := (Option.filter_eq_some_iff.1 h).2
  cases hnull

namespace Filling

open Session Work

/-- The record that is looked for where a path has come to, and the column that is asked
for: the record that a step leads to, or the one whose name a reference lacks. -/
def sought? : List Text → Record → Option (Reference × Text)
  | [], _ => none
  | [field], record =>
    (record.reference? field).bind fun target =>
      match target.name.filter fun name => !Text.blank name with
      | some _ => none
      | none => some (target, nameField field)
  | field :: next :: _, record =>
    (record.reference? field).map fun target => (target, next)

/-- A path from a record leads to what is left of it at another record. -/
inductive Leads (source : Source) : List Text → Record → List Text → Record → Prop
  /-- Where the path starts. -/
  | here (path : List Text) (record : Record) :
      Leads source path record path record
  /-- A step to a record that is there. -/
  | step {field next : Text} {rest left : List Text} {record related reached : Record}
      {target : Reference}
      (href : record.reference? field = some target)
      (hfound : source.retrieve target.entity target.id (.only [next]) = .ok related)
      (hrest : Leads source (next :: rest) related left reached) :
      Leads source (field :: next :: rest) record left reached

section Failures

variable (source : Source) (s : Session) (e : StoreError)

/-- The look at a record fails, and it is no gap. -/
def FailsToLook (path : List Text) (record : Record) : Prop :=
  ∃ target column, sought? path record = some (target, column) ∧
    source.retrieve target.entity target.id (.only [column]) = .error e ∧
    e.isNotFound = false

/-- The text of a field hangs on a schema, and the session has not been told what it
needs of it. -/
def Awaits (field : Text) (record : Record) : Prop :=
  s.schemas.get? record.entity = none ∧
    ∃ v, record.get? field = some v ∧ v.isDescribed = true ∧
      ∀ code, v = .optionSet code → s.choices.get? (record.entity, field) = none

/-- The schema that the last field hangs on is not told, for whatever reason. -/
def FailsToDescribe (path : List Text) (record : Record) : Prop :=
  ∃ field, path = [field] ∧ Awaits s field record ∧ source.describe record.entity = .error e

/-- A path fails where it has come to. -/
def FailsHere (path : List Text) (record : Record) : Prop :=
  FailsToLook source e path record ∨ FailsToDescribe source s e path record

end Failures

section Parts

variable {source : Source} {s : Session} {e : StoreError} {α β : Type}

theorem bind_pure_eq_error_iff
    {w : Work StoreError α} {f : α → β} :
    ((w >>= fun a => pure (f a)).perform s).1 = .error e ↔ (w.perform s).1 = .error e := by
  rw [perform_bind_pure]
  rcases (w.perform s).1 with _ | a <;> simp [Except.map]

/-- A look fails as its retrieve does, unless that is a gap. -/
theorem perform_look_eq_error_iff
    {entity : Text} {id : Uuid} {columns : Columns} :
    ((orMissing (retrieve source entity id columns)).perform s).1 = .error e ↔
      source.retrieve entity id columns = .error e ∧ e.isNotFound = false := by
  rw [perform_orMissing, perform_retrieve]
  rcases source.retrieve entity id columns with e' | r
  · by_cases hgap : e'.isNotFound = true
    · simp only [hgap, if_true, reduceCtorEq, Except.error.injEq, false_iff]
      rintro ⟨rfl, hno⟩
      rw [hgap] at hno
      cases hno
    · simp only [hgap, if_false, Bool.false_eq_true, Except.error.injEq]
      constructor
      · rintro rfl
        exact ⟨rfl, by simpa using hgap⟩
      · exact fun h => h.1
  · simp

theorem schemaSeen_eq_error_iff
    {entity : Text} :
    s.schemaSeen source.describe entity = .error e ↔
      s.schemas.get? entity = none ∧ source.describe entity = .error e := by
  unfold schemaSeen
  rcases s.schemas.get? entity with _ | schema <;> simp

theorem choicesSeen_eq_error_iff
    {entity field : Text} :
    s.choicesSeen source.describe entity field = .error e ↔
      s.choices.get? (entity, field) = none ∧
        s.schemas.get? entity = none ∧ source.describe entity = .error e := by
  rw [← schemaSeen_eq_error_iff]
  unfold choicesSeen
  rcases s.choices.get? (entity, field) with _ | choices
  · rcases s.schemaSeen source.describe entity with e' | schema <;> simp [Except.map]
  · simp

theorem perform_labelFor_eq_error_iff
    {entity field : Text}
    (code : Int32) :
    ((labelFor (schemaOf source entity) entity field code).perform s).1 = .error e ↔
      s.choices.get? (entity, field) = none ∧
        s.schemas.get? entity = none ∧ source.describe entity = .error e := by
  rw [perform_labelFor_fst, ← choicesSeen_eq_error_iff]
  rcases s.choicesSeen source.describe entity field with e' | choices <;> simp [Except.map]

/-- A name fails only when it has to be looked for. -/
theorem perform_referenceName_eq_error_iff
    {field : Text} {record : Record} {target : Reference}
    (href : record.reference? field = some target) :
    ((referenceName source field target).perform s).1 = .error e ↔
      FailsToLook source e [field] record := by
  unfold referenceName FailsToLook
  simp only [sought?, href, Option.bind_some]
  rcases target.name.filter fun name => !Text.blank name with _ | name
  · simp only [bind_pure_eq_error_iff, perform_look_eq_error_iff]
    simp
  · simp

theorem awaits_iff
    {field : Text} {record : Record} {v : Value}
    (hv : record.get? field = some v) :
    Awaits s field record ↔
      v.isDescribed = true ∧ s.schemas.get? record.entity = none ∧
        ∀ code, v = .optionSet code → s.choices.get? (record.entity, field) = none := by
  constructor
  · rintro ⟨hschema, v', hv', hdescribed, hchoices⟩
    obtain rfl := Option.some.inj (hv.symm.trans hv')
    exact ⟨hdescribed, hschema, hchoices⟩
  · rintro ⟨hdescribed, hschema, hchoices⟩
    exact ⟨hschema, v, hv, hdescribed, hchoices⟩

theorem failsToDescribe_field_iff
    {field : Text} {record : Record} {v : Value}
    (hv : record.get? field = some v) :
    FailsToDescribe source s e [field] record ↔
      v.isDescribed = true ∧ s.schemas.get? record.entity = none ∧
        (∀ code, v = .optionSet code → s.choices.get? (record.entity, field) = none) ∧
        source.describe record.entity = .error e := by
  constructor
  · rintro ⟨field', hpath, hawaits, hfail⟩
    obtain rfl := List.singleton_inj.1 hpath
    obtain ⟨hdescribed, hschema, hchoices⟩ := (awaits_iff hv).1 hawaits
    exact ⟨hdescribed, hschema, hchoices, hfail⟩
  · rintro ⟨hdescribed, hschema, hchoices, hfail⟩
    exact ⟨field, rfl, (awaits_iff hv).2 ⟨hdescribed, hschema, hchoices⟩, hfail⟩

theorem not_failsToLook_of_not_reference
    {field : Text} {record : Record}
    (href : record.reference? field = none) :
    ¬ FailsToLook source e [field] record := by
  rintro ⟨target, column, hsought, -⟩
  simp [sought?, href] at hsought

end Parts

/-- The last field fails when the name of its reference has to be looked for, or its
schema asked for, and that fails. -/
theorem perform_showField_eq_error_iff
    {source : Source} {s : Session} {e : StoreError}
    (offsetHours : Int)
    (field : Text)
    (record : Record) :
    ((showField source offsetHours field record).perform s).1 = .error e ↔
      FailsHere source s e [field] record := by
  unfold showField FailsHere
  rcases hv : record.get? field with _ | v
  · have hnone : ¬ FailsToDescribe source s e [field] record := by
      rintro ⟨field', hpath, ⟨-, v, hv', -⟩, -⟩
      obtain rfl := List.singleton_inj.1 hpath
      rw [hv] at hv'
      cases hv'
    have href : record.reference? field = none := by simp [Record.reference?, hv]
    simp [hnone, not_failsToLook_of_not_reference href]
  · rw [failsToDescribe_field_iff hv]
    cases v with
    | reference target =>
        have href : record.reference? field = some target := by simp [Record.reference?, hv]
        simp only [perform_referenceName_eq_error_iff href, Value.isDescribed]
        simp
    | optionSet code =>
        have href : record.reference? field = none := by simp [Record.reference?, hv]
        simp only [bind_pure_eq_error_iff, perform_labelFor_eq_error_iff,
          not_failsToLook_of_not_reference href]
        simp [Value.isDescribed, and_left_comm]
    | null => exact absurd hv (record.get?_ne_null field)
    | dateTime t =>
        have href : record.reference? field = none := by simp [Record.reference?, hv]
        simp [not_failsToLook_of_not_reference href, Value.isDescribed]
    | _ =>
        have href : record.reference? field = none := by simp [Record.reference?, hv]
        simp only [bind_pure_eq_error_iff, perform_schemaOf_fst, schemaSeen_eq_error_iff,
          not_failsToLook_of_not_reference href]
        simp [Value.isDescribed]

section Paths

variable {source : Source} {s : Session} {e : StoreError}

/-- Before its last field a path fails only when a record has to be looked for. -/
theorem failsHere_step_iff
    {field next : Text} {rest : List Text} {record : Record} :
    FailsHere source s e (field :: next :: rest) record ↔
      ∃ target, record.reference? field = some target ∧
        source.retrieve target.entity target.id (.only [next]) = .error e ∧
        e.isNotFound = false := by
  constructor
  · rintro (⟨target, column, hsought, hfail⟩ | ⟨last, hpath, -⟩)
    · obtain ⟨target', href, heq⟩ := Option.map_eq_some_iff.1 hsought
      obtain ⟨rfl, rfl⟩ := Prod.mk.inj heq
      exact ⟨target', href, hfail⟩
    · exact absurd hpath (by simp)
  · rintro ⟨target, href, hfail⟩
    exact .inl ⟨target, next, by simp [sought?, href], hfail⟩

/-- The failure of a path with a step is that of the step, or that of the path behind it. -/
theorem exists_failsHere_step_iff
    {field next : Text} {rest : List Text} {record : Record} :
    (∃ left reached, Leads source (field :: next :: rest) record left reached ∧
        FailsHere source s e left reached) ↔
      ∃ target, record.reference? field = some target ∧
        ((source.retrieve target.entity target.id (.only [next]) = .error e ∧
            e.isNotFound = false) ∨
          ∃ related, source.retrieve target.entity target.id (.only [next]) = .ok related ∧
            ∃ left reached, Leads source (next :: rest) related left reached ∧
              FailsHere source s e left reached) := by
  constructor
  · rintro ⟨left, reached, hleads, hfail⟩
    cases hleads with
    | here =>
        obtain ⟨target, href, hlost⟩ := failsHere_step_iff.1 hfail
        exact ⟨target, href, .inl hlost⟩
    | step href hfound hrest =>
        exact ⟨_, href, .inr ⟨_, hfound, left, reached, hrest, hfail⟩⟩
  · rintro ⟨target, href, hlost | ⟨related, hfound, left, reached, hrest, hfail⟩⟩
    · exact ⟨_, _, .here _ _, failsHere_step_iff.2 ⟨target, href, hlost⟩⟩
    · exact ⟨left, reached, .step href hfound hrest, hfail⟩

/-- Induction on the path: what the session has been told does not change on the way. -/
theorem perform_follow_eq_error_iff
    (offsetHours : Int)
    (path : List Text)
    (record : Record) :
    ((follow source offsetHours path record).perform s).1 = .error e ↔
      ∃ left reached, Leads source path record left reached ∧
        FailsHere source s e left reached := by
  induction path generalizing record s with
  | nil =>
      simp only [follow, perform_pure, reduceCtorEq, false_iff]
      rintro ⟨left, reached, ⟨⟩, hfail⟩
      rcases hfail with ⟨target, column, hsought, -⟩ | ⟨last, hpath, -⟩
      · cases hsought
      · cases hpath
  | cons field rest ih =>
      cases rest with
      | nil =>
          simp only [follow, perform_showField_eq_error_iff]
          constructor
          · intro hfail
            exact ⟨_, _, .here _ _, hfail⟩
          · rintro ⟨left, reached, ⟨⟩, hfail⟩
            exact hfail
      | cons next rest =>
          rw [exists_failsHere_step_iff]
          unfold follow
          rcases href : record.reference? field with _ | target
          · simp
          · simp only [bind_eq_error_iff, perform_look_eq_error_iff]
            simp only [Option.some.injEq, exists_eq_left']
            -- the look itself has been dealt with; a gap ends the path without a failure
            refine or_congr_right ?_
            rw [perform_orMissing, perform_retrieve]
            rcases source.retrieve target.entity target.id (.only [next]) with e' | related
            · by_cases hgap : e'.isNotFound = true <;> simp [hgap]
            · simp only [Except.ok.injEq, exists_eq_left']
              exact ih related

end Paths

/-- A path fails exactly when it leads to a record where it fails: a record that is looked
for cannot be retrieved, for another reason than that it is not there, or the schema that the
last field hangs on is not told, for any reason. -/
theorem perform_resolve_eq_error_iff
    (source : Source)
    (offsetHours : Int)
    (path : Text)
    (record : Record)
    (s : Session)
    (e : StoreError) :
    ((resolve source offsetHours path record).perform s).1 = .error e ↔
      ∃ left reached, Leads source (Text.fields '.' path) record left reached ∧
        (FailsToLook source e left reached ∨ FailsToDescribe source s e left reached) :=
  perform_follow_eq_error_iff offsetHours (Text.fields '.' path) record

/-- Where no description is missing, no gap in the data is a failure. -/
theorem resolve_shows_gaps
    {source : Source}
    (hdescribe : ∀ entity e, source.describe entity = .error e → e.isNotFound = false)
    {offsetHours : Int} {path : Text} {record : Record} {s : Session} {e : StoreError}
    (h : ((resolve source offsetHours path record).perform s).1 = .error e) :
    e.isNotFound = false := by
  obtain ⟨left, reached, -, hfail⟩ := (perform_follow_eq_error_iff offsetHours _ record).1 h
  rcases hfail with ⟨target, column, -, -, hlook⟩ | ⟨field, -, -, hdescribed⟩
  · exact hlook
  · exact hdescribe reached.entity e hdescribed

/-- The source of a store that knows no description. -/
def undescribedSource (store : Store) : Source :=
  { store.toSource with describe := fun entity => .error (.notFound entity .zero) }

/-- A description that is not found is a failure, unlike a record that is not found. -/
theorem missing_schema_fails :
    ¬ ∀ (source : Source) (offsetHours : Int) (path : Text) (record : Record) (s : Session)
      (e : StoreError),
      ((resolve source offsetHours path record).perform s).1 = .error e →
        e.isNotFound = false := by
  intro h
  have hgap := h (undescribedSource (dealStore 1)) 0 "stage".toList (dealRecord 1) .fresh
    (.notFound "deal".toList .zero) (by decide +kernel)
  cases hgap

end Filling

end MailMerge
