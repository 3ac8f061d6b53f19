import MailMerge.Proofs.Steady
import MailMerge.Store.Memory

/-!
# Filling from a store never fails

A store answers every search and describes every entity. What it cannot do is to
retrieve a record that is not there, and that is a gap in the data, which shows as
nothing. So whatever is filled from a store comes to an end, in every session and
whatever the template and the records hold. Work of which this is true *succeeds*.

Main facts:

* `Succeeds.bind`: work that succeeds, one after the other, succeeds;
* `inherited_succeeds`: all that is filled from a store is filled by such work;
* `succeeds_expandAt`, `succeeds_renderAt`: so to fill a text is such work, and a
  placeholder is rendered by such work.
-/

namespace MailMerge

namespace Work

variable {ε α β : Type}

/-- Work that fails in no session. -/
def Succeeds (w : Work ε α) : Prop :=
  ∀ s, ∃ a, (w.perform s).1 = .ok a

theorem succeeds_pure
    (a : α) :
    Succeeds (pure a : Work ε α) :=
  fun _ => ⟨a, rfl⟩

theorem succeeds_count
    (f : Counters → Counters) :
    Succeeds (count f : Work ε Unit) :=
  fun _ => ⟨(), rfl⟩

theorem perform_bind_of_ok
    {w : Work ε α} {f : α → Work ε β}
    {s : Session} {a : α}
    (h : (w.perform s).1 = .ok a) :
    (w >>= f).perform s = (f a).perform (w.perform s).2 := by
  rw [perform_bind]
  rcases hw : w.perform s with ⟨e | b, s'⟩
  · rw [hw] at h
    cases h
  · rw [hw] at h
    obtain rfl := Except.ok.inj h
    rfl

theorem Succeeds.bind
    {w : Work ε α} {f : α → Work ε β}
    (hw : Succeeds w)
    (hf : ∀ a, Succeeds (f a)) :
    Succeeds (w >>= f) := by
  intro s
  obtain ⟨a, ha⟩ := hw s
  rw [perform_bind_of_ok ha]
  exact hf a _

end Work

namespace Filling

open Session Work

section Answers

variable (store : Store)

theorem succeeds_orMissing_retrieve
    (entity : Text)
    (id : Uuid)
    (columns : Columns) :
    Succeeds (orMissing (retrieve store.toSource entity id columns)) := by
  intro s
  rw [perform_orMissing, perform_retrieve]
  have hcall : store.toSource.retrieve entity id columns =
      store.retrieve entity id columns := rfl
  rw [hcall]
  unfold Store.retrieve
  rcases store.records.find? (entity, id) with _ | r
  · exact ⟨none, rfl⟩
  · exact ⟨some (r.project columns), rfl⟩

theorem exists_schemaSeen
    (entity : Text)
    (s : Session) :
    ∃ schema, s.schemaSeen store.toSource.describe entity = .ok schema := by
  unfold schemaSeen
  rcases s.schemas.get? entity with _ | schema
  · exact ⟨store.describe entity, rfl⟩
  · exact ⟨schema, rfl⟩

theorem exists_choicesSeen
    (entity field : Text)
    (s : Session) :
    ∃ choices, s.choicesSeen store.toSource.describe entity field = .ok choices := by
  unfold choicesSeen
  rcases s.choices.get? (entity, field) with _ | choices
  · obtain ⟨schema, hschema⟩ := exists_schemaSeen store entity s
    exact ⟨(schema.choices? field).getD [], by rw [hschema]; rfl⟩
  · exact ⟨choices, rfl⟩

/-- What is filled from a store is filled by work that succeeds. -/
theorem inherited_succeeds :
    Inherited store.toSource fun _ => Succeeds where
  pure := succeeds_pure
  bind := Succeeds.bind
  count := succeeds_count
  look := succeeds_orMissing_retrieve store
  search := fun query _ => ⟨store.search query, rfl⟩
  schema := by
    intro entity s
    rw [perform_schemaOf_fst]
    exact exists_schemaSeen store entity s
  label := by
    intro entity field code s
    obtain ⟨choices, hchoices⟩ := exists_choicesSeen store entity field s
    rw [perform_labelFor_fst, hchoices]
    exact ⟨labelAmong choices code, rfl⟩
  query := by
    intro entity key parent columns s
    rw [perform_build_fst]
    exact ⟨_, rfl⟩

end Answers

section Texts

variable {setup : Setup} {store : Store} (hsource : setup.source = store.toSource)
include hsource

theorem inherited_succeeds_of_source :
    Inherited setup.source fun _ => Succeeds := by
  rw [hsource]
  exact inherited_succeeds store

theorem succeeds_expandAt
    (depth : Nat)
    (record : Record)
    (text : Text) :
    Succeeds (expandAt setup depth record text) :=
  (inherited_succeeds_of_source hsource).expandAt depth record text

theorem succeeds_renderAt
    (depth : Nat)
    (record : Record)
    (directive : Template.Directive) :
    Succeeds (renderAt setup depth record directive) :=
  (inherited_succeeds_of_source hsource).renderAt depth record directive

end Texts

end Filling

end MailMerge
