import MailMerge.Proofs.History

/-!
# Paths over complete records

What a path of fields means can be said without calls, projections and sessions:
start from a record, follow each reference to the complete record that the store
holds, and show the last field of the record that is reached. Whatever is
missing on the way makes the text empty.

The filling of a letter asks for one column at a time instead. The column is the
next field of the path, and neither a step nor the showing of the last field
reads another one.

Main facts:

* `perform_showField_fst`: the text of a field, in a session that remembers only
  what the store says;
* `perform_follow_fst`: a path from a record of which only the first field and
  the entity need to be right;
* `resolve_eq_walk`: over a store every path has a text, and it is the one of the
  walk over complete records.
-/

namespace MailMerge

namespace Store

variable (store : Store) (offsetHours : Int)

/-- The name that a reference shows: its own, or else the name field of its record. -/
def nameOf (field : Text) (target : Reference) : Text :=
  match target.name.filter fun name => !Text.blank name with
  | some name => name
  | none =>
    match store.records.find? (target.entity, target.id) with
    | some r => ((r.get? (Filling.nameField field)).map Value.display).getD []
    | none => []

/-- The text that a field of a complete record shows. -/
def textOf (field : Text) (r : Record) : Text :=
  match r.get? field with
  | none => []
  | some (.optionSet code) =>
    (Filling.labelAmong (((store.describe r.entity).choices? field).getD []) code).getD []
  | some (.reference target) => store.nameOf field target
  | some (.dateTime t) => Filling.formatDate (.dateTime t) offsetHours
  | some v =>
    Filling.showAs (((store.describe r.entity).attribute? field).map Attribute.kind) v offsetHours

/-- The text at a path: references are followed to complete records, and the last
field is shown. -/
def walk : List Text → Record → Text
  | [], _ => []
  | [field], r => store.textOf offsetHours field r
  | field :: next :: rest, r =>
    match r.reference? field with
    | none => []
    | some target =>
      match store.records.find? (target.entity, target.id) with
      | none => []
      | some related => walk (next :: rest) related

end Store

namespace Filling

open Session Work

section Steps

variable (store : Store) {s : Session}

theorem get?_project_self
    (r : Record)
    (field : Text) :
    (r.project (.only [field])).get? field = r.get? field := by
  rw [Record.get?_project]
  simp [Columns.asks]

theorem perform_orMissing_retrieve
    (entity : Text)
    (id : Uuid)
    (columns : Columns) :
    (orMissing (retrieve store.toSource entity id columns)).perform s =
      (.ok ((store.records.find? (entity, id)).map fun r => r.project columns),
        s.record (.retrieve entity id columns)) := by
  have hcall : store.toSource.retrieve entity id columns =
      store.retrieve entity id columns := rfl
  rw [perform_orMissing, perform_retrieve, hcall]
  unfold Store.retrieve
  rcases store.records.find? (entity, id) with _ | r
  · rfl
  · rfl

theorem perform_referenceName_fst
    (field : Text)
    (target : Reference) :
    ((referenceName store.toSource field target).perform s).1 =
      .ok (store.nameOf field target) := by
  unfold referenceName Store.nameOf
  rcases target.name.filter fun name => !Text.blank name with _ | name
  · simp only [perform_bind, perform_orMissing_retrieve]
    rcases store.records.find? (target.entity, target.id) with _ | r
    · rfl
    · simp [get?_project_self]
  · rfl

theorem perform_showField_fst
    (hs : s.Informed store.toSource.describe)
    (offsetHours : Int)
    (field : Text)
    (r : Record) :
    ((showField store.toSource offsetHours field r).perform s).1 =
      .ok (store.textOf offsetHours field r) := by
  have hschema := perform_schemaOf_fst store.toSource r.entity s
  rw [hs.schema] at hschema
  unfold showField Store.textOf
  rcases r.get? field with _ | v
  · rfl
  · cases v with
    | optionSet code =>
        have hlabel := perform_labelFor_fst store.toSource r.entity field code s
        rw [hs.choices] at hlabel
        simp only [perform_bind]
        rcases hw : (labelFor (schemaOf store.toSource r.entity) r.entity field code).perform s
          with ⟨e | label, s'⟩
        · rw [hw] at hlabel
          exact absurd hlabel (by simp [Store.toSource, Except.map])
        · rw [hw] at hlabel
          have hl := Except.ok.inj hlabel
          simp [hl]
    | reference target =>
        exact perform_referenceName_fst store field target
    | dateTime t =>
        rfl
    | _ =>
        simp only [perform_bind]
        rcases hw : (schemaOf store.toSource r.entity).perform s with ⟨e | schema, s'⟩
        · rw [hw] at hschema
          exact absurd hschema (by simp [Store.toSource])
        · rw [hw] at hschema
          have hd : schema = store.describe r.entity := Except.ok.inj hschema
          simp [hd]

/-- Induction on the path. The record at hand needs to agree with the complete one only
in its entity and in the field that the path starts with. -/
theorem perform_follow_fst
    (hs : s.Informed store.toSource.describe)
    (offsetHours : Int)
    (path : List Text)
    {q r : Record}
    (hentity : q.entity = r.entity)
    (hfield : ∀ field ∈ path.head?, q.get? field = r.get? field) :
    ((follow store.toSource offsetHours path q).perform s).1 =
      .ok (store.walk offsetHours path r) := by
  rw [follow_congr hentity hfield]
  clear hentity hfield
  induction path generalizing s r with
  | nil =>
      rfl
  | cons field rest ih =>
      cases rest with
      | nil =>
          exact perform_showField_fst store hs offsetHours field r
      | cons next rest =>
          unfold follow Store.walk
          rcases r.reference? field with _ | target
          · rfl
          · simp only [perform_bind, perform_orMissing_retrieve]
            rcases store.records.find? (target.entity, target.id) with _ | related
            · rfl
            · -- one column was asked for, and it is the one that is read next
              have hnext : ∀ f ∈ (next :: rest).head?,
                  (related.project (.only [next])).get? f = related.get? f := by
                intro f hf
                obtain rfl := Option.some.inj hf
                exact get?_project_self related next
              have hcomplete : follow store.toSource offsetHours (next :: rest)
                  (related.project (.only [next])) =
                    follow store.toSource offsetHours (next :: rest) related :=
                follow_congr rfl hnext
              simp only [Option.map_some, hcomplete]
              exact ih (hs.of_alike (Alike.record s _))

end Steps

/-- Over a store, in any session that was new and has served any requests under the
same schemas, every path has a text, and it is the text of the walk over complete
records. -/
theorem resolve_eq_walk
    (store : Store)
    (requests : List Request)
    (h : ∀ r ∈ requests, r.Under store.toSource.describe)
    (offsetHours : Int)
    (path : Text)
    (record : Record) :
    ((resolve store.toSource offsetHours path record).perform
        (afterAll requests .fresh)).1 =
      .ok (store.walk offsetHours (Text.fields '.' path) record) := by
  have hinformed := informed_afterAll h informed_fresh
  exact perform_follow_fst store hinformed offsetHours (Text.fields '.' path) rfl
    (fun _ _ => rfl)

/-- A label at the end of a path that comes back to its start; a page that is an address, a
plain text, and the names of records that are referred to without them. -/
theorem resolve_along_cycle :
    ((resolve (dealStore 2).toSource 0 "parent.parent.stage".toList (dealRecord 1)).perform
        (afterAll dealRequests .fresh)).1 =
      .ok "Won".toList ∧
    ((resolve (linkedStore (some "URL".toList)).toSource 0 "parent.page".toList
        linkedDeal).perform (afterAll [] .fresh)).1 =
      .ok "<a href='https://crm/'>https://crm/</a>".toList ∧
    ((resolve (linkedStore (some "URL".toList)).toSource 0 "note".toList linkedDeal).perform
        (afterAll [] .fresh)).1 =
      .ok "Call back".toList ∧
    ((resolve (linkedStore (some "URL".toList)).toSource 0 "client".toList linkedDeal).perform
        (afterAll [] .fresh)).1 =
      .ok "Acme".toList ∧
    ((resolve (linkedStore (some "URL".toList)).toSource 0 "parent.ym_owner".toList
        linkedDeal).perform (afterAll [] .fresh)).1 =
      .ok "Ann".toList := by
  have hlabel := resolve_eq_walk (dealStore 2) dealRequests under_dealRequests 0
    "parent.parent.stage".toList (dealRecord 1)
  have hlinked := fun path => resolve_eq_walk (linkedStore (some "URL".toList)) []
    (fun _ hr => absurd hr List.not_mem_nil) 0 path linkedDeal
  refine ⟨hlabel.trans (congrArg Except.ok ?_), (hlinked _).trans (congrArg Except.ok ?_),
    (hlinked _).trans (congrArg Except.ok ?_), (hlinked _).trans (congrArg Except.ok ?_),
    (hlinked _).trans (congrArg Except.ok ?_)⟩ <;> decide +kernel

end Filling

end MailMerge
