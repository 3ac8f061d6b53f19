import MailMerge.Proofs.Columns
import MailMerge.Proofs.Nesting

/-!
# What a list discloses

Of the records in a list nothing is fetched but the columns of its parts, whatever
columns an override asks for, and these are custom fields all of them. So no other
field of a listed record can have any influence: neither on the text of the list nor on
the calls that are made for it, nor on whether it fails.

This is a statement about two fillings. Take two sources that give the same records and
schemas, and whose answers to the query of a list correspond record by record, with the
same custom fields but any other fields whatsoever. From both the list is filled by the
same work, in any session. The items ask for no lists themselves, so the one query is
the only search that is made.

Main facts:

* `agreeOn_project`: records with the same custom fields agree in all that is fetched;
* `render_congr`: records that agree in everything that is read are rendered by the same
  work;
* `related_discloses_custom_fields`: the two fillings of a list.
-/

namespace MailMerge.Filling

open Session Template Work

/-- Two records of the same entity and identifier that have the same values in the fields
that are visible. -/
structure AgreeOn (visible : Text → Bool) (q r : Record) : Prop where
  entity : q.entity = r.entity
  id : q.id = r.id
  fields : ∀ field, visible field = true → q.get? field = r.get? field

/-- Two answers to a query that cannot be told apart by the visible fields: the same
failure, or records that agree in pairs, with the columns that were asked for. -/
inductive AnswersAgree (visible : Text → Bool) (query : Query) :
    Except StoreError (List Record) → Except StoreError (List Record) → Prop
  | failure
      (e : StoreError) :
      AnswersAgree visible query (.error e) (.error e)
  | records
      (xs ys : List Record)
      (h : List.Forall₂ (AgreeOn visible) xs ys) :
      AnswersAgree visible query (.ok (xs.map fun r => r.project query.columns))
        (.ok (ys.map fun r => r.project query.columns))

section Records

variable {q r : Record}

/-- Records with the same custom fields agree in every field once they are cut down to
columns that are custom. -/
theorem agreeOn_project
    (h : AgreeOn isCustom q r)
    {columns : List Text}
    (hcolumns : ∀ c ∈ columns, isCustom c = true) :
    AgreeOn (fun _ => true) (q.project (.only columns)) (r.project (.only columns)) where
  entity := h.entity
  id := h.id
  fields := by
    intro field _
    rw [Record.get?_project, Record.get?_project]
    split
    · next hasked => exact h.fields field (hcolumns field (by simpa [Columns.asks] using hasked))
    · rfl

/-- Records that agree in every field are rendered by the same work. -/
theorem render_congr
    (h : AgreeOn (fun _ => true) q r)
    (setup : Setup)
    (list : Text → Text → List Text → Work StoreError Text)
    (directive : Directive) :
    render setup list q directive = render setup list r directive := by
  have hget : ∀ field, q.get? field = r.get? field := fun field => h.fields field rfl
  cases directive with
  | referenceLink field text =>
      simp only [render, Record.reference?, hget]
  | recordLink text =>
      simp only [render, h.entity, h.id]
  | related entity key parts =>
      rfl
  | malformedRelated =>
      rfl
  | field path =>
      simp only [render]
      rw [resolve_congr h.entity (hget _)]

end Records

section Items

variable {setup : Setup} {other : Source}
variable (hretrieve : setup.source.retrieve = other.retrieve)
variable (hdescribe : setup.source.describe = other.describe)
include hretrieve hdescribe

/-- An item is filled by the same work for records that agree in all that was fetched. -/
theorem expandAt_itemTemplate_congr
    {parts : List Text}
    (hparts : ∀ part ∈ parts, '-' ∉ part)
    (depth : Nat)
    {q r : Record}
    (h : AgreeOn (fun _ => true) q r) :
    expandAt setup depth q (itemTemplate parts) =
      expandAt (setup.over other) depth r (itemTemplate parts) := by
  -- no item asks for a list, so nothing is searched for
  rw [expandAt_itemTemplate setup hparts, expandAt_itemTemplate (setup.over other) hparts]
  apply fillAll_congr
  intro p _
  rw [render_congr h]
  exact (fieldwise_eq hretrieve hdescribe).render r fun _ _ _ _ => rfl

theorem mapM_itemTemplate_congr
    {parts : List Text}
    (hparts : ∀ part ∈ parts, '-' ∉ part)
    (depth : Nat)
    {xs ys : List Record}
    (h : List.Forall₂ (AgreeOn isCustom) xs ys) :
    (xs.map fun r => r.project (.only (columnsOf parts))).mapM
        (fun r => expandAt setup depth r (itemTemplate parts)) =
      (ys.map fun r => r.project (.only (columnsOf parts))).mapM
        (fun r => expandAt (setup.over other) depth r (itemTemplate parts)) := by
  induction h with
  | nil =>
      simp only [List.map_nil, List.mapM_nil]
  | cons hhead _ ih =>
      have hcustom : ∀ c ∈ columnsOf parts, isCustom c = true :=
        fun c hc => isCustom_of_mem_columnsOf hc
      have hfetched := agreeOn_project hhead hcustom
      rw [List.map_cons, List.map_cons, List.mapM_cons, List.mapM_cons, ih,
        expandAt_itemTemplate_congr hretrieve hdescribe hparts depth hfetched]

/-- The query is the same for both sources, and so is all that is made of the answers. -/
theorem perform_relatedList_congr
    {parent : Record}
    {s : Session}
    {entity key : Text}
    {parts : List Text}
    (hparts : ∀ part ∈ parts, '-' ∉ part)
    (depth : Nat)
    (hsearch :
      let query := queryUnder entity key parent.id (columnsOf parts)
        (s.overrideSeen (overrideName entity key))
      AnswersAgree isCustom query (setup.source.search query) (other.search query)) :
    (relatedList setup (fun r u => expandAt setup depth r u) parent entity key parts).perform s =
      (relatedList (setup.over other) (fun r u => expandAt (setup.over other) depth r u) parent
        entity key parts).perform s := by
  have hquery := perform_build_fst (ε := StoreError) entity key parent.id (columnsOf parts) s
  dsimp only at hsearch
  unfold relatedList
  rw [perform_bind, perform_bind]
  rcases hbuild : (build entity key parent.id (columnsOf parts)).perform s with ⟨e | query, s'⟩
  · rfl
  · rw [hbuild] at hquery
    have hcolumns := columns_queryUnder entity key parent.id (columnsOf parts)
      (s.overrideSeen (overrideName entity key))
    rw [← Except.ok.inj hquery] at hsearch hcolumns
    have hover : (setup.over other).source.search query = other.search query := rfl
    simp only [perform_bind, perform_search, hover]
    generalize setup.source.search query = found at hsearch
    generalize other.search query = found' at hsearch
    cases hsearch with
    | failure e =>
        rfl
    | records xs ys h =>
        simp only [hcolumns, mapM_itemTemplate_congr hretrieve hdescribe hparts depth h]

end Items

/-- A list is filled alike from two sources that give the same records and schemas and
whose answers to its query agree in the custom fields: with the same outcome, the same
calls and the same session after it, in every session, whatever overrides that has. -/
theorem related_discloses_custom_fields
    (setup : Setup)
    (other : Source)
    (depth : Nat)
    (parent : Record)
    (s : Session)
    (t entity key : Text)
    (parts : List Text)
    (hparse : Directive.parse t = .related entity key parts)
    (hretrieve : setup.source.retrieve = other.retrieve)
    (hdescribe : setup.source.describe = other.describe)
    (hsearch :
      let query := queryUnder entity key parent.id (columnsOf parts)
        (s.overrideSeen (overrideName entity key))
      AnswersAgree isCustom query (setup.source.search query) (other.search query)) :
    (renderAt setup depth parent (Directive.parse t)).perform s =
      (renderAt (setup.over other) depth parent (Directive.parse t)).perform s := by
  rw [hparse]
  cases depth with
  | zero =>
      rfl
  | succ depth =>
      have hlist := perform_relatedList_congr hretrieve hdescribe
        (no_hyphen_of_parse_eq_related hparse) depth hsearch
      show (some <$> relatedList setup (fun r u => expandAt setup depth r u) parent entity key
          parts).perform s =
        (some <$> relatedList (setup.over other) (fun r u => expandAt (setup.over other) depth r u)
          parent entity key parts).perform s
      rw [perform_map, perform_map, hlist]

/-- A task of the first deal with a note in a field that is not custom. -/
def notedTask (note : String) : Record :=
  ⟨"task".toList, ⟨2⟩, Dict.set
    (Keyed.ofList [("deal_id".toList, .id ⟨1⟩), ("ym_subject".toList, .text "Call".toList)])
    "note".toList (.text note.toList)⟩

theorem agreeOn_notedTask
    (note note' : String) :
    AgreeOn isCustom (notedTask note) (notedTask note') where
  entity := rfl
  id := rfl
  fields := by
    intro field hcustom
    have hother : "note".toList ≠ field := by
      rintro rfl
      exact absurd hcustom (by decide)
    simp only [Record.get?, notedTask, Dict.get?_set, if_neg hother]

/-- A store with one such task. -/
def notedStore (note : String) : Store :=
  .ofSeed ⟨[notedTask note], []⟩

/-- A session in which all tasks are listed for a deal, and all their columns are asked for. -/
def openSession : Session :=
  { Session.fresh with
    overrides := Session.fresh.overrides.set "task-deal_id".toList ⟨"task".toList, .all, []⟩ }

/-- The note of a task does not show, though the list and the override both ask for it. -/
theorem related_discloses_no_note :
    let source := (notedStore "first").toSource
    let other : Source := { source with search := (notedStore "second").toSource.search }
    let directive := Directive.parse "RELATED_task-deal_id-ym_subject-note".toList
    (renderAt (setupOver source) 1 ownerRecord directive).perform openSession =
      (renderAt ((setupOver source).over other) 1 ownerRecord directive).perform openSession ∧
    ((renderAt (setupOver source) 1 ownerRecord directive).perform openSession).1 =
      .ok (some "<ul><li>Call</li></ul>".toList) := by
  intro source other directive
  have hparse : directive = .related "task".toList "deal_id".toList
      ["ym_subject".toList, "note".toList] := by
    decide +kernel
  let query : Query := ⟨"task".toList, .only ["ym_subject".toList], []⟩
  have hfirst : (notedStore "first").records.members.filter query.accepts =
      [notedTask "first"] := by
    decide +kernel
  have hsecond : (notedStore "second").records.members.filter query.accepts =
      [notedTask "second"] := by
    decide +kernel
  have hquery : queryUnder "task".toList "deal_id".toList ownerRecord.id
      (columnsOf ["ym_subject".toList, "note".toList])
      (openSession.overrideSeen (overrideName "task".toList "deal_id".toList)) = query := by
    decide +kernel
  have hsearch : AnswersAgree isCustom query (source.search query) (other.search query) := by
    show AnswersAgree isCustom query
      (.ok (((notedStore "first").records.members.filter query.accepts).map _))
      (.ok (((notedStore "second").records.members.filter query.accepts).map _))
    rw [hfirst, hsecond]
    exact .records _ _ (.cons (agreeOn_notedTask "first" "second") .nil)
  rw [← hquery] at hsearch
  exact ⟨related_discloses_custom_fields (setupOver source) other 1 ownerRecord openSession
    "RELATED_task-deal_id-ym_subject-note".toList _ _ _ hparse rfl rfl hsearch, by decide +kernel⟩

end MailMerge.Filling
