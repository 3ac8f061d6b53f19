import MailMerge.Proofs.Items
import MailMerge.Proofs.Selection

/-!
# The columns of a list

A list fetches one column for each part that starts like a custom field, up to its first
point. An item is filled from what was fetched, and what a part asks for is read once
more by then: without the blanks around it. A path reads of a record its first field
only, so a custom field shows what it shows of the complete record when its column was
fetched, and nothing when it was not.

The column is fetched when some part is written with it. With a blank in front of it, a
part is not taken for a custom field at all, and with a blank behind it a column is
fetched that has the blank in its name.

Main facts:

* `directiveOf_wrap_of_custom`: a custom part is read as a path, without its blanks;
* `rendering_custom_part`: what a custom part shows of the record that was fetched;
* `blank_hides_custom_fields`: blanks around two parts that show nothing.
-/

namespace MailMerge

namespace Filling

open Session Template Work

section Parts

variable {p entity key part : Text} {parts : List Text}

theorem parse_of_isCustom
    {t : Text}
    (h : isCustom t = true) :
    Directive.parse t = .field t := by
  rcases isCustom_iff.1 h with ⟨rest, rfl⟩ | ⟨rest, rfl⟩
  · exact Directive.parse_eq_field rfl rfl rfl
  · exact Directive.parse_eq_field rfl rfl rfl

/-- A custom part is read as a path, without the blanks around it. -/
theorem directiveOf_wrap_of_custom
    {text : Text}
    (hp : p ∈ scan text)
    (h : directiveOf p = .related entity key parts)
    (hpart : part ∈ parts)
    (hcustom : isCustom (Text.trim part) = true) :
    directiveOf (wrap part) = .field (Text.trim part) := by
  have hinner : ∀ c ∈ part, isInner c = true := fun c hc => isInner_of_mem_part hp h hpart hc
  have htags : TagFree part := (tagFree_directiveText p).sublist (sublist_of_mem_part h hpart)
  unfold directiveOf
  rw [directiveText_wrap hinner, stripTags_of_tagFree htags, parse_of_isCustom hcustom]

end Parts

section Projections

variable {source : Source} {offsetHours : Int} {columns : List Text} {path : Text}

/-- A path whose first field was fetched has the text that it has for the complete record,
and any other path has none. -/
theorem resolve_project
    (record : Record) :
    resolve source offsetHours path (record.project (.only columns)) =
      if Text.before '.' path ∈ columns then resolve source offsetHours path record
      else pure [] := by
  have hget := Record.get?_project record (.only columns) (Text.before '.' path)
  split
  · next hfetched =>
    have hentity : (record.project (.only columns)).entity = record.entity := rfl
    apply resolve_congr hentity
    simpa [Columns.asks, hfetched] using hget
  · next hmissing =>
    apply resolve_missing_field
    simpa [Columns.asks, hmissing] using hget

end Projections

theorem columns_queryUnder
    (entity key : Text)
    (parent : Uuid)
    (columns : List Text)
    (override : Option (Text × List Condition)) :
    (queryUnder entity key parent columns override).columns = .only columns := by
  unfold queryUnder
  split <;> rfl

theorem rendering_of_field
    {setup : Setup} {depth : Nat} {record : Record} {s : Session} {p path : Text}
    (h : directiveOf p = .field path) :
    rendering setup depth record s p =
      ((some <$> resolve setup.source setup.offsetHours path record).perform s).1 := by
  unfold rendering
  rw [h]
  cases depth <;> rfl

/-- A list is filled from what the store holds of the records that its query asks for,
cut down to the columns of its parts. A part that is custom without its blanks shows of
each of them what its path shows of the complete record, when the first field of the path
was fetched, and nothing otherwise. The field was fetched when a part is written with it,
blanks included, that starts like a custom field. -/
theorem rendering_custom_part
    (setup : Setup)
    (store : Store)
    (hsource : setup.source = store.toSource)
    (depth : Nat)
    (s : Session)
    (parent : Record)
    (text p entity key : Text)
    (parts : List Text)
    (hp : p ∈ scan text)
    (hdirective : directiveOf p = .related entity key parts) :
    let query := queryUnder entity key parent.id (columnsOf parts)
      (s.overrideSeen (overrideName entity key))
    setup.source.search query = .ok ((store.records.members.filter query.accepts).map fun r =>
      r.project (.only (columnsOf parts))) ∧
    ∀ r, ∀ part ∈ parts, isCustom (Text.trim part) = true →
      (∃ shown,
        ((resolve setup.source setup.offsetHours (Text.trim part) r).perform s).1 = .ok shown ∧
        rendering setup depth (r.project (.only (columnsOf parts))) s (wrap part) =
          .ok (some (if Text.before '.' (Text.trim part) ∈ columnsOf parts then shown else []))) ∧
      (Text.before '.' (Text.trim part) ∈ columnsOf parts ↔
        ∃ q ∈ parts, isCustom q = true ∧ Text.before '.' q = Text.before '.' (Text.trim part)) := by
  intro query
  constructor
  · rw [hsource]
    show Except.ok ((store.records.members.filter query.accepts).map fun r =>
      r.project query.columns) = _
    rw [columns_queryUnder]
  · intro r part hpart hcustom
    refine ⟨?_, mem_columnsOf⟩
    obtain ⟨shown, hshown⟩ := (inherited_succeeds_of_source hsource).resolve setup.offsetHours
      (Text.trim part) r s
    refine ⟨shown, hshown, ?_⟩
    rw [rendering_of_field (directiveOf_wrap_of_custom hp hdirective hpart hcustom),
      resolve_project, ← bind_pure_comp, bind_eq_ok_iff]
    split
    · exact ⟨shown, hshown, rfl⟩
    · exact ⟨[], rfl, rfl⟩

/-- A list of tasks that is written with blanks and shows the subject twice. -/
def spacedTaskList : Text :=
  "%;RELATED_task-deal_id-ym_subject - ym_owner.ym_name-ym_subject;%".toList

/-- A task of the first deal. -/
def callTask : Record :=
  taskRecord 2 (.id ⟨1⟩) "Call"

/-- The blank behind the first part does no harm, since the last part is written without. -/
theorem rendering_spacedTaskList :
    rendering (setupOver (Store.ofSeed taskSeed).toSource) 0
        (callTask.project (.only (columnsOf ["ym_subject ".toList, " ym_owner.ym_name".toList,
          "ym_subject".toList])))
        .fresh (wrap "ym_subject ".toList) =
      .ok (some "Call".toList) := by
  let store := Store.ofSeed taskSeed
  let parts := ["ym_subject ".toList, " ym_owner.ym_name".toList, "ym_subject".toList]
  have hp : spacedTaskList ∈ scan spacedTaskList := by decide +kernel
  have hdirective : directiveOf spacedTaskList =
      .related "task".toList "deal_id".toList parts := by
    decide +kernel
  obtain ⟨-, hparts⟩ := rendering_custom_part (setupOver store.toSource) store rfl 0 .fresh
    ownerRecord spacedTaskList spacedTaskList _ _ parts hp hdirective
  obtain ⟨⟨shown, hshown, hrendering⟩, -⟩ :=
    hparts callTask "ym_subject ".toList (by decide +kernel) (by decide +kernel)
  have hsubject : ((resolve store.toSource 0 (Text.trim "ym_subject ".toList) callTask).perform
      .fresh).1 = .ok "Call".toList := by
    decide +kernel
  have hfetched : Text.before '.' (Text.trim "ym_subject ".toList) ∈ columnsOf parts := by
    decide +kernel
  obtain rfl := Except.ok.inj (hshown.symm.trans hsubject)
  rw [if_pos hfetched] at hrendering
  exact hrendering

/-- With a blank behind one part and one in front of the other, the subject and the room of
a task are asked for and there, and neither is fetched. -/
theorem blank_hides_custom_fields :
    let p := "%;RELATED_task-deal_id-ym_subject - ym_room;%".toList
    let parts := ["ym_subject ".toList, " ym_room".toList]
    let task : Record := ⟨"task".toList, ⟨2⟩, Keyed.ofList
      [("deal_id".toList, .id ⟨1⟩), ("ym_subject".toList, .text "Call".toList),
        ("ym_room".toList, .text "12".toList)]⟩
    let setup := setupOver (Store.ofSeed ⟨[task], []⟩).toSource
    let fetched := task.project (.only (columnsOf parts))
    directiveOf p = .related "task".toList "deal_id".toList parts ∧
    columnsOf parts = ["ym_subject ".toList] ∧
    parts.map Text.trim = ["ym_subject".toList, "ym_room".toList] ∧
    ((resolve setup.source 0 "ym_subject".toList task).perform .fresh).1 = .ok "Call".toList ∧
    ((resolve setup.source 0 "ym_room".toList task).perform .fresh).1 = .ok "12".toList ∧
    (∀ part ∈ parts, rendering setup 0 fetched .fresh (wrap part) = .ok (some [])) ∧
    rendering setup 1 ownerRecord .fresh p = .ok (some "<ul><li></li></ul>".toList) := by
  decide +kernel

end Filling

end MailMerge
