import MailMerge.Proofs.Rendering
import MailMerge.Proofs.Storage
import MailMerge.Proofs.Success

/-!
# The records in a list

A list of related records shows the children of the record at hand: the records of
the entity whose key field points at it, by a reference or by its identifier. They
stand in the order in which they first came into the store, each of them once, and
each item is filled for the child with the columns that the list asks for.

Main facts:

* `holds_equal_id`: the condition of the usual query, for values of any kind;
* `search_usualQuery`: the usual query finds the children;
* `mem_children_iff`: the children are records of the store;
* `rendering_eq_list_of_children`: what a list is rendered as.
-/

namespace MailMerge

theorem Record.project_all
    (r : Record) :
    r.project .all = r := by
  simp [project, Keyed.filter, Columns.asks]

theorem Keyed.mem_latest_iff
    {α κ : Type} [DecidableEq κ]
    {key : α → κ}
    {xs : List α}
    {x : α} :
    x ∈ latest key xs ↔ last? key xs (key x) = some x := by
  rw [← members_ofList, ← find?_ofList]
  exact ⟨find?_key_of_mem, List.mem_of_find?_eq_some⟩

namespace Filling

open Session Work

/-- Whether a field holds a reference to an identifier, or the identifier itself. -/
def pointsAt (field : Text) (id : Uuid) (r : Record) : Bool :=
  match r.get? field with
  | some (.reference target) => target.id = id
  | some (.id u) => u = id
  | _ => false

/-- The records of an entity whose key field points at a parent, among those that came
last under their keys. -/
def children (entity key : Text) (parent : Uuid) (rs : List Record) : List Record :=
  (Keyed.latest Record.key rs).filter fun r => r.entity = entity ∧ pointsAt key parent r = true

theorem holds_equal_id
    (field : Text)
    (id : Uuid)
    (r : Record) :
    Condition.holds ⟨field, .equal, .id id⟩ r = pointsAt field id r := by
  unfold Condition.holds pointsAt
  rcases r.get? field with _ | v
  · rfl
  · cases v <;> simp [Value.agrees, Value.same]

section Stores

variable (seed : Seed) (changes : List Store.Change)
variable (entity key : Text) (parent : Uuid)

theorem search_usualQuery
    (columns : List Text) :
    (Store.afterAll changes (.ofSeed seed)).search (usualQuery entity key parent columns) =
      (children entity key parent (Store.history seed changes)).map fun r =>
        r.project (.only columns) := by
  have haccepts : ∀ r ∈ Keyed.latest Record.key (Store.history seed changes),
      (usualQuery entity key parent columns).accepts r =
        decide (r.entity = entity ∧ pointsAt key parent r = true) := by
    intro r _
    rw [Bool.eq_iff_iff]
    simp only [Query.accepts, usualQuery, List.all_cons, List.all_nil, holds_equal_id,
      Bool.and_true, Bool.and_eq_true, decide_eq_true_iff]
    exact and_congr_left fun _ => decide_eq_true_iff
  rw [Store.search_afterAll, List.filter_congr haccepts]
  rfl

/-- The children are what the store retrieves under their keys. -/
theorem mem_children_iff
    (r : Record) :
    r ∈ children entity key parent (Store.history seed changes) ↔
      (Store.afterAll changes (.ofSeed seed)).retrieve r.entity r.id .all = .ok r ∧
        r.entity = entity ∧ pointsAt key parent r = true := by
  unfold children
  rw [List.mem_filter, Keyed.mem_latest_iff, Store.retrieve_afterAll, decide_eq_true_iff]
  refine and_congr_left fun _ => ?_
  unfold Record.key
  rcases Keyed.last? _ (Store.history seed changes) (r.entity, r.id) with _ | q
  · simp
  · simp [Record.project_all]

theorem nodup_children
    (rs : List Record) :
    ((children entity key parent rs).map Record.key).Nodup := by
  have hall := (Keyed.ofList rs : Keyed Record.key).nodup
  rw [Keyed.members_ofList] at hall
  exact hall.sublist (List.filter_sublist.map Record.key)

end Stores

section Lists

variable {setup : Setup} {store : Store} {s : Session}

/-- Without an override a list is filled for what the usual query finds, one item for each
record. -/
theorem perform_relatedList_fst
    {depth : Nat}
    {entity key : Text}
    {parts : List Text}
    (hsource : setup.source = store.toSource)
    (parent : Record)
    (hoverride : s.overrides.get? (overrideName entity key) = none)
    {item : Record → Text}
    (hitem : ∀ r, ((expandAt setup depth r (itemTemplate parts)).perform s).1 = .ok (item r)) :
    ((relatedList setup (fun r t => expandAt setup depth r t) parent entity key parts).perform
        s).1 =
      .ok (listMarkup
        ((store.search (usualQuery entity key parent.id (columnsOf parts))).map item)) := by
  have hfound : setup.source.search (queryUnder entity key parent.id (columnsOf parts)
      (s.overrideSeen (overrideName entity key))) =
        .ok (store.search (usualQuery entity key parent.id (columnsOf parts))) := by
    unfold overrideSeen
    rw [hsource, hoverride]
    rfl
  have hsteady : ∀ r text, Steady setup.source.describe (expandAt setup depth r text) :=
    (inherited_steady setup.source).expandAt depth
  rw [perform_relatedList_eq_ok_iff hsteady hfound]
  exact ⟨_, List.forall₂_map_right_iff.2 (List.forall₂_same.2 fun r _ => hitem r), rfl⟩

end Lists

/-- Whatever was put into a store, a placeholder that asks for a list without an override
is rendered as the list of the children of the record at hand: the records of the store,
and no others, that belong to the entity and point at it, in the order in which their
keys first came and each of them once. Each item is the text of the wrapped parts, filled
for the child with the columns of the list. -/
theorem rendering_eq_list_of_children
    (seed : Seed)
    (changes : List Store.Change)
    (setup : Setup)
    (hsource : setup.source = (Store.afterAll changes (.ofSeed seed)).toSource)
    (hdepth : 1 ≤ setup.maxDepth)
    (parent : Record)
    (s : Session)
    (placeholder entity key : Text)
    (parts : List Text)
    (hdirective : directiveOf placeholder = .related entity key parts)
    (hoverride : s.overrides.get? (overrideName entity key) = none) :
    let listed := children entity key parent.id (Store.history seed changes)
    (∀ r, r ∈ listed ↔
      (Store.afterAll changes (.ofSeed seed)).retrieve r.entity r.id .all = .ok r ∧
        r.entity = entity ∧ pointsAt key parent.id r = true) ∧
    (listed.map Record.key).Nodup ∧
    ∃ item : Record → Text,
      (∀ r, ((expandAt setup (setup.maxDepth - 1) (r.project (.only (columnsOf parts)))
        (parts.flatMap Template.wrap)).perform s).1 = .ok (item r)) ∧
      rendering setup setup.maxDepth parent s placeholder =
        .ok (some ("<ul>".toList
          ++ (listed.flatMap fun r => "<li>".toList ++ item r ++ "</li>".toList)
          ++ "</ul>".toList)) := by
  intro listed
  refine ⟨mem_children_iff seed changes entity key parent.id, nodup_children entity key _ _, ?_⟩
  obtain ⟨depth, hmax⟩ := Nat.exists_eq_add_of_le' hdepth
  have hsucceeds : ∀ r, ∃ text,
      ((expandAt setup depth r (itemTemplate parts)).perform s).1 = .ok text :=
    fun r => succeeds_expandAt hsource depth r (itemTemplate parts) s
  choose text htext using hsucceeds
  refine ⟨fun r => text (r.project (.only (columnsOf parts))), ?_, ?_⟩
  · intro r
    rw [hmax, Nat.add_sub_cancel]
    exact htext _
  · have hlist := perform_relatedList_fst hsource parent hoverride htext
    unfold rendering renderAt
    rw [hdirective, hmax]
    show ((some <$> relatedList setup (fun r t => expandAt setup depth r t) parent entity key
      parts).perform s).1 = _
    rw [← bind_pure_comp, perform_bind_of_ok hlist, search_usualQuery]
    simp [listMarkup, List.flatMap_map, listed]

/-- The deal that some tasks belong to. -/
def ownerRecord : Record :=
  ⟨"deal".toList, ⟨1⟩, .empty⟩

/-- A list of the subjects of tasks, and of their notes, which are no column of the list. -/
def taskList : Text :=
  "%;RELATED_task-deal_id-ym_subject-note;%".toList

/-- The subjects are shown. The tasks have notes, but none is fetched for the list. -/
theorem rendering_taskList :
    rendering (setupOver (Store.afterAll taskChanges (.ofSeed taskSeed)).toSource) defaultDepth
        ownerRecord .fresh taskList =
      .ok (some "<ul><li>Call back</li><li>Email</li></ul>".toList) := by
  have hdirective : directiveOf taskList =
      .related "task".toList "deal_id".toList ["ym_subject".toList, "note".toList] := by
    decide +kernel
  obtain ⟨-, -, item, hitem, hlist⟩ :=
    rendering_eq_list_of_children taskSeed taskChanges
      (setupOver (Store.afterAll taskChanges (.ofSeed taskSeed)).toSource) rfl (by decide)
      ownerRecord .fresh taskList _ _ _ hdirective rfl
  have hchildren : children "task".toList "deal_id".toList ownerRecord.id
      (Store.history taskSeed taskChanges) =
        [taskRecord 2 (.reference ⟨"deal".toList, ⟨1⟩, none⟩) "Call back",
          taskRecord 3 (.id ⟨1⟩) "Email"] := by
    decide +kernel
  have hfirst : item (taskRecord 2 (.reference ⟨"deal".toList, ⟨1⟩, none⟩) "Call back") =
      "Call back".toList := by
    have h := hitem (taskRecord 2 (.reference ⟨"deal".toList, ⟨1⟩, none⟩) "Call back")
    exact (Except.ok.inj (Eq.trans (by decide +kernel) h)).symm
  have hsecond : item (taskRecord 3 (.id ⟨1⟩) "Email") = "Email".toList := by
    have h := hitem (taskRecord 3 (.id ⟨1⟩) "Email")
    exact (Except.ok.inj (Eq.trans (by decide +kernel) h)).symm
  rw [hchildren] at hlist
  simp only [List.flatMap_cons, List.flatMap_nil, hfirst, hsecond] at hlist
  exact hlist

end Filling

end MailMerge
