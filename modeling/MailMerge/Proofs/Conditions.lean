import MailMerge.Proofs.Storage
import Mathlib.Data.List.Basic

/-!
# Conditions of queries

The conditions of a query are joined by "and", and each of them looks at the complete
record, whatever columns are asked for. So a condition more can only leave out some of the
records that were found, and neither the order of the conditions nor their repetition
matters.

A condition and its opposite leave out what the other one keeps. This is so for absent
fields too: a field that holds nothing is different from every value, and there is no
third case. So a query falls apart into two, in the order of the records.

All of this holds of a store, and of a table without an order whose rows are visited in
another order for each query.

Main facts:

* `search_append`: conditions that are added are asked of the complete records;
* `search_opposite`: what a condition and its opposite find;
* `SearchedBy.eq_search`: stores and tables find the same;
* `search_by_conditions`: the laws of conditions.
-/

namespace MailMerge

/-- Two lists into which a list falls apart: each of its members goes to exactly one of
them, and both are in its order. -/
structure SplitsInto {α : Type} (whole left right : List α) : Prop where
  left_in_order : left.Sublist whole
  right_in_order : right.Sublist whole
  all_of_them : (left ++ right).Perm whole
  none_twice : left.Disjoint right

theorem splitsInto_filter
    {α : Type}
    (p : α → Bool)
    (xs : List α) :
    SplitsInto xs (xs.filter p) (xs.filter fun x => !p x) where
  left_in_order := List.filter_sublist
  right_in_order := List.filter_sublist
  all_of_them := List.filter_append_perm p xs
  none_twice := by
    intro x hleft hright
    have hp := (List.mem_filter.1 hleft).2
    have hno := (List.mem_filter.1 hright).2
    simp [hp] at hno

/-- A condition that holds of a record exactly when another one does not. -/
def Condition.Opposite (c d : Condition) : Prop :=
  ∀ r, d.holds r = !c.holds r

theorem Condition.opposite_equal
    (field : Text)
    (value : Value) :
    Opposite ⟨field, .equal, value⟩ ⟨field, .notEqual, value⟩ :=
  Condition.holds_notEqual field value

theorem Condition.opposite_null
    (field : Text)
    (value value' : Value) :
    Opposite ⟨field, .null, value⟩ ⟨field, .notNull, value'⟩ := by
  intro r
  unfold Condition.holds
  rcases r.get? field with _ | v <;> rfl

namespace Store

variable (store : Store) (entity : Text) (columns : Columns)

/-- Whether the complete record behind one that was found satisfies a condition. -/
def meets (r : Record) (c : Condition) : Bool :=
  (store.records.find? r.key).any c.holds

theorem meets_project
    {r : Record}
    (hr : r ∈ store.records.members)
    (c : Condition) :
    store.meets (r.project columns) c = c.holds r := by
  have hkey : (r.project columns).key = r.key := rfl
  unfold meets
  rw [hkey, Keyed.find?_key_of_mem hr]
  rfl

/-- Conditions that are added leave those records of what was found whose complete records
satisfy them. -/
theorem search_append
    (cs ds : List Condition) :
    store.search ⟨entity, columns, cs ++ ds⟩ =
      (store.search ⟨entity, columns, cs⟩).filter fun r => ds.all (store.meets r) := by
  unfold search
  rw [List.filter_map, List.filter_filter]
  congr 1
  apply List.filter_congr
  intro r hr
  have hmeets : ds.all (store.meets (r.project columns)) = ds.all fun c => c.holds r := by
    congr 1
    funext c
    exact store.meets_project columns hr c
  have hadded : Query.accepts ⟨entity, columns, cs ++ ds⟩ r =
      (Query.accepts ⟨entity, columns, cs⟩ r && ds.all fun c => c.holds r) := by
    unfold Query.accepts
    rw [List.all_append, Bool.and_assoc]
  rw [hadded, Bool.and_comm]
  exact congrArg (· && _) hmeets.symm

/-- Only which conditions there are matters. -/
theorem search_congr
    {cs ds : List Condition}
    (h : ∀ c, c ∈ cs ↔ c ∈ ds) :
    store.search ⟨entity, columns, cs⟩ = store.search ⟨entity, columns, ds⟩ := by
  have hall : ∀ r, (cs.all fun c => c.holds r) = ds.all fun c => c.holds r := by
    intro r
    rw [Bool.eq_iff_iff, List.all_eq_true, List.all_eq_true]
    exact forall_congr' fun c => imp_congr_left (h c)
  have haccepts : Query.accepts ⟨entity, columns, cs⟩ = Query.accepts ⟨entity, columns, ds⟩ := by
    funext r
    unfold Query.accepts
    rw [hall r]
  unfold search
  rw [haccepts]

/-- More conditions find fewer records, in the same order. -/
theorem search_sublist
    {cs ds : List Condition}
    (h : cs ⊆ ds) :
    (store.search ⟨entity, columns, ds⟩).Sublist (store.search ⟨entity, columns, cs⟩) := by
  have hsame : ∀ c, c ∈ ds ↔ c ∈ cs ++ ds := by
    intro c
    rw [List.mem_append]
    exact ⟨Or.inr, fun hc => hc.elim (fun hcs => h hcs) id⟩
  rw [store.search_congr entity columns hsame, search_append]
  exact List.filter_sublist

/-- What a query finds falls apart by any condition and its opposite. -/
theorem search_opposite
    {c d : Condition}
    (h : c.Opposite d)
    (cs : List Condition) :
    SplitsInto (store.search ⟨entity, columns, cs⟩)
      (store.search ⟨entity, columns, cs ++ [c]⟩)
      (store.search ⟨entity, columns, cs ++ [d]⟩) := by
  rw [search_append, search_append]
  have hopposite : ∀ r ∈ store.search ⟨entity, columns, cs⟩,
      [d].all (store.meets r) = !([c].all (store.meets r)) := by
    intro r hr
    obtain ⟨q, hq, rfl⟩ := List.mem_map.1 hr
    have hmember := (List.mem_filter.1 hq).1
    simp only [List.all_cons, List.all_nil, Bool.and_true]
    rw [store.meets_project columns hmember, store.meets_project columns hmember, h q]
  rw [List.filter_congr hopposite]
  exact splitsInto_filter _ _

/-- The ways to search a store in memory: in the order of its records, or as a table that
was filled with the same records, with the rows visited in any order, and in another one
for each query. -/
inductive SearchedBy : (Query → List Record) → Prop where
  | inOrder : SearchedBy store.search
  | unordered {rs : List Record} {visit : Query → List Table.Row}
      (hrecords : store.records = Keyed.ofList rs)
      (hvisit : ∀ query, (visit query).Perm (Table.empty.insertAll rs).rows.members) :
      SearchedBy fun query => Table.search (visit query) query

variable {store}

theorem SearchedBy.eq_search
    {search : Query → List Record}
    (h : store.SearchedBy search) :
    search = store.search := by
  cases h with
  | inOrder => rfl
  | unordered hrecords hvisit =>
      funext query
      rw [Table.search_eq query (hvisit query), ← Keyed.members_ofList, ← hrecords]
      rfl

end Store

/-- Whatever a store holds and however it is searched: when the conditions of a query are
among those of another one, it finds all that the other one finds and in the same order;
two queries with the same conditions, in any order and with any repetitions, find the same;
and what a query finds falls apart into what it finds with an equality added and what it
finds with the inequality added, and likewise into absent and present fields. -/
theorem search_by_conditions
    (store : Store)
    (search : Query → List Record)
    (hsearch : store.SearchedBy search)
    (entity : Text)
    (columns : Columns) :
    (∀ cs ds : List Condition, cs ⊆ ds →
      (search ⟨entity, columns, ds⟩).Sublist (search ⟨entity, columns, cs⟩)) ∧
    (∀ cs ds : List Condition, (∀ c, c ∈ cs ↔ c ∈ ds) →
      search ⟨entity, columns, cs⟩ = search ⟨entity, columns, ds⟩) ∧
    (∀ (cs : List Condition) (field : Text) (value : Value),
      SplitsInto (search ⟨entity, columns, cs⟩)
        (search ⟨entity, columns, cs ++ [⟨field, .equal, value⟩]⟩)
        (search ⟨entity, columns, cs ++ [⟨field, .notEqual, value⟩]⟩)) ∧
    (∀ (cs : List Condition) (field : Text) (value value' : Value),
      SplitsInto (search ⟨entity, columns, cs⟩)
        (search ⟨entity, columns, cs ++ [⟨field, .null, value⟩]⟩)
        (search ⟨entity, columns, cs ++ [⟨field, .notNull, value'⟩]⟩)) := by
  rw [hsearch.eq_search]
  refine ⟨?_, ?_, ?_, ?_⟩
  · exact fun cs ds h => store.search_sublist entity columns h
  · exact fun cs ds h => store.search_congr entity columns h
  · intro cs field value
    exact store.search_opposite entity columns (Condition.opposite_equal field value) cs
  · intro cs field value value'
    exact store.search_opposite entity columns (Condition.opposite_null field value value') cs

/-- Tasks that belong to the first deal, by reference and by identifier, to another one, and
to none, said and unsaid. -/
def ownedTasks : List Record :=
  [taskRecord 2 (.reference ⟨"deal".toList, ⟨1⟩, none⟩) "Call", taskRecord 3 .null "Draft",
    taskRecord 4 (.id ⟨9⟩) "Demo", ⟨"task".toList, ⟨5⟩, .empty⟩, taskRecord 6 (.id ⟨1⟩) "Email"]

/-- The rows of these tasks, visited backwards for a query with a condition. -/
def visitOwnedTasks (query : Query) : List Table.Row :=
  let rows := (Table.empty.insertAll ownedTasks).rows.members
  if query.conditions = [] then rows else rows.reverse

/-- A task of no deal is not a task of the first deal. -/
theorem search_by_owner :
    let store := Store.ofSeed ⟨ownedTasks, []⟩
    let search := fun query => Table.search (visitOwnedTasks query) query
    let task := "task".toList
    let first : Condition := ⟨"deal_id".toList, .equal, .id ⟨1⟩⟩
    let other : Condition := ⟨"deal_id".toList, .notEqual, .id ⟨1⟩⟩
    let owned : Condition := ⟨"deal_id".toList, .notNull, .null⟩
    store.SearchedBy search ∧
    [owned] ⊆ [first, owned] ∧
    (search ⟨task, .all, [first, owned]⟩).Sublist (search ⟨task, .all, [owned]⟩) ∧
    SplitsInto (search ⟨task, .all, []⟩) (search ⟨task, .all, [first]⟩)
      (search ⟨task, .all, [other]⟩) ∧
    (search ⟨task, .all, [first]⟩).map Record.id = [⟨2⟩, ⟨6⟩] ∧
    (search ⟨task, .all, [other]⟩).map Record.id = [⟨3⟩, ⟨4⟩, ⟨5⟩] := by
  intro store search task first other owned
  have hvisit : ∀ query,
      (visitOwnedTasks query).Perm (Table.empty.insertAll ownedTasks).rows.members := by
    intro query
    unfold visitOwnedTasks
    dsimp only
    split
    · exact .refl _
    · exact List.reverse_perm _
  have hsearch : store.SearchedBy search := .unordered rfl hvisit
  have hmore : [owned] ⊆ [first, owned] := by simp
  obtain ⟨hsub, -, hparts, -⟩ := search_by_conditions store search hsearch task .all
  refine ⟨hsearch, hmore, hsub _ _ hmore, hparts [] "deal_id".toList (.id ⟨1⟩), ?_, ?_⟩
  · rw [hsearch.eq_search]
    decide +kernel
  · rw [hsearch.eq_search]
    decide +kernel

end MailMerge
