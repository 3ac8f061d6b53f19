import MailMerge.Store.Table
import Mathlib.Data.List.Induction
import Mathlib.Data.List.Nodup
import Mathlib.Data.List.Perm.Basic

/-!
# What a store holds

What a store answers is settled by what was put into it. Its records are listed by
key, in the order in which the keys first came, and under each key stands the record
that came last. So a record that is stored again is replaced and keeps its place.

The same is true of a table without an order that numbers its rows: however its rows
are visited, sorting by number lists them as the store does. The invariant is that
the rows, in the order in which their keys first came, have rising numbers below the
next one.

Main facts:

* `Keyed.members_ofList`: the members of a list with one member per key that was
  filled from left to right;
* `Table.numbered_insert`, `Table.records_insert`: one step of a table;
* `Table.search_eq`: sorting by number undoes the order of the visit;
* `storage_eq_latest`: searches, retrieves and counts after any history.
-/

namespace MailMerge

namespace Keyed

variable {α κ : Type} [DecidableEq κ] {key : α → κ}

/-- The keys of some members, in the order in which they first come. -/
def firstKeys (key : α → κ) (xs : List α) : List κ :=
  (xs.map key).eraseDups

/-- What comes last under a key. -/
def last? (key : α → κ) (xs : List α) (k : κ) : Option α :=
  xs.findRev? fun x => key x = k

/-- Under each key, in the order in which the keys first come, what comes last. -/
def latest (key : α → κ) (xs : List α) : List α :=
  (firstKeys key xs).filterMap (last? key xs)

theorem last?_eq_none_iff
    {xs : List α}
    {k : κ} :
    last? key xs k = none ↔ ∀ x ∈ xs, key x ≠ k := by
  simp [last?]

theorem find?_key_of_mem
    {s : Keyed key}
    {x : α}
    (h : x ∈ s.members) :
    s.find? (key x) = some x :=
  s.find?_eq_some_of_key h (by simp) (by simp)

/-- The members are told by their keys and by what is found under each. -/
theorem members_eq_filterMap
    (s : Keyed key) :
    s.members = (s.members.map key).filterMap s.find? := by
  rw [List.filterMap_map]
  have hfind : ∀ x ∈ s.members, (s.find? ∘ key) x = some x :=
    fun x hx => find?_key_of_mem hx
  rw [List.filterMap_congr hfind, List.filterMap_some]

theorem ofList_concat
    (xs : List α)
    (x : α) :
    (ofList (xs ++ [x]) : Keyed key) = (ofList xs).insert x := by
  unfold ofList insertAll
  rw [List.foldl_append]
  rfl

theorem eraseDups_concat
    (ks : List κ)
    (k : κ) :
    (ks ++ [k]).eraseDups =
      if k ∈ ks then ks.eraseDups else ks.eraseDups ++ [k] := by
  rw [List.eraseDups_append]
  by_cases h : k ∈ ks
  · simp [List.removeAll, h]
  · simp [List.removeAll, h, List.eraseDups_cons]

/-- The keys stand in the order in which they first came. -/
theorem keys_ofList
    (xs : List α) :
    (ofList xs : Keyed key).members.map key = firstKeys key xs := by
  unfold firstKeys
  induction xs using List.reverseRecOn with
  | nil =>
      rfl
  | append_singleton xs x ih =>
      rw [ofList_concat, keys_insert, ih, List.map_append, List.map_singleton, eraseDups_concat]
      simp only [List.mem_eraseDups]

/-- Under a key stands what came last. -/
theorem find?_ofList
    (xs : List α)
    (k : κ) :
    (ofList xs : Keyed key).find? k = last? key xs k := by
  unfold last?
  induction xs using List.reverseRecOn with
  | nil =>
      rfl
  | append_singleton xs x ih =>
      rw [ofList_concat, find?_insert, ih, List.findRev?_eq_find?_reverse,
        List.findRev?_eq_find?_reverse, List.reverse_append]
      by_cases h : key x = k
      · simp [h]
      · simp [h]

theorem members_ofList
    (xs : List α) :
    (ofList xs : Keyed key).members = latest key xs := by
  have hfind : (ofList xs : Keyed key).find? = last? key xs := funext (find?_ofList xs)
  rw [members_eq_filterMap, keys_ofList, hfind]
  rfl

end Keyed

namespace Store

/-- A change of what a store holds. -/
inductive Change where
  | ofRecord (r : Record)
  | ofSchema (schema : Schema)

namespace Change

/-- The record that a change puts into a store. -/
def record? : Change → Option Record
  | ofRecord r => some r
  | ofSchema _ => none

/-- The store after a change. -/
def after : Change → Store → Store
  | ofRecord r, s => s.insert r
  | ofSchema schema, s => s.insertSchema schema

end Change

/-- The store after several changes, one after the other. -/
def afterAll (changes : List Change) (s : Store) : Store :=
  changes.foldl (fun s change => change.after s) s

/-- The records that were put into a store, first by a seed and then by changes. -/
def history (seed : Seed) (changes : List Change) : List Record :=
  seed.records ++ changes.filterMap Change.record?

theorem records_afterAll
    (changes : List Change)
    (s : Store) :
    (afterAll changes s).records = s.records.insertAll (changes.filterMap Change.record?) := by
  induction changes generalizing s with
  | nil =>
      rfl
  | cons change changes ih =>
      cases change with
      | ofRecord r => exact ih (s.insert r)
      | ofSchema schema => exact ih (s.insertSchema schema)

section Histories

variable (seed : Seed) (changes : List Change)

theorem records_afterAll_ofSeed :
    (afterAll changes (ofSeed seed)).records = Keyed.ofList (history seed changes) := by
  rw [records_afterAll]
  unfold history Keyed.ofList Keyed.insertAll
  rw [List.foldl_append]
  rfl

/-- Complete records are asked, and then they are projected. -/
theorem search_afterAll
    (query : Query) :
    (afterAll changes (ofSeed seed)).search query =
      ((Keyed.latest Record.key (history seed changes)).filter query.accepts).map fun r =>
        r.project query.columns := by
  unfold search
  rw [records_afterAll_ofSeed, Keyed.members_ofList]

theorem retrieve_afterAll
    (entity : Text)
    (id : Uuid)
    (columns : Columns) :
    (afterAll changes (ofSeed seed)).retrieve entity id columns =
      match Keyed.last? Record.key (history seed changes) (entity, id) with
      | some r => .ok (r.project columns)
      | none => .error (.notFound entity id) := by
  have hfound : (afterAll changes (ofSeed seed)).records.find? (entity, id) =
      Keyed.last? Record.key (history seed changes) (entity, id) := by
    rw [records_afterAll_ofSeed, Keyed.find?_ofList]
  exact congrArg (fun found : Option Record =>
    match found with
    | some r => (.ok (r.project columns) : Except StoreError Record)
    | none => .error (.notFound entity id)) hfound

theorem recordCount_afterAll :
    (afterAll changes (ofSeed seed)).recordCount =
      (Keyed.firstKeys Record.key (history seed changes)).length := by
  unfold recordCount Keyed.size
  rw [records_afterAll_ofSeed, ← Keyed.keys_ofList, List.length_map]

end Histories

end Store

section Places

variable {α β κ : Type} [DecidableEq κ] {key : α → κ} {x : α} {xs : List α}

theorem mem_of_mem_place
    {z : α}
    (h : z ∈ place key x xs) :
    z = x ∨ z ∈ xs := by
  induction xs with
  | nil =>
      exact Or.inl (List.mem_singleton.1 h)
  | cons y ys ih =>
      unfold place at h
      split at h
      · rcases List.mem_cons.1 h with rfl | h
        · exact Or.inl rfl
        · exact Or.inr (List.mem_cons_of_mem _ h)
      · rcases List.mem_cons.1 h with rfl | h
        · exact Or.inr List.mem_cons_self
        · exact (ih h).imp_right (List.mem_cons_of_mem _)

/-- A member that is new stands at the end. -/
theorem place_of_find?_eq_none
    (h : xs.find? (fun z => key z = key x) = none) :
    place key x xs = xs ++ [x] := by
  induction xs with
  | nil =>
      rfl
  | cons z zs ih =>
      rw [List.find?_cons] at h
      split at h
      · exact absurd h (by simp)
      · next hz => simp [place, of_decide_eq_false hz, ih h]

/-- What a replaced member has in common with the new one stays as it was. -/
theorem map_place_of_find?
    {y : α}
    (h : xs.find? (fun z => key z = key x) = some y)
    {f : α → β}
    (hf : f x = f y) :
    (place key x xs).map f = xs.map f := by
  induction xs with
  | nil =>
      exact absurd h (by simp)
  | cons z zs ih =>
      rw [List.find?_cons] at h
      split at h
      · next hz =>
        obtain rfl := Option.some.inj h
        simp [place, of_decide_eq_true hz, hf]
      · next hz => simp [place, of_decide_eq_false hz, ih h]

/-- Members and what they hold are placed alike when they have the same keys. -/
theorem map_place
    {key' : β → κ}
    {f : α → β}
    (hx : key' (f x) = key x)
    (hxs : ∀ z ∈ xs, key' (f z) = key z) :
    (place key x xs).map f = place key' (f x) (xs.map f) := by
  induction xs with
  | nil =>
      rfl
  | cons z zs ih =>
      have hz := hxs z List.mem_cons_self
      have hzs := ih fun w hw => hxs w (List.mem_cons_of_mem _ hw)
      by_cases h : key z = key x
      · simp [place, h, hx, hz]
      · simp [place, h, hx, hz, hzs]

/-- Members and what they hold are found alike when they have the same keys. -/
theorem find?_map_of_key
    {key' : β → κ}
    {f : α → β}
    (hxs : ∀ z ∈ xs, key' (f z) = key z)
    (k : κ) :
    (xs.map f).find? (fun w => key' w = k) = (xs.find? fun z => key z = k).map f := by
  induction xs with
  | nil =>
      rfl
  | cons z zs ih =>
      have hz := hxs z List.mem_cons_self
      have hzs := ih fun w hw => hxs w (List.mem_cons_of_mem _ hw)
      by_cases h : key z = k
      · simp [h, hz]
      · simp [h, hz, hzs]

end Places

namespace Table

variable {t : Table}

/-- The rows, in the order in which their keys first came, have rising numbers below the
next one, and each record stands under its own key. -/
structure Numbered (t : Table) : Prop where
  key : ∀ row ∈ t.rows.members, row.record.key = row.key
  below : ∀ row ∈ t.rows.members, row.number < t.next
  rising : (t.rows.members.map Row.number).Pairwise (· < ·)

theorem numbered_empty :
    empty.Numbered := by
  constructor <;> simp [empty, Keyed.empty]

/-- A new record gets the next number. -/
theorem numbered_insert_of_new
    (h : t.Numbered)
    {r : Record}
    (hnew : t.rows.find? r.key = none) :
    (t.insert r).Numbered := by
  rw [insert_of_new hnew]
  constructor
  · intro row hrow
    rcases mem_of_mem_place hrow with rfl | hrow
    · rfl
    · exact h.key row hrow
  · intro row hrow
    rcases mem_of_mem_place hrow with rfl | hrow
    · exact Nat.lt_succ_self t.next
    · exact Nat.lt_succ_of_lt (h.below row hrow)
  · have hmembers : (t.rows.insert ⟨r.key, t.next, r⟩).members =
        t.rows.members ++ [⟨r.key, t.next, r⟩] :=
      place_of_find?_eq_none hnew
    show ((t.rows.insert ⟨r.key, t.next, r⟩).members.map Row.number).Pairwise (· < ·)
    rw [hmembers, List.map_append, List.pairwise_append]
    refine ⟨h.rising, List.pairwise_singleton _ _, ?_⟩
    intro a ha b hb
    obtain ⟨row, hrow, rfl⟩ := List.mem_map.1 ha
    obtain rfl := List.mem_singleton.1 hb
    exact h.below row hrow

/-- A replaced record keeps the number of its row. -/
theorem numbered_insert_of_known
    (h : t.Numbered)
    {r : Record}
    {row : Row}
    (hknown : t.rows.find? r.key = some row) :
    (t.insert r).Numbered := by
  have hkey : row.key = r.key := by simpa using List.find?_some hknown
  have hrow : row ∈ t.rows.members := List.mem_of_find?_eq_some hknown
  rw [insert_of_known hknown]
  constructor
  · intro q hq
    rcases mem_of_mem_place hq with rfl | hq
    · exact hkey.symm
    · exact h.key q hq
  · intro q hq
    rcases mem_of_mem_place hq with rfl | hq
    · exact h.below row hrow
    · exact h.below q hq
  · have hfind : t.rows.members.find?
        (fun q => q.key = ({ row with record := r } : Row).key) = some row := by
      rw [← hkey] at hknown
      exact hknown
    have hsame : (t.rows.insert { row with record := r }).members.map Row.number =
        t.rows.members.map Row.number :=
      map_place_of_find? hfind rfl
    show ((t.rows.insert { row with record := r }).members.map Row.number).Pairwise (· < ·)
    rw [hsame]
    exact h.rising

theorem numbered_insert
    (h : t.Numbered)
    (r : Record) :
    (t.insert r).Numbered := by
  rcases hfind : t.rows.find? r.key with _ | row
  · exact numbered_insert_of_new h hfind
  · exact numbered_insert_of_known h hfind

/-- The records of the rows change as those of a list with one record per key. -/
theorem records_insert
    (h : t.Numbered)
    (r : Record) :
    (t.insert r).rows.members.map Row.record =
      place Record.key r (t.rows.members.map Row.record) := by
  rcases hfind : t.rows.find? r.key with _ | row
  · rw [insert_of_new hfind]
    exact map_place rfl h.key
  · rw [insert_of_known hfind]
    have hkey : row.key = r.key := by simpa using List.find?_some hfind
    exact map_place hkey.symm h.key

/-- The table stays numbered over a whole run, and its records are those of the list. -/
theorem records_insertAll
    (rs : List Record) :
    (empty.insertAll rs).Numbered ∧
      (empty.insertAll rs).rows.members.map Row.record =
        (Keyed.ofList rs : Keyed Record.key).members := by
  induction rs using List.reverseRecOn with
  | nil =>
      exact ⟨numbered_empty, rfl⟩
  | append_singleton rs r ih =>
      have hconcat : empty.insertAll (rs ++ [r]) = (empty.insertAll rs).insert r := by
        unfold insertAll
        rw [List.foldl_append]
        rfl
      rw [hconcat, Keyed.ofList_concat]
      refine ⟨numbered_insert ih.1 r, ?_⟩
      rw [records_insert ih.1, ih.2]
      rfl

section Search

variable {visited : List Row} (query : Query)

/-- What a search finds among some rows, with the numbers. -/
def found (rows : List Row) : List (Nat × Record) :=
  (rows.filter fun row => query.accepts row.record).map fun row =>
    (row.number, row.record.project query.columns)

theorem rising_found
    (h : t.Numbered) :
    ((found query t.rows.members).map Prod.fst).Pairwise (· < ·) := by
  have hsub : ((t.rows.members.filter fun row => query.accepts row.record).map
      Row.number).Sublist (t.rows.members.map Row.number) :=
    List.filter_sublist.map Row.number
  unfold found
  rw [List.map_map]
  exact h.rising.sublist hsub

/-- Sorting by number undoes the order of the visit: two sorted lists with the same
members are equal when no number is there twice. -/
theorem search_of_perm
    (h : t.Numbered)
    (hvisited : visited.Perm t.rows.members) :
    search visited query = (found query t.rows.members).map Prod.snd := by
  have hrising := rising_found query h
  have hperm : (found query visited).Perm (found query t.rows.members) :=
    (hvisited.filter _).map _
  have hsorted := hrising
  rw [List.pairwise_map] at hsorted
  have hunique : ∀ a b, a ∈ (found query visited).mergeSort (fun a b => a.1 ≤ b.1) →
      b ∈ found query t.rows.members →
      decide (a.1 ≤ b.1) = true → decide (b.1 ≤ a.1) = true → a = b := by
    intro a b ha hb hab hba
    rw [List.mem_mergeSort, hperm.mem_iff] at ha
    have hnodup : ((found query t.rows.members).map Prod.fst).Nodup :=
      hrising.imp fun hlt => Nat.ne_of_lt hlt
    refine List.inj_on_of_nodup_map hnodup ha hb ?_
    exact Nat.le_antisymm (of_decide_eq_true hab) (of_decide_eq_true hba)
  have hsort : (found query visited).mergeSort (fun a b => a.1 ≤ b.1) =
      found query t.rows.members := by
    refine List.Perm.eq_of_pairwise hunique ?_ ?_ ((List.mergeSort_perm _ _).trans hperm)
    · refine List.pairwise_mergeSort ?_ ?_ _
      · intro a b c hab hbc
        exact decide_eq_true (Nat.le_trans (of_decide_eq_true hab) (of_decide_eq_true hbc))
      · intro a b
        simpa using Nat.le_total a.1 b.1
    · exact hsorted.imp fun hlt => decide_eq_true (Nat.le_of_lt hlt)
  unfold search
  rw [← hsort]
  rfl

/-- A table that was filled from left to right finds what a store finds. -/
theorem search_eq
    {rs : List Record}
    (hvisited : visited.Perm (empty.insertAll rs).rows.members) :
    search visited query =
      ((Keyed.latest Record.key rs).filter query.accepts).map fun r =>
        r.project query.columns := by
  obtain ⟨hnumbered, hrecords⟩ := records_insertAll rs
  rw [search_of_perm query hnumbered hvisited, ← Keyed.members_ofList, ← hrecords,
    List.filter_map, List.map_map]
  unfold found
  rw [List.map_map]
  rfl

end Search

section Keys

variable (rs : List Record)

theorem find?_insertAll
    (k : Text × Uuid) :
    ((empty.insertAll rs).rows.find? k).map Row.record = Keyed.last? Record.key rs k := by
  obtain ⟨hnumbered, hrecords⟩ := records_insertAll rs
  have hfound : (Keyed.ofList rs : Keyed Record.key).find? k = Keyed.last? Record.key rs k :=
    Keyed.find?_ofList rs k
  unfold Keyed.find? at hfound ⊢
  rw [← hfound, ← hrecords, find?_map_of_key hnumbered.key]

theorem recordCount_insertAll :
    (empty.insertAll rs).recordCount = (Keyed.firstKeys Record.key rs).length := by
  obtain ⟨-, hrecords⟩ := records_insertAll rs
  rw [← Keyed.keys_ofList, ← hrecords]
  simp [recordCount, Keyed.size]

end Keys

end Table

/-- Whatever was put into a store, a search gives the records that the query asks for
among those that came last under each key, in the order in which the keys first came;
a retrieve gives the record that came last under a key, and fails when none did; and
there are as many records as keys. Of each record either gives the fields whose names are
asked for, with their values, and no other one. A table without an order answers in the
same way, however its rows are visited. -/
theorem storage_eq_latest
    (seed : Seed)
    (changes : List Store.Change)
    (visited : List Table.Row)
    (hvisited : visited.Perm
      (Table.empty.insertAll (Store.history seed changes)).rows.members) :
    let rs := Store.history seed changes
    let store := Store.afterAll changes (.ofSeed seed)
    let table := Table.empty.insertAll rs
    (∀ (r : Record) (columns : Columns),
      (r.project columns).entity = r.entity ∧ (r.project columns).id = r.id ∧
        ∀ field, (r.project columns).fields.get? field =
          match columns with
          | .all => r.fields.get? field
          | .only names => if field ∈ names then r.fields.get? field else none) ∧
    (∀ query : Query,
      store.search query =
        ((Keyed.latest Record.key rs).filter fun r =>
          r.entity = query.entity ∧ ∀ c ∈ query.conditions, c.holds r = true).map fun r =>
            r.project query.columns) ∧
    (∀ entity id columns,
      store.retrieve entity id columns =
        match Keyed.last? Record.key rs (entity, id) with
        | some r => .ok (r.project columns)
        | none => .error (.notFound entity id)) ∧
    (∀ entity id columns e,
      store.retrieve entity id columns = .error e ↔
        e = .notFound entity id ∧ ∀ r ∈ rs, r.key ≠ (entity, id)) ∧
    store.recordCount = (Keyed.firstKeys Record.key rs).length ∧
    (∀ query, Table.search visited query = store.search query) ∧
    (∀ entity id columns,
      table.retrieve entity id columns = store.retrieve entity id columns) ∧
    table.recordCount = store.recordCount := by
  intro rs store table
  have hsearch := Store.search_afterAll seed changes
  have hretrieve := Store.retrieve_afterAll seed changes
  have hcount := Store.recordCount_afterAll seed changes
  refine ⟨?_, ?_, hretrieve, ?_, hcount, ?_, ?_, ?_⟩
  · intro r columns
    refine ⟨rfl, rfl, ?_⟩
    intro field
    rw [r.fields_project]
    cases columns <;> simp [Columns.asks]
  · intro query
    have haccepts : ∀ r ∈ Keyed.latest Record.key rs, query.accepts r =
        decide (r.entity = query.entity ∧ ∀ c ∈ query.conditions, c.holds r = true) := by
      intro r _
      rw [Bool.eq_iff_iff]
      simp [Query.accepts]
    rw [hsearch query, List.filter_congr haccepts]
  · intro entity id columns e
    rw [hretrieve entity id columns, ← Keyed.last?_eq_none_iff]
    rcases Keyed.last? Record.key rs (entity, id) with _ | r
    · simp [eq_comm]
    · simp
  · intro query
    rw [hsearch query, Table.search_eq query hvisited]
  · intro entity id columns
    rw [hretrieve entity id columns, ← Table.find?_insertAll rs (entity, id)]
    unfold Table.retrieve
    rcases table.rows.find? (entity, id) with _ | row <;> rfl
  · rw [hcount]
    exact Table.recordCount_insertAll rs

/-- A task that belongs to something, with a subject and a note. -/
def taskRecord (number : BitVec 128) (owner : Value) (subject : String) : Record :=
  ⟨"task".toList, ⟨number⟩, Keyed.ofList
    [("deal_id".toList, owner), ("ym_subject".toList, .text subject.toList),
      ("note".toList, .text "internal".toList)]⟩

/-- Tasks of the first deal, by reference and by identifier. -/
def taskSeed : Seed :=
  ⟨[taskRecord 2 (.reference ⟨"deal".toList, ⟨1⟩, none⟩) "Call",
    taskRecord 3 (.id ⟨1⟩) "Email"], []⟩

/-- A task of another deal, what is known of tasks, and the first task again. -/
def taskChanges : List Store.Change :=
  [.ofRecord (taskRecord 4 (.id ⟨9⟩) "Demo"), .ofSchema ⟨"task".toList, []⟩,
    .ofRecord (taskRecord 2 (.reference ⟨"deal".toList, ⟨1⟩, none⟩) "Call back")]

/-- The tasks of the first deal, with their subjects. -/
def taskQuery : Query :=
  ⟨"task".toList, .only ["ym_subject".toList], [⟨"deal_id".toList, .equal, .id ⟨1⟩⟩]⟩

/-- The task that was stored again comes first, though the rows are visited backwards. What
is found has the subject that was asked for, and neither the note nor the owner that the
query itself has looked at. -/
theorem storage_of_tasks :
    let store := Store.afterAll taskChanges (.ofSeed taskSeed)
    let rows := (Table.empty.insertAll (Store.history taskSeed taskChanges)).rows.members
    rows.reverse.Perm rows ∧
    Table.search rows.reverse taskQuery = store.search taskQuery ∧
    (store.search taskQuery).map (fun r => r.text? "ym_subject".toList) =
      [some "Call back".toList, some "Email".toList] ∧
    (store.search taskQuery).map (fun r => (r.get? "deal_id".toList, r.get? "note".toList)) =
      [(none, none), (none, none)] ∧
    (store.retrieve "task".toList ⟨3⟩ .all).map (fun r => r.get? "note".toList) =
      .ok (some (.text "internal".toList)) ∧
    store.retrieve "task".toList ⟨5⟩ .all = .error (.notFound "task".toList ⟨5⟩) ∧
    store.recordCount = 3 := by
  intro store rows
  have hvisited : rows.reverse.Perm rows := List.reverse_perm rows
  obtain ⟨-, hsearch, hretrieve, hfail, hcount, htable, -, -⟩ :=
    storage_eq_latest taskSeed taskChanges rows.reverse hvisited
  refine ⟨hvisited, htable taskQuery, ?_, ?_, ?_, ?_, ?_⟩
  · rw [hsearch taskQuery]
    decide +kernel
  · rw [hsearch taskQuery]
    decide +kernel
  · rw [hretrieve "task".toList ⟨3⟩ .all]
    decide +kernel
  · exact (hfail "task".toList ⟨5⟩ .all _).2 ⟨rfl, by decide +kernel⟩
  · rw [hcount]
    decide +kernel

end MailMerge
