import MailMerge.Proofs.Assembly

/-!
# Failures of the source

Any call on a source may fail. A retrieve that fails because there is no such
record is a *gap* in the data: the work goes on and shows nothing there. Every
other failure ends the work at once and is the failure of the work itself.

So the calls of a piece of work account for its outcome. When it comes to an end,
only gaps have failed among its calls. When it fails, the last call has failed in
the same way and is no gap, and only gaps have failed before it. Work of which
this is true in every session *fails fast*.

Work that makes no call or a single one fails fast, and so does work done one
after the other: a failure leaves no call to be made after it. Which calls fail is
up to the source, which fails alike as long as the work lasts.

Main facts:

* `failsFast_orMissing_retrieve`: a retrieve passes over gaps and nothing else;
* `FailsFast.bind`: work that fails fast, one after the other, fails fast;
* `failsFast_expand`: texts are filled by work that fails fast.
-/

namespace MailMerge

namespace Source

variable {source : Source}

/-- A retrieve that fails because there is no such record. -/
structure Gap (source : Source) (call : Call) : Prop where
  isRetrieve : ∃ entity id columns, call = .retrieve entity id columns
  isNotFound : ∃ e, source.failure? call = some e ∧ e.isNotFound = true

/-- Of some calls only gaps fail. -/
def OnlyGapsFail (source : Source) (calls : List Call) : Prop :=
  ∀ call ∈ calls, source.failure? call ≠ none → source.Gap call

/-- The calls that were made account for an outcome. -/
def AccountsFor {α : Type} (source : Source) (calls : List Call) : Except StoreError α → Prop
  | .ok _ => source.OnlyGapsFail calls
  | .error e =>
    ∃ earlier last, calls = earlier ++ [last] ∧ source.OnlyGapsFail earlier ∧
      source.failure? last = some e ∧ ¬ source.Gap last

theorem onlyGapsFail_nil :
    source.OnlyGapsFail [] := by
  intro call hcall
  exact absurd hcall List.not_mem_nil

theorem OnlyGapsFail.append
    {calls calls' : List Call}
    (h : source.OnlyGapsFail calls)
    (h' : source.OnlyGapsFail calls') :
    source.OnlyGapsFail (calls ++ calls') := by
  intro call hcall hfail
  rcases List.mem_append.1 hcall with hcall | hcall
  · exact h call hcall hfail
  · exact h' call hcall hfail

/-- What later calls account for is accounted for with earlier gaps as well. -/
theorem AccountsFor.append
    {α : Type}
    {calls calls' : List Call}
    {outcome : Except StoreError α}
    (h : source.OnlyGapsFail calls)
    (h' : source.AccountsFor calls' outcome) :
    source.AccountsFor (calls ++ calls') outcome := by
  cases outcome with
  | ok a =>
      exact h.append h'
  | error e =>
      obtain ⟨earlier, last, rfl, hearlier, hlast, hgap⟩ := h'
      exact ⟨calls ++ earlier, last, by rw [List.append_assoc], h.append hearlier, hlast, hgap⟩

/-- A single call accounts for success when it does not fail or is a gap. -/
theorem accountsFor_ok
    {α : Type}
    {call : Call}
    (h : source.failure? call ≠ none → source.Gap call)
    (a : α) :
    source.AccountsFor [call] (.ok a) := by
  intro c hc hfail
  obtain rfl := List.mem_singleton.1 hc
  exact h hfail

/-- A single call accounts for its own failure when that is no gap. -/
theorem accountsFor_error
    {α : Type}
    {call : Call} {e : StoreError}
    (h : source.failure? call = some e)
    (hgap : ¬ source.Gap call) :
    source.AccountsFor [call] (.error e : Except StoreError α) :=
  ⟨[], call, rfl, onlyGapsFail_nil, h, hgap⟩

theorem not_gap_search
    (query : Query) :
    ¬ source.Gap (.search query) := by
  rintro ⟨⟨entity, id, columns, hcall⟩, -⟩
  exact Call.noConfusion hcall

theorem not_gap_describe
    (entity : Text) :
    ¬ source.Gap (.describe entity) := by
  rintro ⟨⟨e, id, columns, hcall⟩, -⟩
  exact Call.noConfusion hcall

/-- A retrieve that has failed is a gap exactly when there is no such record. -/
theorem gap_retrieve_iff
    {entity : Text} {id : Uuid} {columns : Columns}
    {e : StoreError}
    (h : source.failure? (.retrieve entity id columns) = some e) :
    source.Gap (.retrieve entity id columns) ↔ e.isNotFound = true := by
  constructor
  · rintro ⟨-, e', he', hmissing⟩
    obtain rfl := Option.some.inj (h.symm.trans he')
    exact hmissing
  · intro hmissing
    exact ⟨⟨entity, id, columns, rfl⟩, e, h, hmissing⟩

end Source

namespace Work

variable {source : Source} {α β : Type}

/-- In every session the calls that work adds account for its outcome. -/
def FailsFast (source : Source) (w : Work StoreError α) : Prop :=
  ∀ s, ∃ calls, (w.perform s).2.calls = s.calls ++ calls ∧
    source.AccountsFor calls (w.perform s).1

section Pieces

/-- Work that comes to an end without a call. -/
theorem failsFast_of_silent
    {w : Work StoreError α}
    (hok : ∀ s, ∃ a, (w.perform s).1 = .ok a)
    (hcalls : ∀ s, (w.perform s).2.calls = s.calls) :
    FailsFast source w := by
  intro s
  obtain ⟨a, ha⟩ := hok s
  refine ⟨[], by rw [hcalls s, List.append_nil], ?_⟩
  rw [ha]
  exact Source.onlyGapsFail_nil

theorem failsFast_pure
    (a : α) :
    FailsFast source (pure a) :=
  failsFast_of_silent (fun _ => ⟨a, rfl⟩) fun _ => rfl

theorem failsFast_session :
    FailsFast source session :=
  failsFast_of_silent (fun s => ⟨s, rfl⟩) fun _ => rfl

theorem failsFast_count
    (f : Counters → Counters) :
    FailsFast source (count f) :=
  failsFast_of_silent (fun _ => ⟨(), rfl⟩) fun _ => rfl

/-- Changes of the session that leave the calls as they are. -/
theorem failsFast_update
    {f : Session → Session}
    (hf : ∀ s, (f s).calls = s.calls) :
    FailsFast source (update f) :=
  failsFast_of_silent (fun _ => ⟨(), rfl⟩) hf

theorem failsFast_search
    (query : Query) :
    FailsFast source (search source query) := by
  intro s
  refine ⟨[.search query], rfl, ?_⟩
  rw [perform_search]
  rcases h : source.search query with e | found
  · exact Source.accountsFor_error (by simp [Source.failure?, h]) (Source.not_gap_search query)
  · exact Source.accountsFor_ok (by simp [Source.failure?, h]) found

theorem failsFast_describe
    (entity : Text) :
    FailsFast source (describe source entity) := by
  intro s
  refine ⟨[.describe entity], rfl, ?_⟩
  rw [perform_describe]
  rcases h : source.describe entity with e | schema
  · exact Source.accountsFor_error (by simp [Source.failure?, h]) (Source.not_gap_describe entity)
  · exact Source.accountsFor_ok (by simp [Source.failure?, h]) schema

/-- A retrieve that may find nothing: what is passed over is a gap, and nothing else is. -/
theorem failsFast_orMissing_retrieve
    (entity : Text)
    (id : Uuid)
    (columns : Columns) :
    FailsFast source (orMissing (retrieve source entity id columns)) := by
  intro s
  refine ⟨[.retrieve entity id columns], ?_, ?_⟩
  · rw [perform_orMissing, perform_retrieve]
    cases source.retrieve entity id columns <;> rfl
  · rw [perform_orMissing, perform_retrieve]
    rcases h : source.retrieve entity id columns with e | r
    · have hfail : source.failure? (.retrieve entity id columns) = some e := by
        simp [Source.failure?, h]
      by_cases hmissing : e.isNotFound = true
      · simp only [hmissing, if_true]
        exact Source.accountsFor_ok (fun _ => (Source.gap_retrieve_iff hfail).2 hmissing) none
      · simp only [hmissing]
        exact Source.accountsFor_error hfail fun hgap =>
          hmissing ((Source.gap_retrieve_iff hfail).1 hgap)
    · exact Source.accountsFor_ok (by simp [Source.failure?, h]) (some r)

end Pieces

/-- The calls of the second part are added to those of the first, of which none has
ended the work. -/
theorem FailsFast.bind
    {w : Work StoreError α} {f : α → Work StoreError β}
    (hw : FailsFast source w)
    (hf : ∀ a, FailsFast source (f a)) :
    FailsFast source (w >>= f) := by
  intro s
  obtain ⟨calls, hcalls, haccount⟩ := hw s
  rw [perform_bind]
  rcases h : w.perform s with ⟨e | a, s'⟩
  · rw [h] at hcalls haccount
    exact ⟨calls, hcalls, haccount⟩
  · rw [h] at hcalls haccount
    obtain ⟨calls', hcalls', haccount'⟩ := hf a s'
    refine ⟨calls ++ calls', ?_, haccount'.append haccount⟩
    show ((f a).perform s').2.calls = s.calls ++ (calls ++ calls')
    rw [hcalls', hcalls, List.append_assoc]

end Work

namespace Filling

open Work

variable (source : Source)

theorem failsFast_schemaOf
    (entity : Text) :
    FailsFast source (schemaOf source entity) := by
  unfold schemaOf
  refine failsFast_session.bind ?_
  intro s
  split
  · exact failsFast_pure _
  · refine (failsFast_describe entity).bind ?_
    intro schema
    refine FailsFast.bind (failsFast_update ?_) ?_
    · intro s
      rfl
    · intro _
      exact failsFast_pure schema

theorem failsFast_labelFor
    (entity field : Text)
    (code : Int32) :
    FailsFast source (labelFor (schemaOf source entity) entity field code) := by
  unfold labelFor
  refine failsFast_session.bind ?_
  intro s
  split
  · refine (failsFast_count _).bind ?_
    intro _
    exact failsFast_pure _
  · refine (failsFast_count _).bind ?_
    intro _
    refine (failsFast_schemaOf source entity).bind ?_
    intro schema
    refine FailsFast.bind (failsFast_update ?_) ?_
    · intro s
      rfl
    · intro _
      exact failsFast_pure _

theorem failsFast_build
    (entity key : Text)
    (parent : Uuid)
    (columns : List Text) :
    FailsFast source (build entity key parent columns) := by
  unfold build
  refine failsFast_session.bind ?_
  intro s
  split
  · refine FailsFast.bind (failsFast_update ?_) ?_
    · intro s
      rfl
    · intro _
      exact failsFast_pure _
  · exact failsFast_pure _

/-- What is filled from a source is filled by work that fails fast. -/
theorem inherited_failsFast :
    Inherited source fun _ => FailsFast source where
  pure := failsFast_pure
  bind := FailsFast.bind
  count := failsFast_count
  look := failsFast_orMissing_retrieve
  search := failsFast_search
  schema := failsFast_schemaOf source
  label := failsFast_labelFor source
  query := failsFast_build source

/-- The text is filled only if no call but gaps has failed, and the filling fails as its
last call does and for no other reason. -/
theorem failsFast_expand
    (setup : Setup)
    (record : Record)
    (text : Text) :
    FailsFast setup.source (expand setup record text) :=
  (inherited_failsFast setup.source).expand record text

end Filling

end MailMerge
