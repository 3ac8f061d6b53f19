import MailMerge.Keyed
import MailMerge.Store.Source
import MailMerge.Template.Directive

/-!
# Sessions

What happens while letters are filled is recorded in a session: the calls made
on the source, the counters, the choices and schemas that have been learnt, and
the queries that callers have put in the place of the usual ones. A step of the
work may fail; the session keeps what was recorded until then.

Main facts:

* `perform_retrieve`, `perform_search`, `perform_describe`: a call gives the
  source's answer and is recorded, whether it fails or not;
* `perform_bind`: a failure ends the work, and what was recorded stays;
* `perform_orMissing`: a gap in the data is no failure.
-/

namespace MailMerge

/-- The counters of a session. -/
structure Counters where
  succeeded : Nat
  failed : Nat
  durations : Nat
  fields : Nat
  recordLinks : Nat
  referenceLinks : Nat
  relatedLists : Nat
  unresolved : Nat
  cacheHits : Nat
  cacheMisses : Nat
deriving DecidableEq, Repr

namespace Counters

/-- Nothing counted. -/
def zero : Counters := ⟨0, 0, 0, 0, 0, 0, 0, 0, 0, 0⟩

instance : Inhabited Counters := ⟨zero⟩

/-- A placeholder of a kind has been filled. -/
def addPlaceholder (c : Counters) : Template.DirectiveKind → Counters
  | .field => { c with fields := c.fields + 1 }
  | .recordLink => { c with recordLinks := c.recordLinks + 1 }
  | .referenceLink => { c with referenceLinks := c.referenceLinks + 1 }
  | .related => { c with relatedLists := c.relatedLists + 1 }

/-- A placeholder has been left as it was. -/
def addUnresolved (c : Counters) : Counters :=
  { c with unresolved := c.unresolved + 1 }

/-- The choices of a field were known. -/
def addHit (c : Counters) : Counters :=
  { c with cacheHits := c.cacheHits + 1 }

/-- The choices of a field were not known. -/
def addMiss (c : Counters) : Counters :=
  { c with cacheMisses := c.cacheMisses + 1 }

/-- A letter has been filled, and the time it took was observed. -/
def addSuccess (c : Counters) : Counters :=
  { c with succeeded := c.succeeded + 1, durations := c.durations + 1 }

/-- A letter could not be filled. -/
def addFailure (c : Counters) : Counters :=
  { c with failed := c.failed + 1 }

end Counters

/-- What is recorded while letters are filled. -/
structure Session where
  calls : List Call
  counters : Counters
  choices : Dict (Text × Text) (List Choice)
  schemas : Dict Text Schema
  overrides : Dict Text Query
deriving DecidableEq

namespace Session

/-- A session in which nothing has happened. -/
def fresh : Session := ⟨[], .zero, .empty, .empty, .empty⟩

instance : Inhabited Session := ⟨fresh⟩

/-- The session with one more call. -/
def record (s : Session) (call : Call) : Session :=
  { s with calls := s.calls ++ [call] }

/-- The session with changed counters. -/
def count (s : Session) (f : Counters → Counters) : Session :=
  { s with counters := f s.counters }

/-- The session with calls and counters forgotten. -/
def rest (s : Session) : Session :=
  { s with calls := [], counters := .zero }

end Session

/-- Work in a session: it comes to an end or fails, and leaves the session changed. -/
def Work (ε α : Type) := Session → Except ε α × Session

namespace Work

variable {ε ε' α β : Type}

/-- The outcome of work and the session after it. -/
def perform (w : Work ε α) (s : Session) : Except ε α × Session :=
  w s

/-- Work that does nothing. -/
def done (a : α) : Work ε α :=
  fun s => (.ok a, s)

/-- Work followed by more work, unless it fails. -/
def andThen (w : Work ε α) (f : α → Work ε β) : Work ε β :=
  fun s =>
    match w s with
    | (.ok a, s') => f a s'
    | (.error e, s') => (.error e, s')

instance : Monad (Work ε) where
  pure := done
  bind := andThen

/-- Work that fails. -/
def fail (e : ε) : Work ε α :=
  fun s => (.error e, s)

/-- The session as it is. -/
def session : Work ε Session :=
  fun s => (.ok s, s)

/-- Changes the session. -/
def update (f : Session → Session) : Work ε Unit :=
  fun s => (.ok (), f s)

/-- Changes the counters. -/
def count (f : Counters → Counters) : Work ε Unit :=
  update fun s => s.count f

/-- Work whose failures are told in other terms. -/
def mapError (f : ε → ε') (w : Work ε α) : Work ε' α :=
  fun s =>
    match w s with
    | (.ok a, s') => (.ok a, s')
    | (.error e, s') => (.error (f e), s')

/-- Asks a source for a record. -/
def retrieve (source : Source) (entity : Text) (id : Uuid) (columns : Columns) :
    Work StoreError Record :=
  fun s => (source.retrieve entity id columns, s.record (.retrieve entity id columns))

/-- Asks a source for the records of a query. -/
def search (source : Source) (query : Query) : Work StoreError (List Record) :=
  fun s => (source.search query, s.record (.search query))

/-- Asks a source for the schema of an entity. -/
def describe (source : Source) (entity : Text) : Work StoreError Schema :=
  fun s => (source.describe entity, s.record (.describe entity))

/-- Work in which a gap in the data is no failure but gives nothing. -/
def orMissing (w : Work StoreError α) : Work StoreError (Option α) :=
  fun s =>
    match w s with
    | (.ok a, s') => (.ok (some a), s')
    | (.error e, s') => (if e.isNotFound then .ok none else .error e, s')

@[simp] theorem perform_pure (a : α) (s : Session) :
    (pure a : Work ε α).perform s = (.ok a, s) := rfl

@[simp] theorem perform_bind (w : Work ε α) (f : α → Work ε β) (s : Session) :
    (w >>= f).perform s =
      match w.perform s with
      | (.ok a, s') => (f a).perform s'
      | (.error e, s') => (.error e, s') := rfl

@[simp] theorem perform_map (f : α → β) (w : Work ε α) (s : Session) :
    (f <$> w).perform s =
      match w.perform s with
      | (.ok a, s') => (.ok (f a), s')
      | (.error e, s') => (.error e, s') := rfl

/-- Work done one after the other fails when a part of it does. -/
theorem bind_eq_error_iff {w : Work ε α} {f : α → Work ε β} {s : Session} {e : ε} :
    ((w >>= f).perform s).1 = .error e ↔
      (w.perform s).1 = .error e ∨
        ∃ a, (w.perform s).1 = .ok a ∧ ((f a).perform (w.perform s).2).1 = .error e := by
  rw [perform_bind]
  rcases w.perform s with ⟨e' | a, s'⟩ <;> simp

/-- Work done one after the other comes to an end when each part of it does. -/
theorem bind_eq_ok_iff {w : Work ε α} {f : α → Work ε β} {s : Session} {b : β} :
    ((w >>= f).perform s).1 = .ok b ↔
      ∃ a, (w.perform s).1 = .ok a ∧ ((f a).perform (w.perform s).2).1 = .ok b := by
  rw [perform_bind]
  rcases w.perform s with ⟨e' | a, s'⟩ <;> simp

/-- Work of which only the result is changed. -/
theorem perform_bind_pure (w : Work ε α) (f : α → β) (s : Session) :
    (w >>= fun a => pure (f a)).perform s = ((w.perform s).1.map f, (w.perform s).2) := by
  rw [perform_bind]
  rcases w.perform s with ⟨_ | _, _⟩ <;> rfl

@[simp] theorem perform_fail (e : ε) (s : Session) :
    (fail e : Work ε α).perform s = (.error e, s) := rfl

@[simp] theorem perform_session (s : Session) :
    (session : Work ε Session).perform s = (.ok s, s) := rfl

@[simp] theorem perform_update (f : Session → Session) (s : Session) :
    (update f : Work ε Unit).perform s = (.ok (), f s) := rfl

@[simp] theorem perform_count (f : Counters → Counters) (s : Session) :
    (count f : Work ε Unit).perform s = (.ok (), s.count f) := rfl

@[simp] theorem perform_retrieve (source : Source) (entity : Text) (id : Uuid)
    (columns : Columns) (s : Session) : (retrieve source entity id columns).perform s =
      (source.retrieve entity id columns, s.record (.retrieve entity id columns)) := rfl

@[simp] theorem perform_search (source : Source) (query : Query) (s : Session) :
    (search source query).perform s = (source.search query, s.record (.search query)) := rfl

@[simp] theorem perform_describe (source : Source) (entity : Text) (s : Session) :
    (describe source entity).perform s = (source.describe entity, s.record (.describe entity)) :=
  rfl

@[simp] theorem perform_mapError (f : ε → ε') (w : Work ε α) (s : Session) :
    (mapError f w).perform s =
      match w.perform s with
      | (.ok a, s') => (.ok a, s')
      | (.error e, s') => (.error (f e), s') := rfl

theorem perform_mapError_fst (f : ε → ε') (w : Work ε α) (s : Session) :
    ((mapError f w).perform s).1 = (w.perform s).1.mapError f := by
  rw [perform_mapError]
  rcases w.perform s with ⟨_ | _, _⟩ <;> rfl

theorem perform_mapError_snd (f : ε → ε') (w : Work ε α) (s : Session) :
    ((mapError f w).perform s).2 = (w.perform s).2 := by
  rw [perform_mapError]
  rcases w.perform s with ⟨_ | _, _⟩ <;> rfl

theorem perform_orMissing (w : Work StoreError α) (s : Session) :
    (orMissing w).perform s =
      match w.perform s with
      | (.ok a, s') => (.ok (some a), s')
      | (.error e, s') => (if e.isNotFound then .ok none else .error e, s') := rfl

theorem perform_orMissing_snd (w : Work StoreError α) (s : Session) :
    ((orMissing w).perform s).2 = (w.perform s).2 := by
  rw [perform_orMissing]
  rcases w.perform s with ⟨_ | _, _⟩ <;> rfl

theorem ext {w v : Work ε α} (h : ∀ s, w.perform s = v.perform s) : w = v :=
  funext h

instance : LawfulMonad (Work ε) :=
  LawfulMonad.mk' (Work ε)
    (fun w => ext fun s => by
      show (match w s with
        | (.ok a, s') => (.ok a, s')
        | (.error e, s') => (.error e, s')) = w s
      rcases w s with ⟨_ | _, _⟩ <;> rfl)
    (fun _ _ => rfl)
    (fun w f g => ext fun s => by
      simp only [perform_bind]
      rcases w.perform s with ⟨_ | _, _⟩ <;> rfl)

end Work

end MailMerge
