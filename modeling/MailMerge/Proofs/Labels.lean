import MailMerge.Proofs.Renewal
import Mathlib.Data.List.Dedup

/-!
# Labels over a run of lookups

Labels may be looked up one after the other, each lookup with a fetch of its own that
gives a schema or fails. The fetch is asked only as long as no fetch has given a schema for
the entity and the field; the choices of the first schema that was given decide every
label from then on. A failure is passed on and leaves nothing behind.

A fetch may do any work: give a schema at once, fail, ask a source, or recall what the
session has been told. Whether it is asked is not told by what it does but by a mark that
is set behind it.

Main facts:

* `Lookup.asked_eq`: when the fetch of a lookup is asked;
* `cached_after`: what one lookup leaves behind;
* `cached_lookupsAfter`: what a run of lookups leaves behind;
* `labels_told_once`: the outcome of a lookup after any run, and what has been counted.
-/

namespace MailMerge.Filling

open Session Work

/-- What gives the schema for a lookup, or fails. The choices that are kept and the counters
of lookups are out of its reach. -/
structure Fetch where
  work : Work StoreError Schema
  choices : ∀ s, (work.perform s).2.choices = s.choices
  hits : ∀ s, (work.perform s).2.counters.cacheHits = s.counters.cacheHits
  misses : ∀ s, (work.perform s).2.counters.cacheMisses = s.counters.cacheMisses

namespace Fetch

/-- A fetch that has the schema at hand. -/
def giving (schema : Schema) : Fetch where
  work := pure schema
  choices := fun _ => rfl
  hits := fun _ => rfl
  misses := fun _ => rfl

/-- A fetch that fails without a call. -/
def failing (e : StoreError) : Fetch where
  work := Work.fail e
  choices := fun _ => rfl
  hits := fun _ => rfl
  misses := fun _ => rfl

theorem perform_schemaOf_keeps
    (source : Source)
    (entity : Text)
    (s : Session) :
    ((schemaOf source entity).perform s).2.choices = s.choices ∧
      ((schemaOf source entity).perform s).2.counters = s.counters := by
  rcases h : s.schemas.get? entity with _ | schema
  · rw [perform_schemaOf_of_unknown h]
    rcases source.describe entity <;> exact ⟨rfl, rfl⟩
  · rw [perform_schemaOf_of_known h]
    exact ⟨rfl, rfl⟩

/-- The fetch of a path: it asks a source for a schema unless the session knows it. -/
def recalling (source : Source) (entity : Text) : Fetch where
  work := schemaOf source entity
  choices := fun s => (perform_schemaOf_keeps source entity s).1
  hits := fun s => congrArg Counters.cacheHits (perform_schemaOf_keeps source entity s).2
  misses := fun s => congrArg Counters.cacheMisses (perform_schemaOf_keeps source entity s).2

/-- A fetch with a mark behind it: one more call, whatever has come of it. -/
def marked (fetch : Fetch) : Work StoreError Schema := fun s =>
  ((fetch.work.perform s).1, (fetch.work.perform s).2.record (.describe []))

theorem perform_marked
    (fetch : Fetch)
    (s : Session) :
    fetch.marked.perform s =
      ((fetch.work.perform s).1, (fetch.work.perform s).2.record (.describe [])) :=
  rfl

end Fetch

/-- A lookup of the label of a code, with a fetch for the schema. -/
structure Lookup where
  entity : Text
  field : Text
  code : Int32
  fetch : Fetch

namespace Lookup

variable (l : Lookup) (s : Session)

/-- What a lookup is kept under. -/
def key : Text × Text :=
  (l.entity, l.field)

/-- The work of a lookup. -/
def work : Work StoreError (Option Text) :=
  labelFor l.fetch.work l.entity l.field l.code

/-- The session after a lookup. -/
def after : Session :=
  (l.work.perform s).2

/-- How often the fetch of a lookup is asked: the calls that a mark behind it adds. -/
def asked : Nat :=
  ((labelFor l.fetch.marked l.entity l.field l.code).perform s).2.calls.length -
    (l.after s).calls.length

/-- What the fetch of a lookup gives; a lookup that needs it has been counted before. -/
def answer : Except StoreError Schema :=
  (l.fetch.work.perform (s.count Counters.addMiss)).1

/-- The session behind the fetch of a lookup that needs it. -/
def behindFetch : Session :=
  (l.fetch.work.perform (s.count Counters.addMiss)).2

/-- The label of the first choice with the code in the list of a schema; none when the
field is no picklist there. -/
def labelIn (schema : Schema) : Option Text :=
  (schema.choices? l.field).bind fun choices =>
    (choices.find? fun c => c.code = l.code).map Choice.label

/-- The fetch of a lookup with what came of it, as often as it is asked. -/
def fetched : Answers (Text × Text) StoreError Schema :=
  List.replicate (l.asked s) (l.key, l.answer s)

end Lookup

/-- The session after several lookups, one after the other. -/
def lookupsAfter (lookups : List Lookup) (s : Session) : Session :=
  lookups.foldl (fun s l => l.after s) s

/-- The fetches that are asked in the course of several lookups, with what came of them. -/
def fetchesOver : List Lookup → Session → Answers (Text × Text) StoreError Schema
  | [], _ => []
  | l :: ls, s => l.fetched s ++ fetchesOver ls (l.after s)

/-- What is kept and counted is what was fetched in the course of some lookups. -/
structure Cached (log : Answers (Text × Text) StoreError Schema) (lookups : Nat) (s : Session) :
    Prop where
  settled : log.Settled
  choices : ∀ k, s.choices.get? k =
    (log.first? k).map fun schema => (schema.choices? k.2).getD []
  keys : s.choices.members.map Prod.fst = log.answered
  misses : s.counters.cacheMisses = log.length
  total : s.counters.cacheHits + s.counters.cacheMisses = lookups

section Steps

variable {log : Answers (Text × Text) StoreError Schema} {n : Nat} {s : Session}

theorem cached_fresh :
    Cached [] 0 .fresh where
  settled := Answers.settled_nil
  choices := fun _ => rfl
  keys := rfl
  misses := rfl
  total := rfl

theorem labelAmong_eq_labelIn
    (l : Lookup)
    (schema : Schema) :
    labelAmong ((schema.choices? l.field).getD []) l.code = l.labelIn schema := by
  unfold labelAmong Lookup.labelIn
  rcases schema.choices? l.field with _ | choices <;> rfl

/-- The choices of the field of a lookup are kept once a fetch has given a schema. -/
theorem Cached.choices_of_first
    (hs : Cached log n s)
    (l : Lookup)
    {given : Option Schema}
    (h : log.first? l.key = given) :
    s.choices.get? (l.entity, l.field) =
      given.map fun schema => (schema.choices? l.field).getD [] := by
  rw [← h]
  exact hs.choices l.key

/-- Once a fetch has given a schema, a lookup is a hit and leaves no other trace. -/
theorem perform_lookup_of_first
    (hs : Cached log n s)
    (l : Lookup)
    {schema : Schema}
    (h : log.first? l.key = some schema) :
    l.work.perform s = (.ok (l.labelIn schema), s.count Counters.addHit) := by
  rw [← labelAmong_eq_labelIn]
  exact label_of_known (hs.choices_of_first l h)

/-- Before that, the fetch of a lookup decides, in a session in which the lookup has been
counted as a miss. -/
theorem perform_lookup_of_none
    (hs : Cached log n s)
    (l : Lookup)
    (h : log.first? l.key = none) :
    l.work.perform s =
      match l.answer s with
      | .ok schema =>
        (.ok (l.labelIn schema), { l.behindFetch s with
          choices := (l.behindFetch s).choices.set l.key ((schema.choices? l.field).getD []) })
      | .error e => (.error e, l.behindFetch s) := by
  refine (perform_labelFor_of_unknown (hs.choices_of_first l h) l.code).trans ?_
  unfold Lookup.answer Lookup.behindFetch
  rcases l.fetch.work.perform (s.count Counters.addMiss) with ⟨e | schema, s'⟩
  · rfl
  · simp only [labelAmong_eq_labelIn]
    rfl

/-- Behind a fetch nothing but the miss has been added to what is kept and counted. -/
theorem Cached.behindFetch
    (hs : Cached log n s)
    (l : Lookup) :
    (l.behindFetch s).choices = s.choices ∧
      (l.behindFetch s).counters.cacheMisses = log.length + 1 ∧
      (l.behindFetch s).counters.cacheHits + (l.behindFetch s).counters.cacheMisses = n + 1 := by
  have hmisses : (l.behindFetch s).counters.cacheMisses = log.length + 1 := by
    unfold Lookup.behindFetch
    rw [l.fetch.misses, ← hs.misses]
    rfl
  have htotal : (l.behindFetch s).counters.cacheHits +
      (l.behindFetch s).counters.cacheMisses = n + 1 := by
    rw [hmisses, ← hs.total, ← hs.misses]
    unfold Lookup.behindFetch
    rw [l.fetch.hits]
    rfl
  exact ⟨l.fetch.choices (s.count Counters.addMiss), hmisses, htotal⟩

/-- A fetch is asked once if none has given a schema, and else not at all. -/
theorem Lookup.asked_eq
    (hs : Cached log n s)
    (l : Lookup) :
    l.asked s = if log.first? l.key = none then 1 else 0 := by
  unfold Lookup.asked Lookup.after
  rcases h : log.first? l.key with _ | schema
  · have hmarked := @perform_labelFor_of_unknown l.entity l.field s l.fetch.marked
      (hs.choices_of_first l h) l.code
    rw [l.fetch.perform_marked] at hmarked
    rw [hmarked, perform_lookup_of_none hs l h, if_pos rfl]
    unfold Lookup.answer Lookup.behindFetch
    rcases l.fetch.work.perform (s.count Counters.addMiss) with ⟨e | schema, s'⟩
    · simp [Session.record]
    · simp [Session.record]
  · rw [label_of_known (hs.choices_of_first l h), perform_lookup_of_first hs l h]
    simp

/-- What one lookup leaves behind: its fetch is logged if it is asked, and a schema that it
gives is kept. -/
theorem cached_after
    (hs : Cached log n s)
    (l : Lookup) :
    Cached (log ++ l.fetched s) (n + 1) (l.after s) := by
  unfold Lookup.fetched Lookup.after
  rw [l.asked_eq hs]
  rcases h : log.first? l.key with _ | schema
  · obtain ⟨hkept, hmisses, htotal⟩ := hs.behindFetch l
    rw [if_pos rfl, List.replicate_one, perform_lookup_of_none hs l h]
    rcases l.answer s with e | schema
    · refine ⟨hs.settled.concat h (.error e), ?_, ?_, ?_, htotal⟩
      · intro k
        rw [Answers.first?_concat_error, ← hs.choices k]
        exact congrArg (fun choices => choices.get? k) hkept
      · rw [Answers.answered_concat_error, ← hs.keys]
        exact congrArg (fun choices => choices.members.map Prod.fst) hkept
      · simpa using hmisses
    · refine ⟨hs.settled.concat h (.ok schema), ?_, ?_, ?_, htotal⟩
      · intro k
        dsimp only
        rw [hkept, Dict.get?_set, Answers.first?_concat_ok h, hs.choices k]
        by_cases hk : l.key = k
        · subst hk
          rw [if_pos rfl, if_pos rfl]
          rfl
        · rw [if_neg hk, if_neg hk]
      · have hnew : l.key ∉ s.choices.members.map Prod.fst := by
          rw [hs.keys, Answers.mem_answered_iff]
          exact fun hknown => hknown h
        dsimp only
        rw [hkept]
        refine (Keyed.keys_insert s.choices _).trans ?_
        rw [if_neg hnew, Answers.answered_concat_ok, hs.keys]
      · simpa using hmisses
  · rw [if_neg (by simp), List.replicate_zero, List.append_nil, perform_lookup_of_first hs l h]
    refine ⟨hs.settled, hs.choices, hs.keys, hs.misses, ?_⟩
    rw [← hs.total]
    simp only [Session.count, Counters.addHit]
    omega

/-- What a run of lookups leaves behind. -/
theorem cached_lookupsAfter
    (hs : Cached log n s)
    (lookups : List Lookup) :
    Cached (log ++ fetchesOver lookups s) (n + lookups.length) (lookupsAfter lookups s) := by
  induction lookups generalizing log n s with
  | nil =>
      show Cached (log ++ []) n s
      rw [List.append_nil]
      exact hs
  | cons l ls ih =>
      have hrest := ih (cached_after hs l)
      rw [List.append_assoc, Nat.add_right_comm] at hrest
      exact hrest

end Steps

/-- After any run of lookups, the fetch of the next one is asked once when no fetch has given
a schema for its entity and field, and not at all when one has; the lookup then leaves no
trace but a hit. If the fetch fails, the lookup fails in the same way and keeps nothing.
Otherwise the label is the one in the first schema that was given for the entity and the
field. The fields that are kept are those for which a schema was given, each of them once;
a miss has been counted for each time that a fetch was asked, and a hit for every other
lookup. -/
theorem labels_told_once
    (lookups : List Lookup)
    (l : Lookup) :
    let s := lookupsAfter lookups .fresh
    let log := fetchesOver lookups .fresh
    l.asked s = (if log.first? l.key = none then 1 else 0) ∧
    (log.first? l.key ≠ none → l.after s = s.count Counters.addHit) ∧
    (∀ e, log.first? l.key = none → l.answer s = .error e →
      (l.work.perform s).1 = .error e ∧ (l.after s).choices = s.choices) ∧
    (∀ schema, (log.first? l.key).or (l.answer s).toOption = some schema →
      (l.work.perform s).1 = .ok (l.labelIn schema)) ∧
    s.choices.size = log.answered.dedup.length ∧
    s.counters.cacheMisses = log.length ∧
    s.counters.cacheHits + s.counters.cacheMisses = lookups.length := by
  intro s log
  have hs : Cached log lookups.length s := by
    have hrun := cached_lookupsAfter cached_fresh lookups
    rwa [List.nil_append, Nat.zero_add] at hrun
  refine ⟨l.asked_eq hs, ?_, ?_, ?_, ?_, hs.misses, hs.total⟩
  · intro h
    obtain ⟨schema, hschema⟩ := Option.ne_none_iff_exists'.1 h
    unfold Lookup.after
    rw [perform_lookup_of_first hs l hschema]
  · intro e h he
    unfold Lookup.after
    rw [perform_lookup_of_none hs l h, he]
    exact ⟨rfl, (hs.behindFetch l).1⟩
  · intro schema hschema
    rcases h : log.first? l.key with _ | told
    · rw [h, Option.none_or] at hschema
      rw [perform_lookup_of_none hs l h]
      rcases hanswer : l.answer s with e | given
      · rw [hanswer] at hschema
        cases hschema
      · rw [hanswer] at hschema
        obtain rfl := Option.some.inj hschema
        rfl
    · rw [h, Option.some_or] at hschema
      obtain rfl := Option.some.inj hschema
      rw [perform_lookup_of_first hs l h]
  · rw [hs.settled.nodup_answered.dedup, ← hs.keys, List.length_map]
    rfl

/-- Lookups of stages: a fetch fails, a source says nothing, then the stages of deals are
given, they are looked up once more after they have been renamed, and leads have none. -/
def stageLookups : List Lookup :=
  [⟨"deal".toList, "stage".toList, 2, .failing (.unavailable "refused".toList)⟩,
   ⟨"deal".toList, "stage".toList, 2, .recalling (silentSource (dealStore 1)) "deal".toList⟩,
   ⟨"deal".toList, "stage".toList, 1, .recalling (dealStore 1).toSource "deal".toList⟩,
   ⟨"deal".toList, "stage".toList, 2, .giving (renamedStore.describe "deal".toList)⟩,
   ⟨"lead".toList, "stage".toList, 1, .giving ((dealStore 1).describe "lead".toList)⟩]

/-- Stages that were given first are told again whatever a later fetch would give. A field
that was not met is fetched, here from a schema that the session recalls, and a failure is
passed on. -/
theorem labels_told_once_for_stages :
    let s := lookupsAfter stageLookups .fresh
    let log := fetchesOver stageLookups .fresh
    let known : Lookup :=
      ⟨"deal".toList, "stage".toList, 2, .giving (renamedStore.describe "deal".toList)⟩
    let recalled : Lookup :=
      ⟨"deal".toList, "rank".toList, 2, .recalling (silentSource (dealStore 1)) "deal".toList⟩
    let refused : Lookup :=
      ⟨"lead".toList, "rank".toList, 2, .failing (.unavailable "refused".toList)⟩
    s.counters.cacheMisses = 4 ∧ s.choices.size = 2 ∧
      (log.first? known.key).or (known.answer s).toOption =
        some ((dealStore 1).describe "deal".toList) ∧
      known.asked s = 0 ∧ (known.work.perform s).1 = .ok (some "Won".toList) ∧
      recalled.asked s = 1 ∧ (recalled.work.perform s).1 = .ok none ∧
      log.first? refused.key = none ∧
      refused.answer s = .error (.unavailable "refused".toList) ∧
      (refused.work.perform s).1 = .error (.unavailable "refused".toList) := by
  intro s log known recalled refused
  have hlength : log.length = 4 := by
    decide +kernel
  have hanswered : log.answered.dedup.length = 2 := by
    decide +kernel
  have hfirst : (log.first? known.key).or (known.answer s).toOption =
      some ((dealStore 1).describe "deal".toList) := by
    decide +kernel
  have hlabel : known.labelIn ((dealStore 1).describe "deal".toList) = some "Won".toList := by
    decide +kernel
  have hrecalled : (log.first? recalled.key).or (recalled.answer s).toOption =
      some ((dealStore 1).describe "deal".toList) := by
    decide +kernel
  have hnone : log.first? refused.key = none := by
    decide +kernel
  obtain ⟨hasked, -, -, hknown, hsize, hmisses, -⟩ := labels_told_once stageLookups known
  obtain ⟨hasked', -, -, hlabels, -⟩ := labels_told_once stageLookups recalled
  obtain ⟨-, -, hrefused, -⟩ := labels_told_once stageLookups refused
  refine ⟨hmisses.trans hlength, hsize.trans hanswered, hfirst, hasked.trans ?_, ?_,
    hasked'.trans ?_, ?_, hnone, rfl, ?_⟩
  · decide +kernel
  · exact (hknown _ hfirst).trans (congrArg Except.ok hlabel)
  · decide +kernel
  · exact (hlabels _ hrecalled).trans (by decide +kernel)
  · exact (hrefused _ hnone rfl).1

end MailMerge.Filling
