import MailMerge.Proofs.Steady
import MailMerge.Proofs.Storage
import MailMerge.Proofs.Wordings

/-!
# Registered queries over whole runs

Queries for related records are registered and built in any order. Building one
leaves its columns behind in the registered query, but columns are the one thing
that the next query does not take from there. So of all that went before only the
last registration under the name of the entity and the key field tells what is
built.

The name joins entity and key field with a hyphen. It tells both apart when the
entity has no hyphen, and the entities of directives have none.

Main facts:

* `overrideSeen_afterSteps`: after a run each name stands for its last registration;
* `overrideName_eq_iff`: names without a hyphen in the entity are told apart;
* `built_of_last_registration`: what is built after a run.
-/

namespace MailMerge.Filling

open Session Work

/-- What is asked of the queries for related records. -/
inductive QueryStep where
  /-- To put a query in the place of the usual one. -/
  | register (name : Text) (query : Query)
  /-- For the query of a list. -/
  | build (entity key : Text) (parent : Uuid) (columns : List Text)

namespace QueryStep

/-- The name and the query of a registration. -/
def registration? : QueryStep → Option (Text × Query)
  | register name query => some (name, query)
  | build _ _ _ _ => none

/-- The session after a step. -/
def after : QueryStep → Session → Session
  | register name query, s => ((addOverride (ε := StoreError) name query).perform s).2
  | build entity key parent columns, s =>
    ((Filling.build (ε := StoreError) entity key parent columns).perform s).2

/-- The session after several steps. -/
def afterSteps (steps : List QueryStep) (s : Session) : Session :=
  steps.foldl (fun s step => step.after s) s

/-- The query registered last under a name. -/
def registered? (steps : List QueryStep) (name : Text) : Option Query :=
  (Keyed.last? Prod.fst (steps.filterMap registration?) name).map Prod.snd

end QueryStep

open QueryStep

/-- What is built for a list after several steps in a new session. -/
def builtAfter (steps : List QueryStep) (entity key : Text) (parent : Uuid)
    (columns : List Text) : Except StoreError Query :=
  ((build entity key parent columns).perform (afterSteps steps .fresh)).1

/-- There are steps among which a registration under a name changes what is built for an
entity and a key field. -/
def Sways (name entity key : Text) : Prop :=
  ∃ before after query parent columns,
    builtAfter (before ++ .register name query :: after) entity key parent columns ≠
      builtAfter (before ++ after) entity key parent columns

section Runs

variable {steps : List QueryStep} {entity key name : Text} {query : Query}

theorem overrideSeen_register
    (s : Session)
    (n : Text) :
    ((register name query).after s).overrideSeen n =
      if name = n then some (query.entity, query.conditions) else s.overrideSeen n := by
  change Option.map _ ((s.overrides.set name query).get? n) = _
  rw [Dict.get?_set]
  by_cases h : name = n
  · rw [if_pos h, if_pos h]
    rfl
  · rw [if_neg h, if_neg h]
    rfl

/-- To build a query leaves no trace but its columns, which are not taken up again. -/
theorem overrideSeen_build
    (s : Session)
    (parent : Uuid)
    (columns : List Text)
    (n : Text) :
    ((QueryStep.build entity key parent columns).after s).overrideSeen n = s.overrideSeen n := by
  have halike : ((QueryStep.build entity key parent columns).after s).Alike
      (fun _ => .ok default) s :=
    perform_build_alike entity key parent columns s
  exact halike.override n

theorem registered?_concat_register
    (n : Text) :
    registered? (steps ++ [.register name query]) n =
      if name = n then some query else registered? steps n := by
  unfold registered?
  rw [List.filterMap_append, ← Keyed.find?_ofList, ← Keyed.find?_ofList]
  change Option.map _ ((Keyed.ofList (_ ++ [(name, query)])).find? n) = _
  rw [Keyed.ofList_concat, Keyed.find?_insert]
  by_cases h : name = n
  · rw [if_pos h, if_pos h]
    rfl
  · rw [if_neg h, if_neg h]

theorem registered?_concat_build
    (parent : Uuid)
    (columns : List Text)
    (n : Text) :
    registered? (steps ++ [.build entity key parent columns]) n = registered? steps n := by
  unfold registered?
  rw [List.filterMap_append]
  change Option.map _ (Keyed.last? _ (_ ++ []) n) = _
  rw [List.append_nil]

/-- After a run each name stands for the entity and the conditions of its last
registration: induction on the run, from its last step. -/
theorem overrideSeen_afterSteps
    (steps : List QueryStep)
    (n : Text) :
    (afterSteps steps .fresh).overrideSeen n =
      (registered? steps n).map fun query => (query.entity, query.conditions) := by
  induction steps using List.reverseRecOn with
  | nil =>
      rfl
  | append_singleton steps step ih =>
      have hrun : afterSteps (steps ++ [step]) .fresh = step.after (afterSteps steps .fresh) := by
        unfold afterSteps
        rw [List.foldl_append]
        rfl
      rw [hrun]
      cases step with
      | register name query =>
          rw [overrideSeen_register, registered?_concat_register, ih]
          by_cases h : name = n
          · rw [if_pos h, if_pos h]
            rfl
          · rw [if_neg h, if_neg h]
      | build entity key parent columns =>
          rw [overrideSeen_build, registered?_concat_build, ih]

theorem builtAfter_eq
    (steps : List QueryStep)
    (parent : Uuid)
    (columns : List Text) :
    builtAfter steps entity key parent columns =
      .ok (match registered? steps (overrideName entity key) with
        | some query => { query with columns := .only columns }
        | none => usualQuery entity key parent columns) := by
  unfold builtAfter
  rw [perform_build_fst, overrideSeen_afterSteps]
  rcases registered? steps (overrideName entity key) with _ | query <;> rfl

/-- Steps that register the same tell the same. -/
theorem builtAfter_congr
    {others : List QueryStep}
    (h : registered? steps (overrideName entity key) =
      registered? others (overrideName entity key))
    (parent : Uuid)
    (columns : List Text) :
    builtAfter steps entity key parent columns = builtAfter others entity key parent columns := by
  rw [builtAfter_eq, builtAfter_eq, h]

end Runs

section Names

variable {entity key entity' key' : Text}

theorem overrideName_eq_iff
    (h : '-' ∉ entity)
    (h' : '-' ∉ entity') :
    overrideName entity' key' = overrideName entity key ↔ entity = entity' ∧ key = key' := by
  have hbefore : ∀ e k : Text, '-' ∉ e → Text.before '-' (overrideName e k) = e :=
    fun e k he => Text.before_append_cons he k
  constructor
  · intro heq
    have hentity := congrArg (Text.before '-') heq
    rw [hbefore _ _ h', hbefore _ _ h] at hentity
    obtain rfl := hentity
    exact ⟨rfl, (List.cons.inj (List.append_cancel_left heq)).2.symm⟩
  · rintro ⟨rfl, rfl⟩
    rfl

theorem registered?_insert_of_ne
    {before after : List QueryStep}
    {name n : Text}
    (query : Query)
    (h : name ≠ n) :
    registered? (before ++ .register name query :: after) n = registered? (before ++ after) n := by
  unfold registered? Keyed.last?
  simp [List.filterMap_append, registration?, List.findRev?_eq_find?_reverse, h]

/-- A registration tells what is built under its own name and under no other. -/
theorem sways_iff
    {name : Text} :
    Sways name entity key ↔ name = overrideName entity key := by
  constructor
  · rintro ⟨before, after, query, parent, columns, hne⟩
    by_contra h
    exact hne (builtAfter_congr (registered?_insert_of_ne query h) parent columns)
  · rintro rfl
    refine ⟨[], [], ⟨entity, .all, []⟩, .zero, [], ?_⟩
    rw [builtAfter_eq, builtAfter_eq]
    simp [registered?, Keyed.last?, registration?, usualQuery]

end Names

/-- After any registrations and queries, what is built for an entity and a key field is
the query registered last under their name, with its entity and its conditions and the
columns at hand, or else the usual query. What was built before does not show, and a
registration under the name of another entity and key field does not either. -/
theorem built_of_last_registration
    (steps : List QueryStep)
    (entity key : Text)
    (parent : Uuid)
    (columns : List Text) :
    builtAfter steps entity key parent columns =
        .ok (match registered? steps (overrideName entity key) with
          | some query => ⟨query.entity, .only columns, query.conditions⟩
          | none => ⟨entity, .only columns, [⟨key, .equal, .id parent⟩]⟩) ∧
      builtAfter steps entity key parent columns =
        builtAfter (steps.filter fun step => step.registration?.isSome)
          entity key parent columns ∧
      (∀ t parts, Template.Directive.parse t = .related entity key parts →
        '-' ∉ entity ∧ '-' ∉ key) ∧
      ∀ entity' key', '-' ∉ entity → '-' ∉ entity' →
        (Sways (overrideName entity' key') entity key ↔ entity = entity' ∧ key = key') := by
  refine ⟨builtAfter_eq steps parent columns, ?_, ?_, ?_⟩
  · apply builtAfter_congr
    unfold registered?
    rw [List.filterMap_filter]
    congr 2
    apply List.filterMap_congr
    intro step _
    cases step <;> rfl
  · intro t parts h
    exact ⟨Template.Directive.no_hyphen_of_mem_related h List.mem_cons_self,
      Template.Directive.no_hyphen_of_mem_related h
        (List.mem_cons_of_mem _ List.mem_cons_self)⟩
  · intro entity' key' h h'
    rw [sways_iff, overrideName_eq_iff h h']

/-- Open tasks are put in the place of all tasks of a deal, for two lists, and notes in
the place of themselves. -/
def taskSteps : List QueryStep :=
  [.register "task-deal".toList ⟨"task".toList, .all, []⟩,
   .build "task".toList "deal".toList .zero ["ym_subject".toList],
   .register "task-deal".toList
     ⟨"task".toList, .all, [⟨"ym_closed".toList, .null, .null⟩]⟩,
   .build "task".toList "deal".toList .zero [],
   .register "note-deal".toList ⟨"note".toList, .all, []⟩]

theorem built_of_taskSteps :
    builtAfter taskSteps "task".toList "deal".toList .zero ["ym_owner".toList] =
        .ok ⟨"task".toList, .only ["ym_owner".toList],
          [⟨"ym_closed".toList, .null, .null⟩]⟩ ∧
      '-' ∉ "task".toList ∧ '-' ∉ "note".toList ∧
      ¬ Sways (overrideName "note".toList "deal".toList) "task".toList "deal".toList := by
  have h := built_of_last_registration taskSteps "task".toList "deal".toList .zero
    ["ym_owner".toList]
  refine ⟨h.1.trans rfl, by decide, by decide, ?_⟩
  rw [h.2.2.2 "note".toList "deal".toList (by decide) (by decide)]
  decide

end MailMerge.Filling
