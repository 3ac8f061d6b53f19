import MailMerge.Proofs.Gaps

/-!
# What is asked for along a path

A path is walked one step at a time. A step is made from the record that the path has come
to: it looks for the record that a field of it points at, with one column, the next field of
the path. The first step that finds no field to follow, or no record, is the last. Where the
path has come to its last field, one more call may be needed: for the name of a reference
that carries none, or for the schema of the record's entity when the session has not been
told what the field needs of it. A path asks for nothing else.

So a path is done after at most as many calls as it has fields, wherever its references
lead and however often they come back to the same record.

Main facts:

* `getElem?_legs_iff`: which steps a path makes;
* `length_legs_lt`: a path with fields has fewer steps than fields;
* `exists_lastLook_showField`: what the last field asks for;
* `calls_of_resolve`: what a path asks for.
-/

namespace MailMerge.Filling

open Session Work

/-- A step of a path: from a record to one that a field of it points at, of which one column
is asked for. -/
structure Leg where
  start : Record
  target : Reference
  column : Text

/-- The call that a step makes. -/
def Leg.call (leg : Leg) : Call :=
  .retrieve leg.target.entity leg.target.id (.only [leg.column])

/-- The steps of a path, the last one included that finds no record. -/
def legs (source : Source) : List Text → Record → List Leg
  | field :: next :: rest, record =>
    match record.reference? field with
    | none => []
    | some target =>
      ⟨record, target, next⟩ ::
        match source.retrieve target.entity target.id (.only [next]) with
        | .ok related => legs source (next :: rest) related
        | .error _ => []
  | _, _ => []

/-- What the last field of a path asks for at the record that was reached. -/
inductive LastLook (s : Session) (field : Text) (reached : Record) : Call → Prop
  /-- The name of a reference that does not carry one: `ym_name` for a field that starts with
  `ym_`, and `name` for any other. -/
  | name {target : Reference}
      (href : reached.reference? field = some target)
      (hname : target.name.filter (fun name => !Text.blank name) = none) :
      LastLook s field reached
        (.retrieve target.entity target.id
          (.only [if "ym_".toList <+: field then "ym_name".toList else "name".toList]))
  /-- The schema that the text of the field hangs on. -/
  | schema
      (hawaits : Awaits s field reached) :
      LastLook s field reached (.describe reached.entity)

section Steps

variable {source : Source} {field next : Text} {rest left : List Text}
  {record reached : Record} {target : Reference}

theorem legs_of_no_reference
    (href : record.reference? field = none) :
    legs source (field :: next :: rest) record = [] := by
  simp only [legs, href]

theorem legs_of_found
    (href : record.reference? field = some target)
    {related : Record}
    (hfound : source.retrieve target.entity target.id (.only [next]) = .ok related) :
    legs source (field :: next :: rest) record =
      ⟨record, target, next⟩ :: legs source (next :: rest) related := by
  simp only [legs, href, hfound]

theorem legs_of_lost
    (href : record.reference? field = some target)
    {e : StoreError}
    (hlost : source.retrieve target.entity target.id (.only [next]) = .error e) :
    legs source (field :: next :: rest) record = [⟨record, target, next⟩] := by
  simp only [legs, href, hlost]

theorem Leads.length_le
    {path : List Text}
    (h : Leads source path record left reached) :
    left.length ≤ path.length := by
  induction h with
  | here => exact Nat.le_refl _
  | step _ _ _ ih => exact Nat.le_trans ih (Nat.le_succ _)

/-- The whole path is left only where it starts. -/
theorem Leads.eq_start
    {path : List Text}
    (h : Leads source path record path reached) :
    reached = record := by
  cases h with
  | here => rfl
  | step _ _ hrest => exact absurd hrest.length_le (by simp)

/-- A path leads on only by a step to a record that is there. -/
theorem leads_step_iff
    (hleft : left.length ≤ (next :: rest).length) :
    Leads source (field :: next :: rest) record left reached ↔
      ∃ target related, record.reference? field = some target ∧
        source.retrieve target.entity target.id (.only [next]) = .ok related ∧
        Leads source (next :: rest) related left reached := by
  constructor
  · intro h
    cases h with
    | here => exact absurd hleft (by simp)
    | step href hfound hrest => exact ⟨_, _, href, hfound, hrest⟩
  · rintro ⟨target, related, href, hfound, hrest⟩
    exact .step href hfound hrest

/-- Nothing but a step leads from a path with more than one field to its last field. -/
theorem leads_last_iff
    {last : Text} :
    Leads source (field :: next :: rest) record [last] reached ↔
      ∃ target related, record.reference? field = some target ∧
        source.retrieve target.entity target.id (.only [next]) = .ok related ∧
        Leads source (next :: rest) related [last] reached :=
  leads_step_iff (by simp)

theorem head?_legs
    {leg : Leg} :
    (legs source (field :: next :: rest) record)[0]? = some leg ↔
      record.reference? field = some leg.target ∧ leg = ⟨record, leg.target, next⟩ := by
  rcases href : record.reference? field with _ | target
  · simp [legs_of_no_reference href]
  · have hhead : (legs source (field :: next :: rest) record)[0]? =
        some ⟨record, target, next⟩ := by
      rcases hfound : source.retrieve target.entity target.id (.only [next]) with e | related
      · rw [legs_of_lost href hfound]
        rfl
      · rw [legs_of_found href hfound]
        rfl
    rw [hhead]
    constructor
    · intro h
      obtain rfl := Option.some.inj h
      exact ⟨rfl, rfl⟩
    · rintro ⟨htarget, hleg⟩
      rw [hleg, Option.some.inj htarget]

/-- A path has a step for each record that it leads to and that is left by a field which
points at another one: induction on the path. -/
theorem getElem?_legs_iff
    {path : List Text} {i : Nat} {leg : Leg} :
    (legs source path record)[i]? = some leg ↔
      ∃ field rest, path.drop i = field :: leg.column :: rest ∧
        Leads source path record (path.drop i) leg.start ∧
        leg.start.reference? field = some leg.target := by
  induction path generalizing record i with
  | nil =>
      simp [legs]
  | cons field tail ih =>
      rcases tail with _ | ⟨next, rest⟩
      · cases i <;> simp [legs]
      · cases i with
        | zero =>
            rw [head?_legs, List.drop_zero]
            constructor
            · rintro ⟨href, hleg⟩
              rw [hleg]
              exact ⟨field, rest, rfl, .here _ _, href⟩
            · rintro ⟨_, _, hpath, hleads, href⟩
              obtain ⟨rfl, hcolumn, -⟩ : field = _ ∧ next = leg.column ∧ rest = _ := by
                simpa using hpath
              rw [hleads.eq_start] at href
              refine ⟨href, ?_⟩
              rw [hcolumn, ← hleads.eq_start]
        | succ i =>
            have hleft : ((next :: rest).drop i).length ≤ (next :: rest).length := by
              rw [List.length_drop]
              exact Nat.sub_le _ _
            simp only [List.drop_succ_cons, leads_step_iff hleft]
            rcases href : record.reference? field with _ | target
            · simp [legs_of_no_reference href]
            · rcases hfound : source.retrieve target.entity target.id (.only [next])
                with e | related
              · simp [legs_of_lost href hfound, hfound]
              · rw [legs_of_found href hfound, List.getElem?_cons_succ, ih]
                simp [hfound]

theorem length_legs_lt
    (source : Source)
    {path : List Text}
    (hpath : path ≠ [])
    (record : Record) :
    (legs source path record).length < path.length := by
  induction path generalizing record with
  | nil =>
      exact absurd rfl hpath
  | cons field tail ih =>
      rcases tail with _ | ⟨next, rest⟩
      · simp [legs]
      · rcases href : record.reference? field with _ | target
        · simp [legs_of_no_reference href]
        · rcases hfound : source.retrieve target.entity target.id (.only [next])
            with e | related
          · simp [legs_of_lost href hfound]
          · rw [legs_of_found href hfound, List.length_cons, List.length_cons]
            exact Nat.succ_lt_succ (ih (List.cons_ne_nil _ _) related)

end Steps

section Looks

variable {source : Source} {s : Session} {field : Text} {record : Record}

/-- Calls and counters are no part of what a last look hangs on. -/
theorem lastLook_record_iff
    {made call : Call} :
    LastLook (s.record made) field record call ↔ LastLook s field record call := by
  constructor
  · rintro (⟨href, hname⟩ | hawaits)
    · exact .name href hname
    · exact .schema hawaits
  · rintro (⟨href, hname⟩ | hawaits)
    · exact .name href hname
    · exact .schema hawaits

/-- A schema is asked for when it is not known. -/
theorem calls_schemaOf
    (source : Source)
    (s : Session)
    (entity : Text) :
    ((schemaOf source entity).perform s).2.calls =
      s.calls ++ if s.schemas.get? entity = none then [.describe entity] else [] := by
  rcases h : s.schemas.get? entity with _ | schema
  · rw [perform_schemaOf_of_unknown h]
    rcases source.describe entity <;> rfl
  · rw [perform_schemaOf_of_known h]
    simp

/-- The choices of a field are asked for when neither they nor their schema are known. -/
theorem calls_labelFor
    (entity field : Text) (code : Int32) :
    ((labelFor (schemaOf source entity) entity field code).perform s).2.calls =
      s.calls ++
        if s.choices.get? (entity, field) = none ∧ s.schemas.get? entity = none then
          [.describe entity] else [] := by
  rcases h : s.choices.get? (entity, field) with _ | choices
  · have hcalls := calls_schemaOf source (s.count Counters.addMiss) entity
    rw [perform_labelFor_of_unknown h]
    simp only [true_and]
    rcases hw : (schemaOf source entity).perform (s.count Counters.addMiss) with ⟨e | schema, s'⟩
    · rw [hw] at hcalls
      exact hcalls
    · rw [hw] at hcalls
      exact hcalls
  · rw [label_of_known h]
    simp [Session.count]

/-- A call that is made under a condition, as the last look. -/
theorem exists_last_of_condition
    {P : Call → Prop} {q : Prop} [Decidable q]
    {before after : List Call} {made : Call}
    (hafter : after = before ++ if q then [made] else [])
    (hP : ∀ call, P call ↔ q ∧ call = made) :
    ∃ last : Option Call, after = before ++ last.toList ∧ ∀ call, last = some call ↔ P call := by
  by_cases hq : q
  · refine ⟨some made, ?_, ?_⟩
    · rw [hafter, if_pos hq]
      rfl
    · intro call
      simp [hP, hq, eq_comm]
  · refine ⟨none, ?_, ?_⟩
    · rw [hafter, if_neg hq]
      rfl
    · intro call
      simp [hP, hq]

theorem get?_of_reference?
    {target : Reference}
    (h : record.reference? field = some target) :
    record.get? field = some (.reference target) := by
  unfold Record.reference? at h
  split at h
  · next target' hget =>
    rw [hget, Option.some.inj h]
  · cases h

/-- A value other than a reference leaves only the schema to be asked for. -/
theorem lastLook_iff_of_not_reference
    {v : Value}
    (hv : record.get? field = some v)
    (href : ∀ target, v ≠ .reference target)
    {call : Call} :
    LastLook s field record call ↔ Awaits s field record ∧ call = .describe record.entity := by
  constructor
  · rintro (⟨hreference, -⟩ | hawaits)
    · rw [get?_of_reference? hreference] at hv
      exact absurd (Option.some.inj hv).symm (href _)
    · exact ⟨hawaits, rfl⟩
  · rintro ⟨hawaits, rfl⟩
    exact .schema hawaits

theorem calls_referenceName
    {target : Reference} :
    ((referenceName source field target).perform s).2.calls =
      s.calls ++
        if target.name.filter (fun name => !Text.blank name) = none then
          [.retrieve target.entity target.id
            (.only [if "ym_".toList <+: field then "ym_name".toList else "name".toList])]
        else [] := by
  rw [← nameField_eq]
  unfold referenceName
  rcases target.name.filter fun name => !Text.blank name with _ | name
  · rw [perform_bind_pure, perform_orMissing_snd]
    rfl
  · simp

/-- What the last field asks for, by the kind of its value. -/
theorem exists_lastLook_showField
    (source : Source)
    (offsetHours : Int)
    (field : Text)
    (record : Record)
    (s : Session) :
    ∃ last : Option Call,
      ((showField source offsetHours field record).perform s).2.calls = s.calls ++ last.toList ∧
        ∀ call, last = some call ↔ LastLook s field record call := by
  unfold showField
  rcases hv : record.get? field with _ | v
  · refine ⟨none, by simp, ?_⟩
    intro call
    simp only [reduceCtorEq, false_iff]
    rintro (⟨href, -⟩ | ⟨-, v, hv', -⟩)
    · rw [get?_of_reference? href] at hv
      cases hv
    · rw [hv] at hv'
      cases hv'
  · cases v with
    | reference target =>
        have href : record.reference? field = some target := by
          simp [Record.reference?, hv]
        refine exists_last_of_condition calls_referenceName ?_
        intro call
        constructor
        · rintro (⟨href', hname⟩ | hawaits)
          · obtain rfl := Option.some.inj (href.symm.trans href')
            exact ⟨hname, rfl⟩
          · exact absurd ((awaits_iff hv).1 hawaits).1 (by simp [Value.isDescribed])
        · rintro ⟨hname, rfl⟩
          exact .name href hname
    | optionSet code =>
        simp only [perform_bind_pure]
        refine exists_last_of_condition (calls_labelFor record.entity field code) ?_
        intro call
        rw [lastLook_iff_of_not_reference hv (by simp), awaits_iff hv]
        simp [Value.isDescribed, and_comm]
    | dateTime t =>
        refine ⟨none, by simp, ?_⟩
        intro call
        rw [lastLook_iff_of_not_reference hv (by simp), awaits_iff hv]
        simp [Value.isDescribed]
    | null => exact absurd hv (record.get?_ne_null field)
    | _ =>
        simp only [perform_bind_pure]
        refine exists_last_of_condition (calls_schemaOf source s record.entity) ?_
        intro call
        rw [lastLook_iff_of_not_reference hv (by simp), awaits_iff hv]
        simp [Value.isDescribed]

end Looks

/-- What a path asks for: induction on the path. What the last look hangs on does not change
on the way. -/
theorem exists_lastLook_follow
    (source : Source)
    (offsetHours : Int)
    (path : List Text)
    (record : Record)
    (s : Session) :
    ∃ last : Option Call,
      ((follow source offsetHours path record).perform s).2.calls =
        s.calls ++ (legs source path record).map Leg.call ++ last.toList ∧
      ∀ call, last = some call ↔
        ∃ field reached, Leads source path record [field] reached ∧
          LastLook s field reached call := by
  induction path generalizing record s with
  | nil =>
      refine ⟨none, by simp [follow, legs], ?_⟩
      intro call
      simp only [reduceCtorEq, false_iff]
      rintro ⟨field, reached, hleads, -⟩
      exact absurd hleads.length_le (by simp)
  | cons field tail ih =>
      rcases tail with _ | ⟨next, rest⟩
      · obtain ⟨last, hcalls, hlast⟩ := exists_lastLook_showField source offsetHours field record s
        refine ⟨last, by simpa [follow, legs] using hcalls, ?_⟩
        intro call
        rw [hlast]
        constructor
        · intro hlook
          exact ⟨field, record, .here _ _, hlook⟩
        · rintro ⟨_, _, ⟨⟩, hlook⟩
          exact hlook
      · unfold follow
        rcases href : record.reference? field with _ | target
        · refine ⟨none, by simp [legs_of_no_reference href], ?_⟩
          intro call
          simp [leads_last_iff, href]
        · rcases hfound : source.retrieve target.entity target.id (.only [next])
            with e | related
          · refine ⟨none, ?_, ?_⟩
            · rw [legs_of_lost href hfound]
              simp only [perform_bind, perform_orMissing, perform_retrieve, hfound]
              by_cases hgap : e.isNotFound = true <;> simp [hgap, Session.record, Leg.call]
            · intro call
              simp [leads_last_iff, href, hfound]
          · obtain ⟨last, hcalls, hlast⟩ := ih related
              (s.record (.retrieve target.entity target.id (.only [next])))
            refine ⟨last, ?_, ?_⟩
            · rw [legs_of_found href hfound]
              simp only [perform_bind, perform_orMissing, perform_retrieve, hfound]
              rw [hcalls]
              simp [Session.record, Leg.call]
            · intro call
              rw [hlast]
              simp [leads_last_iff, href, hfound, lastLook_record_iff]

/-- A path asks for the records that its steps look for, in order, and then for at most one
thing more. Step `i` is made exactly when the path leads, over records that were found, to a
record whose field `i` points at another one; it looks for that one and asks for the column
that field `i + 1` names. So the first step that finds nothing, or fails, is the last. The
last look is made exactly when the path leads to its last field and the session lacks
what the field needs. So a path of `k + 1` fields makes at most `k + 1` calls. -/
theorem calls_of_resolve
    (source : Source)
    (offsetHours : Int)
    (path : Text)
    (record : Record)
    (s : Session) :
    let fields := Text.fields '.' path
    ∃ (steps : List Leg) (last : Option Call),
      ((resolve source offsetHours path record).perform s).2.calls =
        s.calls ++ steps.map Leg.call ++ last.toList ∧
      (∀ i leg, steps[i]? = some leg ↔
        ∃ field rest, fields.drop i = field :: leg.column :: rest ∧
          Leads source fields record (fields.drop i) leg.start ∧
          leg.start.reference? field = some leg.target) ∧
      (∀ call, last = some call ↔
        ∃ field reached, Leads source fields record [field] reached ∧
          LastLook s field reached call) ∧
      steps.length + last.toList.length ≤ fields.length := by
  intro fields
  obtain ⟨last, hcalls, hlast⟩ := exists_lastLook_follow source offsetHours fields record s
  refine ⟨legs source fields record, last, hcalls, fun i leg => getElem?_legs_iff, hlast, ?_⟩
  have hsteps := length_legs_lt source (Text.fields_ne_nil '.' path) record
  have hone : last.toList.length ≤ 1 := by
    cases last <;> simp
  change (legs source fields record).length < fields.length at hsteps
  omega

/-- A name that a reference does not carry is asked for at the record that it points at, in
`ym_name` for a field of the vendor and in `name` for any other. -/
theorem calls_of_resolve_unnamed :
    ((resolve (linkedStore none).toSource 0 "parent.ym_owner".toList linkedDeal).perform
        .fresh).2.calls =
      [.retrieve "deal".toList .zero (.only ["ym_owner".toList]),
        .retrieve "user".toList .zero (.only ["ym_name".toList])] ∧
    ((resolve (linkedStore none).toSource 0 "client".toList linkedDeal).perform .fresh).2.calls =
      [.retrieve "account".toList .zero (.only ["name".toList])] := by
  constructor
  · obtain ⟨steps, last, hcalls, hsteps, hlast, hbound⟩ := calls_of_resolve
      (linkedStore none).toSource 0 "parent.ym_owner".toList linkedDeal .fresh
    have hstep : steps[0]? = some
        ⟨linkedDeal, ⟨"deal".toList, .zero, none⟩, "ym_owner".toList⟩ :=
      (hsteps 0 _).2 ⟨"parent".toList, [], rfl, .here _ _, rfl⟩
    have hparent : linkedDeal.reference? "parent".toList =
        some ⟨"deal".toList, .zero, none⟩ := rfl
    have howner : (linkedDeal.project (.only ["ym_owner".toList])).reference?
        "ym_owner".toList = some ⟨"user".toList, .zero, some [' ']⟩ := rfl
    have hlook : last = some (.retrieve "user".toList .zero (.only ["ym_name".toList])) :=
      (hlast _).2 ⟨_, _, .step hparent rfl (.here _ _), .name howner rfl⟩
    rcases steps with _ | ⟨first, _ | ⟨second, rest⟩⟩
    · cases hstep
    · rw [hcalls, hlook, Option.some.inj hstep]
      rfl
    · rw [hlook] at hbound
      exact absurd hbound (by simp [Text.fields])
  · obtain ⟨steps, last, hcalls, -, hlast, hbound⟩ := calls_of_resolve
      (linkedStore none).toSource 0 "client".toList linkedDeal .fresh
    have hclient : linkedDeal.reference? "client".toList =
        some ⟨"account".toList, .zero, none⟩ := rfl
    have hlook : last = some (.retrieve "account".toList .zero (.only ["name".toList])) :=
      (hlast _).2 ⟨_, _, .here _ _, .name hclient rfl⟩
    rcases steps with _ | ⟨first, rest⟩
    · rw [hcalls, hlook]
      rfl
    · rw [hlook] at hbound
      exact absurd hbound (by simp [Text.fields])

/-- A deal that is its own parent is looked for at every step. -/
example :
    ((resolve (dealStore 2).toSource 0 "parent.parent.stage".toList (dealRecord 1)).perform
        .fresh).2.calls =
      [.retrieve "deal".toList .zero (.only ["parent".toList]),
        .retrieve "deal".toList .zero (.only ["stage".toList]),
        .describe "deal".toList] := by
  decide +kernel

end MailMerge.Filling
