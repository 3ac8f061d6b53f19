import MailMerge.Proofs.Success
import MailMerge.Web.Site
import Mathlib.Data.List.TakeWhile

/-!
# What a request lacks

A request over the records of a store is refused for one reason only: something that
it names, or has to name, is not there. `Service.Lacks` lists what can be lacking.
Each case says what must be there before the case is looked at, so that at most one
of them applies to a request. Nothing else that a template, a record or a query
holds keeps a letter from being made.

Main facts:

* `load_eq_error_iff`: what the template of a letter can lack;
* `fillFor_eq_error_iff`: a letter can lack its record besides;
* `Lacks.status_mem`: what is lacking is told by three outcomes;
* `answer_eq_error_iff_lacks`: a request is refused exactly for what it lacks.
-/

namespace MailMerge

theorem Text.trim_eq_nil_iff
    {t : Text} :
    trim t = [] ↔ ∀ c ∈ t, isBlank c = true := by
  unfold trim trimEnd dropEndWhile trimStart
  rw [List.reverse_eq_nil_iff, List.dropWhile_eq_nil_iff]
  constructor
  · intro h c hc
    rw [← List.takeWhile_append_dropWhile (p := isBlank) (l := t)] at hc
    rcases List.mem_append.1 hc with hfront | hrest
    · exact List.mem_takeWhile_imp hfront
    · exact h c (List.mem_reverse.2 hrest)
  · intro h c hc
    exact h c ((List.dropWhile_suffix isBlank).subset (List.mem_reverse.1 hc))

theorem Condition.holds_equal_text_iff
    {field t : Text} {r : Record} :
    holds ⟨field, .equal, .text t⟩ r = true ↔ r.text? field = some t := by
  unfold holds Record.text?
  rcases r.get? field with _ | v
  · simp
  · cases v <;> simp [Value.agrees, Value.same]

namespace Work

variable {ε ε' α β : Type}

theorem Succeeds.ne_error
    {w : Work ε α}
    (hw : Succeeds w)
    (s : Session) (e : ε) :
    (w.perform s).1 ≠ .error e := by
  obtain ⟨a, ha⟩ := hw s
  rw [ha]
  exact fun h => by cases h

/-- Work that succeeds adds no failure to what stands before it. -/
theorem bind_succeeds_eq_error_iff
    {w : Work ε α} {f : α → Work ε β}
    (hf : ∀ a, Succeeds (f a))
    {s : Session} {e : ε} :
    ((w >>= f).perform s).1 = .error e ↔ (w.perform s).1 = .error e := by
  rw [bind_eq_error_iff, or_iff_left]
  rintro ⟨a, -, h⟩
  exact (hf a).ne_error _ _ h

theorem mapError_eq_error_iff
    {f : ε → ε'} {w : Work ε α}
    {s : Session} {e : ε'} :
    ((mapError f w).perform s).1 = .error e ↔ ∃ e', (w.perform s).1 = .error e' ∧ f e' = e := by
  rw [perform_mapError]
  rcases w.perform s with ⟨e' | a, s'⟩ <;> simp

theorem Succeeds.mapError
    {w : Work ε α}
    (hw : Succeeds w)
    (f : ε → ε') :
    Succeeds (mapError f w) := by
  intro s
  obtain ⟨a, ha⟩ := hw s
  rw [perform_mapError]
  rcases h : w.perform s with ⟨e | b, s'⟩
  · rw [h] at ha
    cases ha
  · exact ⟨b, rfl⟩

end Work

namespace Store

variable (store : Store)

/-- Whether a store holds a record of an entity with an identifier. -/
def Holds (entity : Text) (id : Uuid) : Prop :=
  ∃ r ∈ store.records.members, r.entity = entity ∧ r.id = id

/-- The shared templates with a title. -/
def sharedTitled (title : Text) : List Record :=
  store.records.members.filter fun r =>
    r.entity = Filling.templateEntity ∧ r.text? "title".toList = some title

/-- The number of shared templates with a title. -/
def titled (title : Text) : Nat :=
  store.records.members.countP fun r =>
    r.entity = Filling.templateEntity ∧ r.text? "title".toList = some title

theorem holds_iff
    {entity : Text} {id : Uuid} :
    store.Holds entity id ↔ ∃ r, store.records.find? (entity, id) = some r := by
  rw [← Option.isSome_iff_exists]
  unfold Holds Keyed.find?
  rw [List.find?_isSome]
  simp only [Record.key, Prod.mk.injEq, decide_eq_true_iff]

theorem retrieve_eq_error_iff
    {entity : Text} {id : Uuid} {columns : Columns} {e : StoreError} :
    store.retrieve entity id columns = .error e ↔
      ¬ store.Holds entity id ∧ e = .notFound entity id := by
  rw [holds_iff]
  unfold retrieve
  rcases store.records.find? (entity, id) with _ | r
  · simp [eq_comm]
  · simp

/-- The shared templates with a title are those that are found for it. -/
theorem search_titleQuery
    (title : Text) :
    store.search (Filling.titleQuery title) =
      (store.sharedTitled title).map fun r => r.project (Filling.titleQuery title).columns := by
  unfold search sharedTitled
  congr 1
  refine List.filter_congr fun r _ => ?_
  rw [Bool.eq_iff_iff]
  simp only [Query.accepts, Filling.titleQuery, List.all_cons, List.all_nil, Bool.and_true,
    Bool.and_eq_true, decide_eq_true_iff, Condition.holds_equal_text_iff]
  exact and_congr_left fun _ => decide_eq_true_iff

theorem length_sharedTitled
    (title : Text) :
    (store.sharedTitled title).length = store.titled title :=
  List.countP_eq_length_filter.symm

theorem length_search_titleQuery
    (title : Text) :
    (store.search (Filling.titleQuery title)).length = store.titled title := by
  rw [search_titleQuery, List.length_map, length_sharedTitled]

end Store

namespace Filling

open Work

/-- What the template of a letter can lack. -/
inductive LacksTemplate (store : Store) : TemplateSource → TemplateError → Prop
  | unset : LacksTemplate store .unset .noSource
  | absent {title : Text}
      (hnone : store.titled title = 0) :
      LacksTemplate store (.named title) (.notFound title)
  | several {title : Text}
      (hseveral : 2 ≤ store.titled title) :
      LacksTemplate store (.named title) (.ambiguous title (store.titled title))
  | unstored {id : Uuid}
      (hid : ¬ store.Holds userTemplateEntity id) :
      LacksTemplate store (.user id) (.store (.notFound userTemplateEntity id))

section Templates

variable (store : Store) {s : Session} {e : TemplateError}

theorem loadNamed_eq_error_iff
    {title : Text} :
    ((loadNamed store.toSource title).perform s).1 = .error e ↔
      LacksTemplate store (.named title) e := by
  have hfound : store.toSource.search (titleQuery title) =
      .ok (store.search (titleQuery title)) := rfl
  have hlength := store.length_search_titleQuery title
  unfold loadNamed
  simp only [perform_bind, perform_mapError, perform_search, hfound]
  constructor
  · intro h
    rcases hrs : store.search (titleQuery title) with _ | ⟨r, _ | ⟨q, rs⟩⟩
    · rw [hrs] at h hlength
      obtain rfl := Except.error.inj h
      exact .absent hlength.symm
    · rw [hrs] at h
      cases h
    · rw [hrs] at h
      obtain rfl := Except.error.inj h
      rw [← hrs, hlength]
      exact .several (by rw [← hlength, hrs]; simp)
  · rintro (_ | hnone | hseveral)
    · rw [List.length_eq_zero_iff.1 (hlength.trans hnone)]
      rfl
    · rw [← hlength] at hseveral ⊢
      rcases hrs : store.search (titleQuery title) with _ | ⟨r, _ | ⟨q, rs⟩⟩
      · simp [hrs] at hseveral
      · simp [hrs] at hseveral
      · rfl

theorem loadUser_eq_error_iff
    {id : Uuid} :
    ((loadUser store.toSource id).perform s).1 = .error e ↔
      LacksTemplate store (.user id) e := by
  unfold loadUser
  rw [bind_succeeds_eq_error_iff fun r => succeeds_pure _, mapError_eq_error_iff]
  have hcall : ∀ e', ((retrieve store.toSource userTemplateEntity id
      userTemplateColumns).perform s).1 = .error e' ↔
        ¬ store.Holds userTemplateEntity id ∧ e' = .notFound userTemplateEntity id :=
    fun _ => store.retrieve_eq_error_iff
  constructor
  · rintro ⟨e', he', rfl⟩
    obtain ⟨hid, rfl⟩ := (hcall e').1 he'
    exact .unstored hid
  · rintro (_ | _ | _ | hid)
    exact ⟨_, (hcall _).2 ⟨hid, rfl⟩, rfl⟩

/-- A template is not loaded exactly for what it lacks. -/
theorem load_eq_error_iff
    {template : TemplateSource} :
    ((load store.toSource template).perform s).1 = .error e ↔ LacksTemplate store template e := by
  unfold load
  cases template with
  | named title =>
      exact (bind_succeeds_eq_error_iff fun raw => succeeds_pure _).trans
        (loadNamed_eq_error_iff store)
  | user id =>
      exact (bind_succeeds_eq_error_iff fun raw => succeeds_pure _).trans
        (loadUser_eq_error_iff store)
  | unset =>
      constructor
      · intro h
        obtain rfl := Except.error.inj h
        exact .unset
      · rintro ⟨⟩
        rfl

end Templates

theorem perform_counted_fst
    {ε α : Type}
    (w : Work ε α)
    (s : Session) :
    ((counted w).perform s).1 = (w.perform s).1 := by
  unfold counted perform
  dsimp only
  rcases w s with ⟨e | a, s'⟩
  · rfl
  · rfl

section Letters

variable {setup : Setup} {store : Store} (hsource : setup.source = store.toSource)
include hsource

/-- A letter that is filled can lack its record, and with the record its template. -/
theorem fillFor_eq_error_iff
    {template : TemplateSource} {target : Reference}
    {s : Session} {e : TemplateError} :
    ((fillFor setup template target).perform s).1 = .error e ↔
      (¬ store.Holds target.entity target.id ∧
        e = .store (.notFound target.entity target.id)) ∨
      (store.Holds target.entity target.id ∧ LacksTemplate store template e) := by
  have htail : ∀ (record : Record) (raw : Letter), Succeeds (do
      let subject ← mapError TemplateError.store (expand setup record raw.subject)
      let body ← mapError TemplateError.store (expand setup record raw.body)
      return (⟨subject, body⟩ : Letter)) := fun record raw =>
    ((succeeds_expandAt hsource _ record raw.subject).mapError _).bind fun subject =>
      ((succeeds_expandAt hsource _ record raw.body).mapError _).bind fun body =>
        succeeds_pure _
  have hcall : ((mapError TemplateError.store (retrieve setup.source target.entity target.id
      .all)).perform s).1 = (store.retrieve target.entity target.id .all).mapError
        TemplateError.store := by
    rw [perform_mapError, perform_retrieve, hsource]
    show _ = Except.mapError _ (store.toSource.retrieve target.entity target.id .all)
    rcases store.toSource.retrieve target.entity target.id .all with e | r <;> rfl
  unfold fillFor
  rw [bind_eq_error_iff, hcall]
  simp only [bind_succeeds_eq_error_iff (htail _), hsource, load_eq_error_iff]
  rw [Store.holds_iff]
  unfold Store.retrieve
  rcases store.records.find? (target.entity, target.id) with _ | r
  · simp [Except.mapError, eq_comm]
  · simp [Except.mapError]

end Letters

end Filling

namespace Service

open Filling Work

namespace Request

variable (r : Request)

/-- A request without a name, or with a blank one. -/
def Nameless : Prop :=
  ∀ name, r.templateName = some name → ∀ c ∈ name, Text.isBlank c = true

/-- A request whose name is not blank and is a title once the blanks around it are
gone. -/
def Titled (title : Text) : Prop :=
  ∃ name, r.templateName = some name ∧ (∃ c ∈ name, Text.isBlank c = false) ∧
    Text.trim name = title

/-- A request whose record is stored, and that has a record if it has tokens. -/
structure Ready (store : Store) : Prop where
  holds : ∀ target, r.record = some target → store.Holds target.entity target.id
  tokens : r.record = none → r.tokens.members = []

end Request

/-- What a request lacks. -/
inductive Lacks (store : Store) (r : Request) : Failure → Prop
  | record
      (hrecord : r.record = none)
      (htokens : r.tokens.members ≠ []) :
      Lacks store r (.invalid "substitutions require a record".toList)
  | target {target : Reference}
      (hrecord : r.record = some target)
      (htarget : ¬ store.Holds target.entity target.id) :
      Lacks store r (.template (.store (.notFound target.entity target.id)))
  | source
      (hready : r.Ready store)
      (hname : r.Nameless)
      (hid : r.userTemplateId = none) :
      Lacks store r (.template .noSource)
  | template {title : Text}
      (hready : r.Ready store)
      (htitle : r.Titled title)
      (hnone : store.titled title = 0) :
      Lacks store r (.template (.notFound title))
  | choice {title : Text}
      (hready : r.Ready store)
      (htitle : r.Titled title)
      (hseveral : 2 ≤ store.titled title) :
      Lacks store r (.template (.ambiguous title (store.titled title)))
  | userTemplate {id : Uuid}
      (hready : r.Ready store)
      (hname : r.Nameless)
      (hid : r.userTemplateId = some id)
      (hstored : ¬ store.Holds userTemplateEntity id) :
      Lacks store r (.template (.store (.notFound userTemplateEntity id)))

theorem Lacks.status_mem
    {store : Store} {r : Request} {f : Failure}
    (h : Lacks store r f) :
    f.status ∈ [Status.badRequest, .notFound, .conflict] := by
  cases h <;> simp [Failure.status, Failure.outcome]

namespace Request

variable {r : Request}

theorem source_of_titled
    {title : Text}
    (h : r.Titled title) :
    r.source = .named title := by
  obtain ⟨name, hname, ⟨c, hc, hblank⟩, rfl⟩ := h
  refine source_of_title hname fun htrim => ?_
  rw [Text.trim_eq_nil_iff.1 htrim c hc] at hblank
  cases hblank

theorem source_of_nameless
    (h : r.Nameless) :
    r.source = match r.userTemplateId with
      | some id => .user id
      | none => .unset := by
  have hnone : (r.templateName.map Text.trim).filter (· ≠ []) = none := by
    rcases hname : r.templateName with _ | name
    · rfl
    · have htrim : Text.trim name = [] := Text.trim_eq_nil_iff.2 (h name hname)
      simp [htrim, Option.filter]
  unfold source TemplateSource.select
  rw [hnone]
  rcases r.userTemplateId with _ | id <;> rfl

theorem nameless_or_titled
    (r : Request) :
    r.Nameless ∨ ∃ title, r.Titled title := by
  by_cases h : r.Nameless
  · exact .inl h
  · simp only [Nameless, not_forall, Bool.not_eq_true] at h
    obtain ⟨name, hname, c, hc, hblank⟩ := h
    exact .inr ⟨_, name, hname, ⟨c, hc, hblank⟩, rfl⟩

end Request

section Situations

variable {store : Store} {r : Request} {f : Failure}

/-- But for its record, a request lacks something only when it is ready. -/
theorem Lacks.ready_or
    (h : Lacks store r f) :
    r.Ready store ∨
      (r.record = none ∧ f = .invalid "substitutions require a record".toList) ∨
      ∃ target, r.record = some target ∧
        f = .template (.store (.notFound target.entity target.id)) := by
  cases h with
  | record hrecord => exact .inr (.inl ⟨hrecord, rfl⟩)
  | target hrecord => exact .inr (.inr ⟨_, hrecord, rfl⟩)
  | source hready => exact .inl hready
  | template hready => exact .inl hready
  | choice hready => exact .inl hready
  | userTemplate hready => exact .inl hready

theorem lacks_iff_of_no_record
    (hrecord : r.record = none)
    (htokens : r.tokens.members ≠ []) :
    Lacks store r f ↔ f = .invalid "substitutions require a record".toList := by
  constructor
  · intro h
    rcases h.ready_or with hready | ⟨-, hf⟩ | ⟨target, htarget, -⟩
    · exact absurd (hready.tokens hrecord) htokens
    · exact hf
    · exact absurd (hrecord.symm.trans htarget) (by simp)
  · rintro rfl
    exact .record hrecord htokens

theorem lacks_iff_of_not_holds
    {target : Reference}
    (hrecord : r.record = some target)
    (htarget : ¬ store.Holds target.entity target.id) :
    Lacks store r f ↔ f = .template (.store (.notFound target.entity target.id)) := by
  constructor
  · intro h
    rcases h.ready_or with hready | ⟨hnone, -⟩ | ⟨target', hsame, hf⟩
    · exact absurd (hready.holds _ hrecord) htarget
    · exact absurd (hrecord.symm.trans hnone) (by simp)
    · obtain rfl := Option.some.inj (hrecord.symm.trans hsame)
      exact hf
  · rintro rfl
    exact .target hrecord htarget

/-- A request that is ready lacks what its template lacks. -/
theorem lacks_iff_of_ready
    (hready : r.Ready store) :
    Lacks store r f ↔ ∃ e, LacksTemplate store r.source e ∧ .template e = f := by
  constructor
  · intro h
    cases h with
    | record hrecord htokens =>
        exact absurd (hready.tokens hrecord) htokens
    | target hrecord htarget =>
        exact absurd (hready.holds _ hrecord) htarget
    | source _ hname hid =>
        rw [Request.source_of_nameless hname, hid]
        exact ⟨_, .unset, rfl⟩
    | template _ htitle hnone =>
        rw [Request.source_of_titled htitle]
        exact ⟨_, .absent hnone, rfl⟩
    | choice _ htitle hseveral =>
        rw [Request.source_of_titled htitle]
        exact ⟨_, .several hseveral, rfl⟩
    | userTemplate _ hname hid hstored =>
        rw [Request.source_of_nameless hname, hid]
        exact ⟨_, .unstored hstored, rfl⟩
  · rintro ⟨e, h, rfl⟩
    rcases r.nameless_or_titled with hname | ⟨title, htitle⟩
    · rw [Request.source_of_nameless hname] at h
      rcases hid : r.userTemplateId with _ | id
      · rw [hid] at h
        cases h
        exact .source hready hname hid
      · rw [hid] at h
        cases h with
        | unstored hstored =>
            exact .userTemplate hready hname hid hstored
    · rw [Request.source_of_titled htitle] at h
      cases h with
      | absent hnone =>
          exact .template hready htitle hnone
      | several hseveral =>
          exact .choice hready htitle hseveral

end Situations

section Answers

variable {setup : Setup} {r : Request} {f : Failure}

theorem answer_eq_error_iff_of_record
    {target : Reference}
    (hrecord : r.record = some target) :
    (answer setup r).1 = .error f ↔
      ∃ e, ((fillFor setup r.source target).perform (withFilters .fresh r.filters)).1 =
        .error e ∧ .template e = f := by
  unfold answer letter
  rw [perform_bind, perform_update, hrecord]
  have hfill : ∀ e, ((fill setup r.source target).perform
      (withFilters .fresh r.filters)).1 = .error e ↔ ((fillFor setup r.source target).perform
        (withFilters .fresh r.filters)).1 = .error e := by
    intro e
    unfold fill
    rw [perform_counted_fst]
  by_cases htokens : r.tokens.members.isEmpty = true
  · simp only [htokens, if_true, mapError_eq_error_iff, hfill]
  · have hfillWith : ∀ e, ((fillWith setup r.source target r.tokens).perform
        (withFilters .fresh r.filters)).1 = .error e ↔ ((fill setup r.source target).perform
          (withFilters .fresh r.filters)).1 = .error e :=
      fun e => bind_succeeds_eq_error_iff fun letter => succeeds_pure _
    simp only [htokens, Bool.false_eq_true, if_false, mapError_eq_error_iff, hfillWith, hfill]

theorem answer_eq_error_iff_of_no_record
    (hrecord : r.record = none)
    (htokens : r.tokens.members = []) :
    (answer setup r).1 = .error f ↔
      ∃ e, ((load setup.source r.source).perform (withFilters .fresh r.filters)).1 =
        .error e ∧ .template e = f := by
  unfold answer letter raw
  rw [perform_bind, perform_update, hrecord]
  simp only [htokens, List.isEmpty_nil, if_true, mapError_eq_error_iff]

/-- A request over a store is refused exactly for what it lacks. -/
theorem answer_eq_error_iff_lacks
    {store : Store}
    (hsource : setup.source = store.toSource) :
    (answer setup r).1 = .error f ↔ Lacks store r f := by
  rcases hrecord : r.record with _ | target
  · by_cases htokens : r.tokens.members = []
    · have hready : r.Ready store :=
        ⟨fun target h => absurd (hrecord.symm.trans h) (by simp), fun _ => htokens⟩
      simp only [answer_eq_error_iff_of_no_record hrecord htokens, hsource, load_eq_error_iff]
      exact (lacks_iff_of_ready hready).symm
    · rw [(letter_without_record hrecord htokens).1, lacks_iff_of_no_record hrecord htokens]
      exact ⟨fun h => (Except.error.inj h).symm, fun h => h ▸ rfl⟩
  · simp only [answer_eq_error_iff_of_record hrecord, fillFor_eq_error_iff hsource]
    by_cases htarget : store.Holds target.entity target.id
    · have hready : r.Ready store := by
        refine ⟨fun target' h => ?_, fun h => absurd (hrecord.symm.trans h) (by simp)⟩
        obtain rfl := Option.some.inj (hrecord.symm.trans h)
        exact htarget
      rw [lacks_iff_of_ready hready]
      simp [htarget]
    · rw [lacks_iff_of_not_holds hrecord htarget]
      simp [htarget, eq_comm]

end Answers

end Service

open Service

/-- What becomes of a request is told by what it lacks, whatever the records, the
schemas and the settings of the service and the template, tokens and queries of the
request are: it is refused for what it lacks, and it is answered with a letter when
it lacks nothing. So a message that carries a request is answered with one of four
numbers. -/
theorem answer_told_by_lacks
    (site : Web.Site)
    (r : Request) :
    (∀ f, (answer site.setup r).1 = .error f ↔ Lacks site.store r f) ∧
    ((∃ letter, (answer site.setup r).1 = .ok letter) ↔ ∀ f, ¬ Lacks site.store r f) ∧
    ∀ message, Web.Site.requestOf message = .ok r →
      (site.letter message).1.status.number ∈ [200, 400, 404, 409] := by
  have hiff : ∀ f, (answer site.setup r).1 = .error f ↔ Lacks site.store r f :=
    fun f => answer_eq_error_iff_lacks rfl
  refine ⟨hiff, ?_, ?_⟩
  · constructor
    · rintro ⟨letter, hletter⟩ f hlacks
      exact absurd (hletter.symm.trans ((hiff f).2 hlacks)) (by simp)
    · intro hnone
      rcases hanswer : (answer site.setup r).1 with f | letter
      · exact absurd ((hiff f).1 hanswer) (hnone f)
      · exact ⟨letter, rfl⟩
  · intro message hmessage
    unfold Web.Site.letter
    rw [hmessage]
    rcases hanswer : answer site.setup r with ⟨f | letter, s⟩
    · have hstatus := ((hiff f).1 (by rw [hanswer])).status_mem
      simp only [hanswer]
      show f.status.number ∈ [200, 400, 404, 409]
      simp only [List.mem_cons, List.not_mem_nil, or_false] at hstatus
      rcases hstatus with h | h | h <;> rw [h] <;> decide
    · simp only [hanswer]
      exact List.mem_cons_self

/-- Two shared templates with one title, and a deal whose owner is not stored. -/
def twinRecords : List Record :=
  [⟨Filling.templateEntity, ⟨1⟩, Keyed.ofList [("title".toList, .text "Deal".toList)]⟩,
    ⟨Filling.templateEntity, ⟨2⟩, Keyed.ofList [("title".toList, .text "Deal".toList)]⟩,
    ⟨"deal".toList, ⟨3⟩, Keyed.ofList
      [("owner".toList, .reference ⟨"user".toList, ⟨4⟩, none⟩)]⟩]

/-- A service over those records. -/
def twinSite : Web.Site :=
  ⟨.ofSeed ⟨twinRecords, []⟩, .any, "https://crm/".toList, -3, 8, some "production".toList⟩

/-- A request for a letter for the deal, by the title of the templates. -/
def twinRequest : Request :=
  ⟨some " Deal".toList, some ⟨5⟩, some ⟨"deal".toList, ⟨3⟩, none⟩,
    Keyed.ofList [("a".toList, "b".toList)], .empty⟩

/-- A message that carries the request. -/
def twinMessage : Web.Request :=
  ⟨"POST".toList, "/api/v1/render".toList,
    [("Content-Type".toList, "application/json".toList)],
    ("\x7b\"template_name\": \" Deal\", \"record\": [\"deal\", " ++
      "\"00000000-0000-0000-0000-000000000003\", null], " ++
      "\"user_template_id\": \"00000000-0000-0000-0000-000000000005\", " ++
      "\"substitutions\": \x7b\"a\": \"b\"\x7d\x7d").toList⟩

theorem twinRequest_refused :
    (answer twinSite.setup twinRequest).1 =
        .error (.template (.ambiguous "Deal".toList 2)) ∧
      Web.Site.requestOf twinMessage = .ok twinRequest ∧
      (twinSite.letter twinMessage).1.status.number ∈ [200, 400, 404, 409] := by
  obtain ⟨hrefused, -, hnumber⟩ := answer_told_by_lacks twinSite twinRequest
  have hread : (Web.Site.requestOf twinMessage).toOption = some twinRequest := by
    decide +kernel
  have hmessage : Web.Site.requestOf twinMessage = .ok twinRequest := by
    rcases h : Web.Site.requestOf twinMessage with response | r
    · rw [h] at hread
      cases hread
    · rw [h] at hread
      exact congrArg _ (Option.some.inj hread)
  have htitled : twinSite.store.titled "Deal".toList = 2 := by
    decide +kernel
  have hready : twinRequest.Ready twinSite.store := by
    refine ⟨?_, by decide +kernel⟩
    rintro target h
    obtain rfl := Option.some.inj h
    exact ⟨_, List.mem_of_mem_tail (List.mem_of_mem_tail List.mem_cons_self), rfl, rfl⟩
  have htitle : twinRequest.Titled "Deal".toList :=
    ⟨_, rfl, ⟨'D', by decide, by decide⟩, by decide +kernel⟩
  refine ⟨(hrefused _).2 ?_, hmessage, hnumber _ hmessage⟩
  rw [← htitled]
  exact .choice hready htitle (by rw [htitled])

end MailMerge
