import MailMerge.Proofs.Steady
import MailMerge.Store.Memory

/-!
# What a session remembers does not show

A caller may ask several things of one session: to fill texts, for the text at a
path, and to put queries in the place of the usual ones. Between two requests
records may come and go; what has to stay is what the source says about the
schemas of entities. Then the next text is filled, or fails, exactly as in a new
session in which only the overrides have been set.

Main facts:

* `informed_afterAll`: a session that was new remembers nothing but what the
  source says;
* `afterAll_alike`: a run of requests leaves a session alike to one in which only
  the overrides were asked for;
* `expand_after_requests`: no earlier request shows in a filled text.
-/

namespace MailMerge

namespace Session

/-- What the session remembers about schemas and choices is what the source says. -/
structure Informed (describe : Descriptions) (s : Session) : Prop where
  schema : ∀ entity,
    s.schemaSeen describe entity = describe entity
  choices : ∀ entity field,
    s.choicesSeen describe entity field =
      (describe entity).map fun schema => (schema.choices? field).getD []

variable {describe : Descriptions} {s t : Session}

theorem informed_fresh :
    fresh.Informed describe :=
  ⟨fun _ => rfl, fun _ _ => rfl⟩

theorem Informed.of_alike
    (ht : t.Informed describe)
    (h : s.Alike describe t) :
    s.Informed describe := by
  constructor
  · intro entity
    rw [h.schema, ht.schema]
  · intro entity field
    rw [h.choices, ht.choices]

end Session

namespace Filling

open Session Work

/-- What a caller asks of a session. -/
inductive Request where
  /-- To fill the placeholders of a text for a record. -/
  | expand (setup : Setup) (record : Record) (text : Text)
  /-- For the text at a path that starts from a record. -/
  | resolve (source : Source) (offsetHours : Int) (record : Record) (path : Text)
  /-- To put a query in the place of the usual one. -/
  | override (name : Text) (query : Query)

namespace Request

/-- The source that a request is put to, if it needs one. -/
def source? : Request → Option Source
  | expand setup _ _ => some setup.source
  | resolve source _ _ _ => some source
  | override _ _ => none

/-- A request is put to no source, or to one that describes entities in a given way. -/
def Under (describe : Descriptions) (r : Request) : Prop :=
  ∀ source ∈ r.source?, source.describe = describe

/-- Whether a request sets an override. -/
def isOverride : Request → Bool
  | override _ _ => true
  | _ => false

/-- The session after a request, whether the request came to an end or failed. -/
def after : Request → Session → Session
  | expand setup record text, s => ((Filling.expand setup record text).perform s).2
  | resolve source offsetHours record path, s =>
    ((Filling.resolve source offsetHours path record).perform s).2
  | override name query, s => ((addOverride (ε := StoreError) name query).perform s).2

end Request

/-- The session after several requests, one after the other. -/
def afterAll (requests : List Request) (s : Session) : Session :=
  requests.foldl (fun s r => r.after s) s

section Runs

variable {describe : Descriptions} {r : Request} {requests : List Request} {s t : Session}

/-- What is no override leaves no trace in the answers of the session. -/
theorem after_alike_of_not_override
    (hr : r.Under describe)
    (ho : r.isOverride = false) :
    (r.after s).Alike describe s := by
  cases r with
  | expand setup record text =>
      have hd : setup.source.describe = describe := hr setup.source rfl
      subst hd
      exact (steady_expand setup record text).alike s
  | resolve source offsetHours record path =>
      have hd : source.describe = describe := hr source rfl
      subst hd
      exact (steady_resolve source offsetHours path record).alike s
  | override name query =>
      exact absurd ho (by simp [Request.isOverride])

/-- An override is set in alike sessions alike. -/
theorem after_alike_of_override
    (ho : r.isOverride = true)
    (h : s.Alike describe t) :
    (r.after s).Alike describe (r.after t) := by
  cases r with
  | expand setup record text =>
      exact absurd ho (by simp [Request.isOverride])
  | resolve source offsetHours record path =>
      exact absurd ho (by simp [Request.isOverride])
  | override name query =>
      exact h.set_override name query

theorem informed_after
    (hr : r.Under describe)
    (hs : s.Informed describe) :
    (r.after s).Informed describe := by
  cases r with
  | expand setup record text =>
      exact hs.of_alike (after_alike_of_not_override hr rfl)
  | resolve source offsetHours record path =>
      exact hs.of_alike (after_alike_of_not_override hr rfl)
  | override name query =>
      exact ⟨hs.schema, hs.choices⟩

/-- A session stays informed over a whole run. -/
theorem informed_afterAll
    (hr : ∀ r ∈ requests, r.Under describe)
    (hs : s.Informed describe) :
    (afterAll requests s).Informed describe := by
  induction requests generalizing s with
  | nil =>
      exact hs
  | cons r rs ih =>
      have hstep := informed_after (hr r List.mem_cons_self) hs
      exact ih (fun q hq => hr q (List.mem_cons_of_mem _ hq)) hstep

/-- Over a whole run only the overrides leave a trace. -/
theorem afterAll_alike
    (hr : ∀ r ∈ requests, r.Under describe)
    (h : s.Alike describe t) :
    (afterAll requests s).Alike describe
      (afterAll (requests.filter Request.isOverride) t) := by
  induction requests generalizing s t with
  | nil =>
      exact h
  | cons r rs ih =>
      have hrs : ∀ q ∈ rs, q.Under describe :=
        fun q hq => hr q (List.mem_cons_of_mem _ hq)
      rcases ho : r.isOverride with _ | _
      · have hstep := after_alike_of_not_override (s := s) (hr r List.mem_cons_self) ho
        rw [List.filter_cons_of_neg (by simp [ho])]
        exact ih hrs (hstep.trans h)
      · rw [List.filter_cons_of_pos ho]
        exact ih hrs (after_alike_of_override ho h)

end Runs

/-- A text is filled, or fails, after any requests as in a new session with the same
overrides, as long as the sources described the entities alike. -/
theorem expand_after_requests
    (setup : Setup)
    (record : Record)
    (text : Text)
    (requests : List Request)
    (h : ∀ r ∈ requests, r.Under setup.source.describe) :
    ((expand setup record text).perform (afterAll requests .fresh)).1 =
      ((expand setup record text).perform
        (afterAll (requests.filter Request.isOverride) .fresh)).1 := by
  have halike := afterAll_alike h (Alike.refl .fresh)
  exact (steady_expand setup record text).outcome _ _ halike

/-- A deal that is its own parent, at a stage. -/
def dealRecord (stage : Int32) : Record :=
  ⟨"deal".toList, .zero, Keyed.ofList
    [("stage".toList, .optionSet stage),
     ("parent".toList, .reference ⟨"deal".toList, .zero, none⟩)]⟩

/-- A store with one deal and the stages of deals. -/
def dealStore (stage : Int32) : Store :=
  (Store.empty.insertSchema
    ⟨"deal".toList, [⟨"stage".toList, .picklist [⟨1, "Open".toList⟩, ⟨2, "Won".toList⟩]⟩]⟩).insert
      (dealRecord stage)

/-- A deal with a page and a note. Its parent is itself, and it does not carry the names of
its client and of its owner. -/
def linkedDeal : Record :=
  ⟨"deal".toList, .zero, Keyed.ofList
    [("page".toList, .text "https://crm/".toList),
     ("note".toList, .text "Call back".toList),
     ("parent".toList, .reference ⟨"deal".toList, .zero, none⟩),
     ("client".toList, .reference ⟨"account".toList, .zero, none⟩),
     ("ym_owner".toList, .reference ⟨"user".toList, .zero, some [' ']⟩)]⟩

/-- A store with that deal, its client and its owner, where pages of deals have a format.
The client and the owner have a name in either of two columns. -/
def linkedStore (format : Option Text) : Store :=
  let named (entity name vendorName : Text) : Record :=
    ⟨entity, .zero, Keyed.ofList
      [("name".toList, .text name), ("ym_name".toList, .text vendorName)]⟩
  (((Store.empty.insertSchema ⟨"deal".toList, [⟨"page".toList, .text format⟩]⟩).insert
    linkedDeal).insert (named "account".toList "Acme".toList "A-1".toList)).insert
      (named "user".toList "u-7".toList "Ann".toList)

/-- The source of a store that retrieves no record. -/
def closedSource (store : Store) : Source :=
  { store.toSource with retrieve := fun _ _ _ => .error (.unavailable "closed".toList) }

/-- Requests that fill the session, set an override, use it and fail. -/
def dealRequests : List Request :=
  [.resolve (dealStore 1).toSource 0 (dealRecord 1) "parent.stage".toList,
   .override "deal-parent".toList ⟨"deal".toList, .all, []⟩,
   .expand (setupOver (dealStore 1).toSource) (dealRecord 1)
     "%;RELATED_deal-parent-ym_rank;%".toList,
   .expand (setupOver (closedSource (dealStore 1))) (dealRecord 1)
     "%;stage;% %;parent.stage;%".toList]

theorem under_dealRequests :
    ∀ r ∈ dealRequests, r.Under (dealStore 2).toSource.describe := by
  intro r hr
  simp only [dealRequests, List.mem_cons, List.not_mem_nil, or_false] at hr
  rcases hr with rfl | rfl | rfl | rfl <;> rintro source ⟨⟩ <;> rfl

theorem expand_after_dealRequests :
    ((expand (setupOver (dealStore 2).toSource) (dealRecord 2)
        "%;parent.stage;% %;RELATED_deal-parent-stage;%".toList).perform
          (afterAll dealRequests .fresh)).1 =
      ((expand (setupOver (dealStore 2).toSource) (dealRecord 2)
        "%;parent.stage;% %;RELATED_deal-parent-stage;%".toList).perform
          (afterAll [.override "deal-parent".toList ⟨"deal".toList, .all, []⟩] .fresh)).1 :=
  expand_after_requests _ _ _ dealRequests under_dealRequests

end Filling

end MailMerge
