import MailMerge.Proofs.Descriptions
import MailMerge.Proofs.Items
import MailMerge.Proofs.Nesting
import Mathlib.Algebra.BigOperators.Group.List.Basic
import Mathlib.Algebra.GroupWithZero.Nat

/-!
# What the counters of a filled text add up to

A gauge reads a number off the counters, one that grows by a fixed amount for every
placeholder that is met: by one amount when it is filled and by another when it is
left open. The text at a path moves no gauge, so all that moves one is the meeting of
placeholders.

Which placeholders are met is settled when the filling of a text starts: those that
are found in the text, and for each that asks for a list those of its items, which are
its parts that are not empty, once for every record of the list. The parts hold no
character of a mark, so between them the wrapped parts make up no other placeholder.

Main facts:

* `leaves_resolve`: a path moves no gauge;
* `adds_expandAt`: what a filled text adds to a gauge;
* `tally_met`, `tally_leftOpen`: the number of all placeholders, and of those left open.
-/

namespace MailMerge

/-- A number that is read off the counters, and by how much it grows when a placeholder
is met. -/
structure Gauge where
  read : Counters → Nat
  opened : Nat
  filled : Template.DirectiveKind → Nat
  read_addUnresolved : ∀ c, read c.addUnresolved = read c + opened
  read_addPlaceholder : ∀ c kind, read (c.addPlaceholder kind) = read c + filled kind
  read_addHit : ∀ c, read c.addHit = read c
  read_addMiss : ∀ c, read c.addMiss = read c

/-- The number of placeholders that were met, of whatever kind. -/
def Counters.met (c : Counters) : Nat :=
  c.fields + c.recordLinks + c.referenceLinks + c.relatedLists + c.unresolved

namespace Gauge

/-- All placeholders. -/
def met : Gauge where
  read := Counters.met
  opened := 1
  filled := fun _ => 1
  read_addUnresolved := fun _ => rfl
  read_addPlaceholder := by
    intro c kind
    cases kind <;> simp only [Counters.met, Counters.addPlaceholder] <;> omega
  read_addHit := fun _ => rfl
  read_addMiss := fun _ => rfl

/-- The placeholders that were left open. -/
def leftOpen : Gauge where
  read := Counters.unresolved
  opened := 1
  filled := fun _ => 0
  read_addUnresolved := fun _ => rfl
  read_addPlaceholder := by
    intro c kind
    cases kind <;> rfl
  read_addHit := fun _ => rfl
  read_addMiss := fun _ => rfl

end Gauge

namespace Work

variable {ε ε' α β : Type} {γ : Type} {read : Counters → γ}

/-- Work that does not change what is read off the counters, whether it comes to an end or
fails. -/
def Leaves (read : Counters → γ) (w : Work ε α) : Prop :=
  ∀ s, read (w.perform s).2.counters = read s.counters

theorem leaves_pure
    (a : α) :
    Leaves read (pure a : Work ε α) := by
  intro s
  rfl

theorem leaves_count
    {f : Counters → Counters}
    (hf : ∀ c, read (f c) = read c) :
    Leaves read (count f : Work ε Unit) := by
  intro s
  exact hf s.counters

theorem Leaves.bind
    {w : Work ε α} {f : α → Work ε β}
    (hw : Leaves read w)
    (hf : ∀ a, Leaves read (f a)) :
    Leaves read (w >>= f) := by
  intro s
  have hs := hw s
  rw [perform_bind]
  rcases h : w.perform s with ⟨e | a, s'⟩
  · rw [h] at hs
    exact hs
  · rw [h] at hs
    exact (hf a s').trans hs

theorem Leaves.map
    {w : Work ε α}
    (hw : Leaves read w)
    (f : α → β) :
    Leaves read (f <$> w) := by
  rw [← bind_pure_comp]
  exact hw.bind fun a => leaves_pure (f a)

theorem Leaves.orMissing
    {w : Work StoreError α}
    (hw : Leaves read w) :
    Leaves read (orMissing w) := by
  intro s
  rw [perform_orMissing_snd]
  exact hw s

theorem Leaves.mapError
    {w : Work ε α}
    (hw : Leaves read w)
    (f : ε → ε') :
    Leaves read (mapError f w) := by
  intro s
  rw [perform_mapError_snd]
  exact hw s

end Work

namespace Filling

open Session Template Work

section Readings

variable {γ : Type} {read : Counters → γ} (source : Source)

theorem leaves_schemaOf
    (entity : Text) :
    Leaves read (schemaOf source entity) := by
  intro s
  rcases h : s.schemas.get? entity with _ | schema
  · rw [perform_schemaOf_of_unknown h]
    rcases source.describe entity with e | schema <;> rfl
  · rw [perform_schemaOf_of_known h]

theorem leaves_labelFor
    (hhit : ∀ c, read (Counters.addHit c) = read c)
    (hmiss : ∀ c, read (Counters.addMiss c) = read c)
    (entity field : Text)
    (code : Int32) :
    Leaves read (labelFor (schemaOf source entity) entity field code) := by
  intro s
  rcases h : s.choices.get? (entity, field) with _ | choices
  · have hfetch : read ((schemaOf source entity).perform (s.count Counters.addMiss)).2.counters =
        read s.counters :=
      (leaves_schemaOf source entity _).trans (hmiss s.counters)
    rw [perform_labelFor_of_unknown h]
    rcases hw : (schemaOf source entity).perform (s.count Counters.addMiss) with ⟨e | schema, s'⟩
    · rw [hw] at hfetch
      exact hfetch
    · rw [hw] at hfetch
      exact hfetch
  · rw [label_of_known h]
    exact hhit s.counters

theorem leaves_build
    (entity key : Text) (parent : Uuid) (columns : List Text) :
    Leaves read (build (ε := StoreError) entity key parent columns) := by
  intro s
  unfold build
  rcases h : s.overrides.get? (overrideName entity key) with _ | query <;> simp [h]

theorem fieldwise_leaves
    (hhit : ∀ c, read (Counters.addHit c) = read c)
    (hmiss : ∀ c, read (Counters.addMiss c) = read c) :
    Fieldwise source source fun _ w _ => Leaves read w where
  pure := leaves_pure
  bind := Leaves.bind
  look := by
    intro entity id columns
    exact Leaves.orMissing fun _ => rfl
  schema := leaves_schemaOf source
  label := leaves_labelFor source hhit hmiss

/-- What no placeholder and no label changes is the same after a text was filled, or not. -/
theorem textwise_leaves
    (hhit : ∀ c, read (Counters.addHit c) = read c)
    (hmiss : ∀ c, read (Counters.addMiss c) = read c)
    (hfilled : ∀ c kind, read (Counters.addPlaceholder c kind) = read c)
    (hopened : ∀ c, read (Counters.addUnresolved c) = read c) :
    Textwise source source fun _ w _ => Leaves read w where
  toFieldwise := fieldwise_leaves source hhit hmiss
  filled := by
    intro kind
    exact leaves_count fun c => hfilled c kind
  unresolved := leaves_count hopened
  search := fun _ _ => rfl
  query := leaves_build

end Readings

theorem leaves_resolve
    (g : Gauge)
    (source : Source)
    (offsetHours : Int)
    (path : Text)
    (record : Record) :
    Leaves g.read (resolve source offsetHours path record) :=
  (fieldwise_leaves source g.read_addHit g.read_addMiss).resolve offsetHours path record

end Filling

namespace Work

variable {ε ε' α β : Type} {describe : Descriptions} {g : Gauge} {t : Session} {m n : Nat}

/-- Work that adds a number to a gauge in all sessions that are alike to a given one, when
it comes to an end there. -/
def Adds (describe : Descriptions) (g : Gauge) (t : Session) (w : Work ε α) (n : Nat) : Prop :=
  ∀ s a, s.Alike describe t → (w.perform s).1 = .ok a →
    g.read (w.perform s).2.counters = g.read s.counters + n

theorem Leaves.adds
    {w : Work ε α}
    (hw : Leaves g.read w) :
    Adds describe g t w 0 := by
  intro s a _ _
  exact hw s

theorem adds_count
    {f : Counters → Counters}
    (hf : ∀ c, g.read (f c) = g.read c + n) :
    Adds describe g t (count f : Work ε Unit) n := by
  intro s a _ _
  exact hf s.counters

/-- Steady work leaves the session alike for the work behind it, and that has to be looked
at for one outcome only. -/
theorem Adds.bind
    {w : Work ε α} {f : α → Work ε β}
    (hw : Adds describe g t w m)
    (hsteady : Steady describe w)
    (hf : ∀ a, (w.perform t).1 = .ok a → Adds describe g t (f a) n) :
    Adds describe g t (w >>= f) (m + n) := by
  intro s b hs hb
  have hout := hsteady.outcome s t hs
  have halike := hsteady.alike s
  rw [perform_bind] at hb ⊢
  rcases h : w.perform s with ⟨e | a, s'⟩
  · rw [h] at hb
    cases hb
  · rw [h] at hout halike hb
    have hfirst := hw s a hs (by rw [h])
    rw [h] at hfirst
    have hthen := hf a hout.symm s' b (halike.trans hs) hb
    exact hthen.trans (by rw [hfirst]; omega)

theorem Adds.bind_leaves
    {w : Work ε α} {f : α → Work ε β}
    (hw : Adds describe g t w n)
    (hf : ∀ a, Leaves g.read (f a)) :
    Adds describe g t (w >>= f) n := by
  intro s b hs hb
  rw [perform_bind] at hb ⊢
  rcases h : w.perform s with ⟨e | a, s'⟩
  · rw [h] at hb
    cases hb
  · have hfirst := hw s a hs (by rw [h])
    rw [h] at hfirst
    exact (hf a s').trans hfirst

theorem Leaves.bind_adds
    {w : Work ε α} {f : α → Work ε β}
    (hw : Leaves g.read w)
    (hsteady : Steady describe w)
    (hf : ∀ a, (w.perform t).1 = .ok a → Adds describe g t (f a) n) :
    Adds describe g t (w >>= f) n := by
  have h := Adds.bind hw.adds hsteady hf
  rwa [Nat.zero_add] at h

theorem Adds.map
    {w : Work ε α}
    (hw : Adds describe g t w n)
    (f : α → β) :
    Adds describe g t (f <$> w) n := by
  rw [← bind_pure_comp]
  exact hw.bind_leaves fun a => leaves_pure (f a)

theorem Adds.mapError
    {w : Work ε α}
    (hw : Adds describe g t w n)
    (f : ε → ε') :
    Adds describe g t (mapError f w) n := by
  intro s a hs ha
  rw [perform_mapError_fst] at ha
  rw [perform_mapError_snd]
  rcases h : (w.perform s).1 with e | b
  · rw [h] at ha
    cases ha
  · exact hw s b hs h

theorem adds_foldlM
    {f : β → α → Work StoreError β} {n : α → Nat}
    (hsteady : ∀ b a, Steady describe (f b a))
    (xs : List α)
    (h : ∀ b, ∀ a ∈ xs, Adds describe g t (f b a) (n a))
    (b : β) :
    Adds describe g t (xs.foldlM f b) (xs.map n).sum := by
  induction xs generalizing b with
  | nil =>
      exact (leaves_pure b).adds
  | cons x xs ih =>
      rw [List.foldlM_cons, List.map_cons, List.sum_cons]
      refine (h b x List.mem_cons_self).bind (hsteady b x) ?_
      intro b' _
      exact ih (fun b a ha => h b a (List.mem_cons_of_mem _ ha)) b'

theorem adds_mapM
    {f : α → Work StoreError β} {n : α → Nat}
    (hsteady : ∀ a, Steady describe (f a))
    (h : ∀ a, Adds describe g t (f a) (n a))
    (xs : List α) :
    Adds describe g t (xs.mapM f) (xs.map n).sum := by
  induction xs with
  | nil =>
      rw [List.mapM_nil]
      exact (leaves_pure []).adds
  | cons x xs ih =>
      rw [List.mapM_cons, List.map_cons, List.sum_cons]
      refine (h x).bind (hsteady x) ?_
      intro y _
      exact ih.bind_leaves fun ys => leaves_pure (y :: ys)

end Work

namespace Filling

open Session Template Work

/-- Whether a directive is a link that is left open for a record. -/
def leavesOpen (record : Record) : Directive → Bool
  | .referenceLink field _ => Text.blank field || (record.reference? field).isNone
  | _ => false

theorem leftOpen_iff
    {record : Record} {p : Text} :
    LeftOpen record p ↔ leavesOpen record (directiveOf p) = true := by
  unfold LeftOpen leavesOpen
  cases directiveOf p <;> simp

instance (record : Record) (p : Text) : Decidable (LeftOpen record p) :=
  decidable_of_iff _ leftOpen_iff.symm

/-- The records of a list, as the session in which it is asked for makes its query. -/
def itemsOf (setup : Setup) (s : Session) (record : Record) (p : Text) : List Record :=
  match directiveOf p with
  | .related entity key parts =>
    (setup.source.search (queryUnder entity key record.id (columnsOf parts)
      (s.overrideSeen (overrideName entity key)))).toOption.getD []
  | _ => []

/-- The parts that the items of a list show. -/
def shownParts (p : Text) : List Text :=
  match directiveOf p with
  | .related _ _ parts => parts.filter (· ≠ [])
  | _ => []

/-- What a placeholder adds to a gauge, without the items of its list. -/
def weight (g : Gauge) (record : Record) (p : Text) : Nat :=
  if LeftOpen record p then g.opened else g.filled (directiveOf p).kind

/-- What the items of the list of a placeholder add to a gauge. -/
def itemsTally (g : Gauge) (setup : Setup) (s : Session) (record : Record) (p : Text) : Nat :=
  ((itemsOf setup s record p).map fun item =>
    ((shownParts p).map fun part => weight g item (wrap part)).sum).sum

/-- What the placeholders of a text add to a gauge; there are no items at depth zero. -/
def tally (g : Gauge) (setup : Setup) (s : Session) (depth : Nat) (record : Record)
    (text : Text) : Nat :=
  ((scan text).map fun p =>
    weight g record p + if depth = 0 then 0 else itemsTally g setup s record p).sum

/-- How many placeholders are met in the filling of a text: those of the text, and in the
items of a list every part that is not empty, once for each record. -/
def metIn (setup : Setup) (s : Session) (depth : Nat) (record : Record) (text : Text) : Nat :=
  (scan text).length +
    if depth = 0 then 0
    else ((scan text).map fun p =>
      (itemsOf setup s record p).length * (shownParts p).length).sum

/-- How many of these are links that are left open. -/
def leftOpenIn (setup : Setup) (s : Session) (depth : Nat) (record : Record) (text : Text) :
    Nat :=
  ((scan text).countP fun p => LeftOpen record p) +
    if depth = 0 then 0
    else ((scan text).map fun p =>
      ((itemsOf setup s record p).map fun item =>
        (shownParts p).countP fun part => LeftOpen item (wrap part)).sum).sum

section Tallies

variable {g : Gauge} {setup : Setup} {t : Session}

/-- A placeholder adds what its rendering adds, and its own weight. -/
theorem adds_fillPlaceholder
    {record : Record} {depth n : Nat} {p : Text}
    (h : Adds setup.source.describe g t (renderAt setup depth record (directiveOf p)) n)
    (text : Text) :
    Adds setup.source.describe g t (fillPlaceholder (renderAt setup depth record) text p)
      (weight g record p + n) := by
  unfold fillPlaceholder
  rw [Nat.add_comm]
  refine h.bind (steady_renderAt setup depth record (directiveOf p)) ?_
  intro rendered hrendered
  unfold weight
  cases rendered with
  | none =>
      -- only links are left open, and which of them does not depend on the session
      rw [if_pos (rendering_eq_ok_none_iff.1 hrendered)]
      exact (adds_count g.read_addUnresolved).bind_leaves fun _ => leaves_pure text
  | some new =>
      have hfilled : ¬ LeftOpen record p := by
        intro hopen
        have hnone := hrendered.symm.trans (rendering_eq_ok_none_iff.2 hopen)
        cases hnone
      rw [if_neg hfilled]
      exact (adds_count fun c => g.read_addPlaceholder c _).bind_leaves fun _ =>
        leaves_pure _

theorem adds_fillAll
    {record : Record} {depth : Nat} {text : Text} {n : Text → Nat}
    (h : ∀ p ∈ scan text,
      Adds setup.source.describe g t (renderAt setup depth record (directiveOf p)) (n p)) :
    Adds setup.source.describe g t (expandAt setup depth record text)
      ((scan text).map fun p => weight g record p + n p).sum := by
  rw [expandAt_eq]
  unfold fillAll
  refine adds_foldlM ?_ _ ?_ text
  · exact steady_fillPlaceholder (steady_renderAt setup depth record)
  · intro current p hp
    exact adds_fillPlaceholder (h p hp) current

theorem leaves_render
    {list : Text → Text → List Text → Work StoreError Text}
    (record : Record)
    {directive : Directive}
    (h : ∀ entity key parts, directive = .related entity key parts →
      Leaves g.read (list entity key parts)) :
    Leaves g.read (render setup list record directive) :=
  @Fieldwise.render _ _ _ (fieldwise_leaves setup.source g.read_addHit g.read_addMiss)
    list list record _ h

theorem adds_expandAt_zero
    (record : Record)
    (text : Text) :
    Adds setup.source.describe g t (expandAt setup 0 record text) (tally g setup t 0 record text) :=
  adds_fillAll fun _ _ => (leaves_render record fun _ _ _ _ => leaves_pure []).adds

theorem tally_item
    {parts : List Text}
    (h : ∀ part ∈ parts, ∀ c ∈ part, isInner c = true)
    (item : Record) :
    tally g setup t 0 item (itemTemplate parts) =
      ((parts.filter (· ≠ [])).map fun part => weight g item (wrap part)).sum := by
  unfold tally
  rw [scan_itemTemplate h, List.map_map]
  simp only [Function.comp_def, if_true, Nat.add_zero]

/-- An item adds what its parts weigh that are not empty. -/
theorem adds_item
    {text p entity key : Text} {parts : List Text}
    (hp : p ∈ scan text)
    (h : directiveOf p = .related entity key parts)
    (depth : Nat)
    (item : Record) :
    Adds setup.source.describe g t (expandAt setup depth item (itemTemplate parts))
      ((parts.filter (· ≠ [])).map fun part => weight g item (wrap part)).sum := by
  have hparts : ∀ part ∈ parts, ∀ c ∈ part, isInner c = true :=
    fun part hpart c hc => isInner_of_mem_part hp h hpart hc
  have hadds : Adds setup.source.describe g t (expandAt setup 0 item (itemTemplate parts))
      (tally g setup t 0 item (itemTemplate parts)) :=
    adds_expandAt_zero item (itemTemplate parts)
  -- items ask for no lists, so the depth that is left is of no account
  rw [tally_item hparts] at hadds
  rw [expandAt_itemTemplate setup (no_hyphen_of_parse_eq_related h) depth]
  exact hadds

/-- The query is settled by the session, the records by the query. -/
theorem adds_relatedList
    {text p entity key : Text} {parts : List Text}
    (hp : p ∈ scan text)
    (h : directiveOf p = .related entity key parts)
    (depth : Nat)
    (parent : Record) :
    Adds setup.source.describe g t
      (relatedList setup (fun r u => expandAt setup depth r u) parent entity key parts)
      (itemsTally g setup t parent p) := by
  unfold relatedList
  refine (leaves_build entity key parent.id (columnsOf parts)).bind_adds
    (steady_build entity key parent.id (columnsOf parts)) ?_
  intro query hquery
  rw [perform_build_fst] at hquery
  obtain rfl := Except.ok.inj hquery
  refine Leaves.bind_adds (fun _ => rfl) (steady_search setup.source _) ?_
  intro found hfound
  have hitems : itemsOf setup t parent p = found := by
    unfold itemsOf
    rw [h]
    exact congrArg (fun found => found.toOption.getD []) hfound
  have hparts : shownParts p = parts.filter (· ≠ []) := by
    unfold shownParts
    rw [h]
  unfold itemsTally
  rw [hitems, hparts]
  refine (adds_mapM ?_ (adds_item hp h depth) found).bind_leaves fun items => leaves_pure _
  intro item
  exact (inherited_steady setup.source).expandAt depth item (itemTemplate parts)

theorem itemsTally_of_not_related
    {record : Record} {p : Text}
    (h : ∀ entity key parts, directiveOf p ≠ .related entity key parts) :
    itemsTally g setup t record p = 0 := by
  have hitems : itemsOf setup t record p = [] := by
    unfold itemsOf
    rcases hd : directiveOf p with ⟨field, shown⟩ | shown | ⟨entity, key, parts⟩ | _ | path
    case related => exact absurd hd (h entity key parts)
    all_goals rfl
  unfold itemsTally
  rw [hitems]
  rfl

theorem adds_renderAt_succ
    {text p : Text}
    (hp : p ∈ scan text)
    (depth : Nat)
    (record : Record) :
    Adds setup.source.describe g t (renderAt setup (depth + 1) record (directiveOf p))
      (itemsTally g setup t record p) := by
  unfold renderAt
  by_cases h : ∃ entity key parts, directiveOf p = .related entity key parts
  · obtain ⟨entity, key, parts, hd⟩ := h
    rw [hd]
    exact (adds_relatedList hp hd depth record).map some
  · have hno : ∀ entity key parts, directiveOf p ≠ .related entity key parts :=
      fun entity key parts hd => h ⟨entity, key, parts, hd⟩
    rw [itemsTally_of_not_related hno]
    exact (leaves_render record fun entity key parts hd => absurd hd (hno entity key parts)).adds

/-- A text adds what its placeholders add, and the items of its lists. -/
theorem adds_expandAt
    (depth : Nat)
    (record : Record)
    (text : Text) :
    Adds setup.source.describe g t (expandAt setup depth record text)
      (tally g setup t depth record text) := by
  cases depth with
  | zero =>
      exact adds_expandAt_zero record text
  | succ depth =>
      exact adds_fillAll fun p hp => adds_renderAt_succ hp depth record

end Tallies

section Numbers

variable (setup : Setup) (s : Session) (depth : Nat) (record : Record) (text : Text)

theorem tally_eq_add
    (g : Gauge) :
    tally g setup s depth record text =
      ((scan text).map fun p => weight g record p).sum +
        if depth = 0 then 0 else ((scan text).map fun p => itemsTally g setup s record p).sum := by
  unfold tally
  rw [List.sum_map_add]
  by_cases hdepth : depth = 0
  · simp [hdepth]
  · simp [hdepth]

theorem weight_met
    (record : Record)
    (p : Text) :
    weight .met record p = 1 := by
  unfold weight
  split <;> rfl

theorem tally_met :
    tally .met setup s depth record text = metIn setup s depth record text := by
  rw [tally_eq_add]
  simp [metIn, itemsTally, weight_met, List.map_const']

theorem sum_weight_leftOpen
    {α : Type}
    (record : Record)
    (f : α → Text)
    (xs : List α) :
    (xs.map fun x => weight .leftOpen record (f x)).sum =
      xs.countP fun x => LeftOpen record (f x) := by
  induction xs with
  | nil =>
      rfl
  | cons x xs ih =>
      rw [List.map_cons, List.sum_cons, ih, List.countP_cons, Nat.add_comm]
      by_cases h : LeftOpen record (f x) <;> simp [weight, Gauge.leftOpen, h]

theorem tally_leftOpen :
    tally .leftOpen setup s depth record text = leftOpenIn setup s depth record text := by
  have hown := sum_weight_leftOpen record (fun p => p) (scan text)
  rw [tally_eq_add, hown]
  simp only [leftOpenIn, itemsTally, sum_weight_leftOpen]

end Numbers

end Filling

end MailMerge
