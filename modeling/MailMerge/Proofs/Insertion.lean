import MailMerge.Proofs.Simultaneous
import MailMerge.Store.Memory

/-!
# Texts that go in verbatim

A replacement puts copies of a text into a text. The places depend on the mark
that is replaced and on the text it is replaced in, not on what goes in.

The second half is about two records that differ in the text of one field. Only
a directive that shows the field can tell them apart, and when nothing is known
of the field that changes how texts are shown, it shows each text as it stands.

Main facts:

* `insertion_replaceAll`, `insertion_fill`: replacements are insertions;
* `renderAt_eq_of_not_shows`: what does not show the field is rendered alike;
* `rendering_of_shows`: what shows it is rendered as its text.
-/

namespace MailMerge.Filling

open Session Work Template

section Insertions

/-- A text that is made of fixed pieces with copies of another text between them. -/
def Insertion (F : Text → Text) : Prop :=
  ∃ q qs, ∀ x : Text, F x = x.intercalate (q :: qs)

variable {F G : Text → Text}

theorem insertion_const
    (t : Text) :
    Insertion fun _ => t :=
  ⟨t, [], fun x => by simp⟩

theorem insertion_id :
    Insertion fun x => x :=
  ⟨[], [[]], fun x => by simp⟩

/-- The last piece of the first text and the first piece of the second become one. -/
theorem Insertion.append
    (hF : Insertion F)
    (hG : Insertion G) :
    Insertion fun x => F x ++ G x := by
  obtain ⟨q, qs, hq⟩ := hF
  obtain ⟨p, ps, hp⟩ := hG
  suffices hjoin : ∃ a as, ∀ x : Text,
      x.intercalate (q :: qs) ++ x.intercalate (p :: ps) = x.intercalate (a :: as) by
    obtain ⟨a, as, ha⟩ := hjoin
    refine ⟨a, as, ?_⟩
    intro x
    show F x ++ G x = x.intercalate (a :: as)
    rw [hq, hp, ha]
  clear hq
  induction qs generalizing q with
  | nil =>
      refine ⟨q ++ p, ps, ?_⟩
      intro x
      cases ps <;> simp
  | cons b bs ih =>
      obtain ⟨a, as, ha⟩ := ih b
      refine ⟨q, a :: as, ?_⟩
      intro x
      rw [List.intercalate_cons_cons, List.intercalate_cons_cons, ← ha]
      simp

/-- What replaces a mark everywhere in a text is inserted into what is left of it. -/
theorem insertion_replaceAll
    (mark t : Text) :
    Insertion fun x => Text.replaceAll mark x t := by
  unfold Text.replaceAll Text.replaceWith
  induction Text.pieces (Text.markWidth mark) t with
  | nil =>
      exact insertion_const []
  | cons piece pieces ih =>
      cases piece with
      | single c => exact (insertion_const [c]).append ih
      | found s => exact insertion_id.append ih

theorem insertion_fillStretches
    (p : Text)
    (f : Text → Text)
    (stretches : List Stretch) :
    Insertion fun x => Layout.fillStretches (fun q => if q = p then x else f q) stretches := by
  induction stretches with
  | nil =>
      exact insertion_const []
  | cons s ss ih =>
      have hrest := (insertion_const s.behind).append ih
      simp only [Layout.fillStretches_cons]
      by_cases hs : s.placeholder = p
      · simp only [hs, if_true]
        exact insertion_id.append hrest
      · simp only [hs, if_false]
        exact (insertion_const (f s.placeholder)).append hrest

/-- What takes the place of one placeholder of a layout is inserted into the rest. -/
theorem insertion_fill
    (t : Layout)
    (p : Text)
    (f : Text → Text) :
    Insertion fun x => t.fill fun q => if q = p then x else f q :=
  (insertion_const t.front).append (insertion_fillStretches p f t.stretches)

/-- Lengths tell how often a text was inserted. -/
theorem exists_length_intercalate
    (q : Text)
    (qs : List Text) :
    ∃ n, ∀ x : Text, (x.intercalate (q :: qs)).length = n + qs.length * x.length := by
  induction qs generalizing q with
  | nil =>
      refine ⟨q.length, ?_⟩
      intro x
      simp
  | cons p ps ih =>
      obtain ⟨n, hn⟩ := ih p
      refine ⟨q.length + n, ?_⟩
      intro x
      rw [List.intercalate_cons_cons, List.length_append, List.length_append, hn,
        List.length_cons, Nat.succ_mul]
      omega

end Insertions

/-- Two records that differ at most in the text of one field. -/
structure TextApart (f v w : Text) (r q : Record) : Prop where
  entity : r.entity = q.entity
  id : r.id = q.id
  left : r.get? f = some (.text v)
  right : q.get? f = some (.text w)
  others : ∀ g, g ≠ f → r.get? g = q.get? g

/-- A record with the text of one field set. -/
def withText (r : Record) (f v : Text) : Record :=
  { r with fields := r.fields.set f (.text v) }

theorem get?_withText
    (r : Record)
    (f v g : Text) :
    (withText r f v).get? g = if f = g then some (.text v) else r.get? g := by
  unfold withText Record.get?
  rw [Dict.get?_set]
  split <;> rfl

theorem textApart_withText
    (r : Record)
    (f v w : Text) :
    TextApart f v w (withText r f v) (withText r f w) where
  entity := rfl
  id := rfl
  left := by rw [get?_withText, if_pos rfl]
  right := by rw [get?_withText, if_pos rfl]
  others := by
    intro g hg
    rw [get?_withText, get?_withText, if_neg hg.symm, if_neg hg.symm]

/-- Whether a directive shows the value of a field of the record at hand. -/
def shows (f : Text) : Directive → Bool
  | .field path => Text.fields '.' path = [f]
  | _ => false

theorem shows_eq_true_iff
    {f : Text}
    {directive : Directive} :
    shows f directive = true ↔
      ∃ path, directive = .field path ∧ Text.fields '.' path = [f] := by
  cases directive <;> simp [shows]

/-- Whether texts of a kind of attribute are shown as they stand. -/
def isPlain : Option AttributeKind → Bool
  | some (.text (some format)) => !Text.sameLetters format "url".toList
  | some .dateTime => false
  | _ => true

section Renderings

variable {f v w : Text} {r q : Record}

theorem TextApart.symm
    (h : TextApart f v w r q) :
    TextApart f w v q r where
  entity := h.entity.symm
  id := h.id.symm
  left := h.right
  right := h.left
  others := fun g hg => (h.others g hg).symm

theorem reference?_eq_of_textApart
    (h : TextApart f v w r q)
    (g : Text) :
    r.reference? g = q.reference? g := by
  unfold Record.reference?
  by_cases hg : g = f
  · subst hg
    rw [h.left, h.right]
  · rw [h.others g hg]

/-- A path that is not the field itself leads both records to the same text. -/
theorem follow_eq_of_textApart
    (h : TextApart f v w r q)
    (source : Source)
    (offsetHours : Int)
    {path : List Text}
    (hpath : path ≠ [f]) :
    follow source offsetHours path r = follow source offsetHours path q := by
  match path with
  | [] =>
      rfl
  | [g] =>
      have hg : g ≠ f := fun hg => hpath (by rw [hg])
      unfold follow showField
      rw [h.others g hg, h.entity]
  | g :: next :: rest =>
      unfold follow
      rw [reference?_eq_of_textApart h g]

/-- A directive that does not show the field is rendered alike for both records. -/
theorem renderAt_eq_of_not_shows
    (h : TextApart f v w r q)
    (setup : Setup)
    (depth : Nat)
    {directive : Directive}
    (hd : shows f directive = false) :
    renderAt setup depth r directive = renderAt setup depth q directive := by
  have hrender : ∀ list list' : Text → Text → List Text → Work StoreError Text,
      list = list' →
      render setup list r directive = render setup list' q directive := by
    intro list list' hlist
    subst hlist
    cases directive with
    | referenceLink field text =>
        simp only [render]
        rw [reference?_eq_of_textApart h field]
    | recordLink text =>
        simp only [render]
        rw [h.entity, h.id]
    | related entity key parts => rfl
    | malformedRelated => rfl
    | field path =>
        have hpath : Text.fields '.' path ≠ [f] := by
          intro hp
          exact absurd hd (by simp [shows, hp])
        simp only [render, resolve]
        rw [follow_eq_of_textApart h setup.source setup.offsetHours hpath]
  cases depth with
  | zero =>
      exact hrender _ _ rfl
  | succ depth =>
      apply hrender
      funext entity key parts
      unfold relatedList
      rw [h.id]

theorem showAs_text_of_isPlain
    {kind : Option AttributeKind}
    (h : isPlain kind = true)
    (offsetHours : Int) :
    showAs kind (.text v) offsetHours = v := by
  unfold showAs
  split
  · next format =>
    have hurl : Text.sameLetters format "url".toList = false := by
      simpa [isPlain] using h
    rw [hurl]
    rfl
  · exact absurd h (by simp [isPlain])
  · rfl

/-- A directive that shows a plain text is rendered as that text. -/
theorem rendering_of_shows
    {setup : Setup}
    {s : Session}
    (hget : r.get? f = some (.text v))
    (hplain : ∀ schema, s.schemaSeen setup.source.describe r.entity = .ok schema →
      isPlain ((schema.attribute? f).map Attribute.kind) = true)
    {depth : Nat} {p : Text}
    (hshows : shows f (directiveOf p) = true)
    {new : Option Text}
    (hnew : rendering setup depth r s p = .ok new) :
    new = some v := by
  obtain ⟨path, hd, hpath⟩ := shows_eq_true_iff.1 hshows
  have hrender : renderAt setup depth r (.field path) =
      some <$> showField setup.source setup.offsetHours f r := by
    cases depth <;> simp only [renderAt, render, resolve, hpath, follow]
  have hschema := perform_schemaOf_fst setup.source r.entity s
  unfold rendering at hnew
  rw [hd, hrender, perform_map] at hnew
  unfold showField at hnew
  rw [hget] at hnew
  simp only [perform_bind] at hnew
  rcases hw : (schemaOf setup.source r.entity).perform s with ⟨e | schema, s'⟩
  · rw [hw] at hnew
    exact absurd hnew (by simp)
  · rw [hw] at hnew hschema
    have hkind := hplain schema hschema.symm
    have htext := showAs_text_of_isPlain (v := v) hkind setup.offsetHours
    rw [← htext]
    exact (Except.ok.inj hnew).symm

end Renderings

end MailMerge.Filling
