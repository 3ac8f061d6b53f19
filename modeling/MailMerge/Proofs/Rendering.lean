import MailMerge.Proofs.Steady
import Mathlib.Data.List.Basic
import Mathlib.Data.List.Forall2

/-!
# What placeholders are rendered as

To fill a text is to ask for something and to change the text, placeholder after
placeholder. The two can be told apart: what a placeholder is rendered as is
already settled by the session in which the filling starts, since filling is
steady. So a filled text is what plain replacements make of it, one for each
placeholder that was found, by renderings that are all taken at the start.

Main facts:

* `perform_foldlM_fillPlaceholder_eq_ok_iff`: the law for any steady way to
  render;
* `expandAt_eq_ok_iff`: the law for the placeholders of a text at a depth;
* `expandAt_eq_ok_of_rendering`: what becomes of a text when all are rendered as texts;
* `perform_relatedList_eq_ok_iff`: a list is filled when its items are.
-/

namespace MailMerge.Filling

open Session Work

/-- What a placeholder asks for. -/
def directiveOf (placeholder : Text) : Template.Directive :=
  Template.Directive.parse (Template.directiveText placeholder)

/-- What a placeholder is rendered as at a depth, in a session; none leaves it as it is. -/
def rendering (setup : Setup) (depth : Nat) (record : Record) (s : Session) (placeholder : Text) :
    Except StoreError (Option Text) :=
  ((renderAt setup depth record (directiveOf placeholder)).perform s).1

/-- The text that takes the place of a placeholder, if any does. -/
def replacement (setup : Setup) (depth : Nat) (record : Record) (s : Session)
    (placeholder : Text) : Option Text :=
  (rendering setup depth record s placeholder).toOption.join

theorem replacement_of_rendering
    {setup : Setup}
    {depth : Nat}
    {record : Record}
    {s : Session}
    {placeholder : Text}
    {new : Option Text}
    (h : rendering setup depth record s placeholder = .ok new) :
    replacement setup depth record s placeholder = new := by
  unfold replacement
  rw [h]
  rfl

/-- A text in which one placeholder has given way to its rendering, if it has one. -/
def put (new : Option Text) (text placeholder : Text) : Text :=
  match new with
  | some new => Text.replaceAll placeholder new text
  | none => text

section Steps

variable {describe : Descriptions} {s s' : Session}
variable {renderOne : Template.Directive → Work StoreError (Option Text)}

theorem perform_fillPlaceholder_fst
    (renderOne : Template.Directive → Work StoreError (Option Text))
    (s : Session)
    (text placeholder : Text) :
    ((fillPlaceholder renderOne text placeholder).perform s).1 =
      ((renderOne (directiveOf placeholder)).perform s).1.map fun new =>
        put new text placeholder := by
  unfold fillPlaceholder directiveOf
  rw [perform_bind]
  rcases (renderOne (Template.Directive.parse (Template.directiveText placeholder))).perform s
    with ⟨e | rendered, s'⟩
  · rfl
  · cases rendered with
    | none => rfl
    | some new => rfl

/-- The session in which a text is begun settles every rendering: induction on the
placeholders that are left, in any session alike to that one. -/
theorem perform_foldlM_fillPlaceholder_eq_ok_iff
    (h : ∀ directive, Steady describe (renderOne directive))
    (hs : s'.Alike describe s)
    (ps : List Text)
    (text out : Text) :
    ((ps.foldlM (fillPlaceholder renderOne) text).perform s').1 = .ok out ↔
      (∀ p ∈ ps, ∃ new, ((renderOne (directiveOf p)).perform s).1 = .ok new) ∧
        out = ps.foldl
          (fun u p => put ((renderOne (directiveOf p)).perform s).1.toOption.join u p) text := by
  induction ps generalizing text s' with
  | nil =>
      simp [eq_comm]
  | cons p ps ih =>
      have hout := perform_fillPlaceholder_fst renderOne s' text p
      rw [(h (directiveOf p)).outcome s' s hs] at hout
      have hafter := (steady_fillPlaceholder h text p).alike s'
      rw [List.foldlM_cons, perform_bind]
      rcases hstep : (fillPlaceholder renderOne text p).perform s' with ⟨e | u, s''⟩
      · rw [hstep] at hout
        rcases hr : ((renderOne (directiveOf p)).perform s).1 with e' | new
        · constructor
          · intro hfail
            exact absurd hfail (by simp)
          · rintro ⟨hall, -⟩
            obtain ⟨new, hnew⟩ := hall p List.mem_cons_self
            rw [hr] at hnew
            exact absurd hnew (by simp)
        · rw [hr] at hout
          exact absurd hout (by simp [Except.map])
      · rw [hstep] at hout hafter
        rcases hr : ((renderOne (directiveOf p)).perform s).1 with e' | new
        · rw [hr] at hout
          exact absurd hout (by simp [Except.map])
        · rw [hr] at hout
          have hu : u = put new text p := Except.ok.inj hout
          subst hu
          rw [ih (hafter.trans hs) (put new text p), List.foldl_cons, hr]
          constructor
          · rintro ⟨hall, ho⟩
            refine ⟨?_, ho⟩
            intro q hq
            rcases List.mem_cons.1 hq with rfl | hq
            · exact ⟨new, hr⟩
            · exact hall q hq
          · rintro ⟨hall, ho⟩
            exact ⟨fun q hq => hall q (List.mem_cons_of_mem _ hq), ho⟩

end Steps

/-- A text is filled when each of its placeholders is rendered, and then it is what
the replacements make of it, one after the other. -/
theorem expandAt_eq_ok_iff
    (setup : Setup)
    (depth : Nat)
    (record : Record)
    (s : Session)
    (text out : Text) :
    ((expandAt setup depth record text).perform s).1 = .ok out ↔
      (∀ p ∈ Template.scan text, ∃ new, rendering setup depth record s p = .ok new) ∧
        out = (Template.scan text).foldl
          (fun u p => put (replacement setup depth record s p) u p) text := by
  rw [expandAt_eq]
  exact perform_foldlM_fillPlaceholder_eq_ok_iff (steady_renderAt setup depth record)
    (Alike.refl s) (Template.scan text) text out

/-- A text whose placeholders are all rendered as texts is filled with these. -/
theorem expandAt_eq_ok_of_rendering
    {setup : Setup}
    {depth : Nat}
    {record : Record}
    {s : Session}
    {text : Text}
    {f : Text → Text}
    (h : ∀ p ∈ Template.scan text, rendering setup depth record s p = .ok (some (f p))) :
    ((expandAt setup depth record text).perform s).1 =
      .ok ((Template.scan text).foldl (fun u p => Text.replaceAll p (f p) u) text) := by
  rw [expandAt_eq_ok_iff]
  constructor
  · intro p hp
    exact ⟨_, h p hp⟩
  · apply List.foldl_ext
    intro u p hp
    rw [replacement_of_rendering (h p hp)]
    rfl

section Lists

variable {ε α β : Type} {describe : Descriptions} {s s' : Session}

/-- Steady work over a list comes to an end when it does for each member, and then with
the results that it has in the session in which it starts. -/
theorem perform_mapM_eq_ok_iff
    {f : β → Work ε α}
    (hsteady : ∀ b, Steady describe (f b))
    (hs : s'.Alike describe s)
    (bs : List β)
    (as : List α) :
    ((bs.mapM f).perform s').1 = .ok as ↔
      List.Forall₂ (fun b a => ((f b).perform s).1 = .ok a) bs as := by
  induction bs generalizing s' as with
  | nil =>
      rw [List.mapM_nil, List.forall₂_nil_left_iff]
      simp [eq_comm]
  | cons b bs ih =>
      have htail := ih (((hsteady b).alike s').trans hs)
      rw [List.mapM_cons, bind_eq_ok_iff, (hsteady b).outcome s' s hs]
      simp only [bind_eq_ok_iff, htail, perform_pure, Except.ok.injEq]
      constructor
      · rintro ⟨a, ha, rest, hrest, rfl⟩
        exact .cons ha hrest
      · rintro (_ | ⟨ha, hrest⟩)
        exact ⟨_, ha, _, hrest, rfl⟩

/-- A list is filled when its items are, one for each record that is found. -/
theorem perform_relatedList_eq_ok_iff
    {setup : Setup}
    {fillItem : Record → Text → Work StoreError Text}
    (hsteady : ∀ r text, Steady setup.source.describe (fillItem r text))
    {parent : Record}
    {entity key : Text}
    {parts : List Text}
    {found : List Record}
    (hfound : setup.source.search (queryUnder entity key parent.id (columnsOf parts)
      (s.overrideSeen (overrideName entity key))) = .ok found)
    (out : Text) :
    ((relatedList setup fillItem parent entity key parts).perform s).1 = .ok out ↔
      ∃ items, List.Forall₂
        (fun r item => ((fillItem r (itemTemplate parts)).perform s).1 = .ok item) found items ∧
        out = listMarkup items := by
  have hquery := perform_build_fst (ε := StoreError) entity key parent.id (columnsOf parts) s
  have halike : ((build (ε := StoreError) entity key parent.id (columnsOf parts)).perform
      s).2.Alike setup.source.describe s := perform_build_alike _ _ _ _ s
  unfold relatedList
  simp only [bind_eq_ok_iff, hquery, perform_search, perform_pure, Except.ok.injEq,
    exists_eq_left', hfound,
    perform_mapM_eq_ok_iff (fun r => hsteady r (itemTemplate parts))
      ((Alike.record _ _).trans halike)]
  simp only [eq_comm]

end Lists

end MailMerge.Filling
