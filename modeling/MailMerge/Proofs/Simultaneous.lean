import MailMerge.Proofs.Layout
import MailMerge.Proofs.Rendering
import MailMerge.Store.Memory

/-!
# Filling in one step

The placeholders of a text are filled one after the other, each of them
everywhere in a text that holds earlier renderings already. In a clean layout
with inert renderings this is the same as to put all renderings in at once, each
in its own place.

The invariant of the run is that the text is the layout in which the
placeholders filled so far, and only those, stand as their renderings. It holds
of every way to fill placeholders in which each of them gives way apart from the
others.

Main facts:

* `FillsApart.foldl_put`: the run, for any such way to fill placeholders;
* `fillsApart_of_clean`: clean layouts and inert replacements are one;
* `expand_text_eq_ok_iff`: a clean layout is filled by the run on its placeholders;
* `expand_clean_eq_ok_iff`: a clean layout is filled when all its placeholders
  are rendered, and then it is the layout with the renderings in place.
-/

namespace MailMerge.Filling

open Template

section Runs

/-- A placeholder after some placeholders have been filled. -/
def filledSoFar (R : Text → Option Text) (filled : List Text) (p : Text) : Text :=
  if p ∈ filled then (R p).getD p else p

/-- A way to fill the placeholders of a text in which each of them gives way apart from
the others: when its turn comes, to replace it everywhere in the text is to give just
that one its replacement. -/
structure FillsApart
    (R : Text → Option Text) (ps : List Text) (fill : (Text → Text) → Text) : Prop where
  congr : ∀ f g, (∀ p ∈ ps, f p = g p) → fill f = fill g
  apart : ∀ p ∈ ps, ∀ q ∈ ps, R q ≠ some p
  replace : ∀ filled p left, ps = filled ++ p :: left → ∀ new, R p = some new →
    Text.replaceAll p new (fill (filledSoFar R filled)) =
      fill fun q => if filledSoFar R filled q = p then new else filledSoFar R filled q

variable {R : Text → Option Text}

theorem filledSoFar_concat_self
    {p new : Text}
    (h : R p = some new)
    (filled : List Text) :
    filledSoFar R (filled ++ [p]) p = new := by
  simp [filledSoFar, h]

theorem filledSoFar_concat_of_ne
    {p q : Text}
    (h : q ≠ p)
    (filled : List Text) :
    filledSoFar R (filled ++ [p]) q = filledSoFar R filled q := by
  simp [filledSoFar, h]

/-- A placeholder stands as it is or has given way to its replacement. -/
theorem filledSoFar_eq_or
    (filled : List Text)
    (p : Text) :
    filledSoFar R filled p = p ∨ R p = some (filledSoFar R filled p) := by
  unfold filledSoFar
  split
  · rcases h : R p with _ | new
    · exact Or.inl rfl
    · exact Or.inr rfl
  · exact Or.inl rfl

namespace FillsApart

variable {ps filled left : List Text} {fill : (Text → Text) → Text}

/-- One placeholder more is filled, in the text as among the placeholders. -/
theorem put_filledSoFar
    (h : FillsApart R ps fill)
    {p : Text}
    (hps : ps = filled ++ p :: left) :
    put (R p) (fill (filledSoFar R filled)) p = fill (filledSoFar R (filled ++ [p])) := by
  rcases hR : R p with _ | new
  · -- what is left as it is stays as it is, met before or not
    apply h.congr
    intro q hq
    by_cases hqp : q = p
    · subst hqp
      simp [filledSoFar, hR]
    · rw [filledSoFar_concat_of_ne hqp]
  · refine Eq.trans (h.replace filled p left hps new hR) ?_
    apply h.congr
    intro q hq
    by_cases hqp : q = p
    · subst hqp
      rw [filledSoFar_concat_self hR]
      by_cases hdone : q ∈ filled
      · have hnow : filledSoFar R filled q = new := by
          simp [filledSoFar, hdone, hR]
        rw [hnow]
        simp
      · have hnow : filledSoFar R filled q = q := by
          simp [filledSoFar, hdone]
        rw [if_pos hnow]
    · have hother : filledSoFar R filled q ≠ p := by
        rcases filledSoFar_eq_or (R := R) filled q with hstands | hgone
        · rw [hstands]
          exact hqp
        · intro hnow
          rw [hnow] at hgone
          exact h.apart p (by simp [hps]) q hq hgone
      rw [if_neg hother, filledSoFar_concat_of_ne hqp]

/-- The run over the placeholders that are left: induction on them. -/
theorem foldl_put_filledSoFar
    (h : FillsApart R ps fill)
    (hps : ps = filled ++ left) :
    left.foldl (fun u p => put (R p) u p) (fill (filledSoFar R filled)) =
      fill (filledSoFar R ps) := by
  induction left generalizing filled with
  | nil =>
      rw [hps, List.append_nil]
      rfl
  | cons p left ih =>
      rw [List.foldl_cons, h.put_filledSoFar hps, ih (by simp [hps])]

/-- To fill all placeholders in turn is to fill them at once. -/
theorem foldl_put
    (h : FillsApart R ps fill) :
    ps.foldl (fun u p => put (R p) u p) (fill id) = fill fun p => (R p).getD p := by
  have hstart : fill id = fill (filledSoFar R []) := by
    apply h.congr
    intro p hp
    simp [filledSoFar]
  rw [hstart, h.foldl_put_filledSoFar (List.nil_append ps).symm]
  apply h.congr
  intro p hp
  simp [filledSoFar, hp]

end FillsApart

end Runs

section Replacements

variable {R : Text → Option Text} {t : Layout}

/-- The placeholders of a clean layout give way to inert texts apart from each other. -/
theorem fillsApart_of_clean
    (ht : t.Clean)
    (hR : ∀ p ∈ t.placeholders, ∀ new ∈ R p, Inert new) :
    FillsApart R t.placeholders t.fill where
  congr := fun f g => Layout.fill_congr
  apart := by
    intro p hp q hq hRq
    obtain ⟨s, -, rfl⟩ := List.mem_map.1 hp
    exact Layout.ne_wrap_of_inert (hR q hq _ hRq) s.inner rfl
  replace := by
    intro filled p left hps new hRp
    obtain ⟨s, -, rfl⟩ := List.mem_map.1 (show p ∈ t.placeholders by simp [hps])
    refine Layout.replaceAll_fill ht ?_ s.isInside new
    intro q hq
    rcases filledSoFar_eq_or (R := R) filled q with hstands | hgone
    · exact Or.inl hstands
    · exact Or.inr (hR q hq _ hgone)

/-- To fill all placeholders of a layout in turn is to fill them at once. -/
theorem foldl_put_text
    (ht : t.Clean)
    (hR : ∀ p ∈ t.placeholders, ∀ new ∈ R p, Inert new) :
    t.placeholders.foldl (fun u p => put (R p) u p) t.text =
      t.fill fun p => (R p).getD p :=
  (fillsApart_of_clean ht hR).foldl_put

end Replacements

/-- A clean layout is filled when the placeholders that were laid out are rendered, and
then it is what their replacements make of it, one after the other. -/
theorem expand_text_eq_ok_iff
    (setup : Setup)
    (record : Record)
    (s : Session)
    {t : Layout}
    (ht : t.Clean)
    (out : Text) :
    ((expand setup record t.text).perform s).1 = .ok out ↔
      (∀ p ∈ t.placeholders, ∃ new, rendering setup setup.maxDepth record s p = .ok new) ∧
        out = t.placeholders.foldl
          (fun u p => put (replacement setup setup.maxDepth record s p) u p) t.text := by
  unfold expand
  rw [expandAt_eq_ok_iff, Layout.scan_text ht]

/-- A clean layout whose placeholders are rendered as inert texts is filled exactly
when each of them is rendered, and then every placeholder stands as its rendering, or
as it is when it has none. -/
theorem expand_clean_eq_ok_iff
    (setup : Setup)
    (record : Record)
    (s : Session)
    (t : Layout)
    (ht : t.Clean)
    (hinert : ∀ p ∈ t.placeholders,
      ∀ new ∈ replacement setup setup.maxDepth record s p, Inert new)
    (out : Text) :
    ((expand setup record t.text).perform s).1 = .ok out ↔
      (∀ p ∈ t.placeholders, ∃ new, rendering setup setup.maxDepth record s p = .ok new) ∧
        out = t.fill fun p => (replacement setup setup.maxDepth record s p).getD p := by
  rw [expand_text_eq_ok_iff setup record s ht, foldl_put_text ht hinert]

/-- A setup over a store that holds nothing. -/
def emptySetup : Setup :=
  setupOver Store.empty.toSource

/-- A record with a share and terms. -/
def shareRecord : Record :=
  ⟨"deal".toList, .zero, Keyed.ofList
    [("share".toList, .text "50%".toList), ("terms".toList, .text "a;%b".toList)]⟩

/-- Seams of every kind: a `%` in front, placeholders side by side, one that is repeated,
one that shows nothing and one that stays as it is. -/
def seamLayout : Layout :=
  ⟨"100%".toList,
    [⟨"share".toList, [], by decide⟩,
     ⟨"terms".toList, " ;".toList, by decide⟩,
     ⟨"gap".toList, "%".toList, by decide⟩,
     ⟨"share".toList, [], by decide⟩,
     ⟨"REF_RECORD_URL_owner|Owner".toList, [], by decide⟩]⟩

theorem expand_seamLayout :
    ((expand emptySetup shareRecord seamLayout.text).perform .fresh).1 =
      .ok "100%50%a;%b ;%50%%;REF_RECORD_URL_owner|Owner;%".toList := by
  have hclean : seamLayout.Clean := ⟨by decide, by decide⟩
  have hinert : ∀ p ∈ seamLayout.placeholders,
      ∀ new ∈ replacement emptySetup emptySetup.maxDepth shareRecord .fresh p, Inert new := by
    decide +kernel
  have hrendered : ∀ p ∈ seamLayout.placeholders, ∃ new,
      rendering emptySetup emptySetup.maxDepth shareRecord .fresh p = .ok new := by
    intro p hp
    simp only [Layout.placeholders, seamLayout, List.map_cons, List.map_nil,
      List.mem_cons, List.not_mem_nil, or_false] at hp
    rcases hp with rfl | rfl | rfl | rfl | rfl <;> exact ⟨_, rfl⟩
  rw [expand_clean_eq_ok_iff emptySetup shareRecord .fresh seamLayout hclean hinert]
  exact ⟨hrendered, by decide +kernel⟩

end MailMerge.Filling
