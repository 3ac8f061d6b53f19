import MailMerge.Proofs.Layout

/-!
# Placeholders that nobody laid out

A text is cut into its placeholders and the characters between them. When some of
the placeholders have given way to other texts, the text that comes of it may show
a placeholder where none was found: literal text on both sides of a replaced one is
joined, or a mark is shared by two readings.

Texts without `%` and `;` in place of placeholders leave two ways for that. The
placeholder starts with a `%` of the literal text, a *stray*, or it starts with the
last mark of a placeholder that still stands, an *overlap*. Where neither happens
the text is read as it was laid out.

Main facts:

* `replaceAll_filled`: a placeholder that is not misread is replaced where it was
  found, and nowhere else;
* `scan_filled`: without strays, the placeholders of the text are those that were
  found and still stand.
-/

namespace MailMerge.Template

open Text

/-- A text without the characters that marks are made of. -/
def Unmarked (t : Text) : Prop :=
  ∀ c ∈ t, isInner c = true

instance (t : Text) : Decidable (Unmarked t) :=
  List.decidableBAll _ t

/-- Pieces put together, with each placeholder `p` among them given as `f p`. -/
def filled (f : Text → Text) (ps : List Piece) : Text :=
  ps.flatMap fun
    | .single c => [c]
    | .found p => f p

/-- The placeholder that a text starts with, if it starts with one. -/
def placeholderAt? (t : Text) : Option Text :=
  match placeholderWidth t with
  | 0 => none
  | n + 1 => some (t.take (n + 1))

/-- The placeholders of a filled text that start in the literal text. -/
def strays (f : Text → Text) : List Piece → List Text
  | [] => []
  | .single c :: ps => (placeholderAt? (c :: filled f ps)).toList ++ strays f ps
  | .found _ :: ps => strays f ps

/-- The placeholders of a filled text that start with the last mark of another one. -/
def overlaps (f : Text → Text) : List Piece → List Text
  | [] => []
  | .single _ :: ps => overlaps f ps
  | .found p :: ps =>
    (if f p = p then (placeholderAt? ('%' :: filled f ps)).filter (· ≠ p) else none).toList
      ++ overlaps f ps

/-- The placeholders of a filled text that stand where none was found. -/
def misreadings (f : Text → Text) (ps : List Piece) : List Text :=
  strays f ps ++ overlaps f ps

/-- Each placeholder among the pieces stands as it is or has given way to an unmarked text. -/
def UnmarkedFilling (f : Text → Text) (ps : List Piece) : Prop :=
  ∀ p, Piece.found p ∈ ps →
    (∃ inner, IsInside inner ∧ p = wrap inner) ∧ (f p = p ∨ Unmarked (f p))

theorem percent_not_mem
    {t : Text}
    (ht : Unmarked t) :
    '%' ∉ t :=
  (forall_isInner_iff.1 ht).1

theorem not_unmarked_wrap
    (inner : Text) :
    ¬ Unmarked (wrap inner) := by
  intro h
  apply percent_not_mem h
  rw [wrap_eq]
  exact List.mem_cons_self

theorem placeholderAt?_eq_some_of_isPrefix
    {x t : Text}
    (hx : IsInside x)
    (h : wrap x <+: t) :
    placeholderAt? t = some (wrap x) := by
  obtain ⟨rest, rfl⟩ := h
  have hwidth := placeholderWidth_wrap hx.1 hx.2 rest
  unfold placeholderAt?
  split
  · next hzero =>
    rw [hwidth, List.length_eq_zero_iff] at hzero
    exact absurd hzero (wrap_ne_nil x)
  · next n hn =>
    have hlength : n + 1 = (wrap x).length := by
      rw [← hwidth, hn]
    rw [hlength, List.take_left]

theorem width_eq_zero_of_placeholderAt?
    {t : Text}
    (h : placeholderAt? t = none) :
    placeholderWidth t = 0 := by
  unfold placeholderAt? at h
  split at h
  · assumption
  · exact absurd h (by simp)

section Filled

variable {f g : Text → Text}

theorem UnmarkedFilling.tail
    {piece : Piece}
    {ps : List Piece}
    (h : UnmarkedFilling f (piece :: ps)) :
    UnmarkedFilling f ps :=
  fun p hp => h p (List.mem_cons_of_mem _ hp)

theorem filled_congr
    {ps : List Piece}
    (h : ∀ p, Piece.found p ∈ ps → f p = g p) :
    filled f ps = filled g ps := by
  unfold filled
  rw [List.flatMap_def, List.flatMap_def]
  congr 1
  apply List.map_congr_left
  intro piece hpiece
  cases piece with
  | single c => rfl
  | found p => exact h p hpiece

/-- A placeholder that is not misread is replaced where it was found: induction on the
pieces, each of which is passed over or gives way. -/
theorem replaceAll_filled
    {ps : List Piece}
    (hf : UnmarkedFilling f ps)
    {x : Text}
    (hx : IsInside x)
    (hread : wrap x ∉ misreadings f ps)
    (new : Text) :
    replaceAll (wrap x) new (filled f ps) =
      filled (fun q => if f q = wrap x then new else f q) ps := by
  rw [misreadings, List.mem_append, not_or] at hread
  obtain ⟨hstray, hoverlap⟩ := hread
  induction ps with
  | nil =>
      rfl
  | cons piece ps ih =>
      cases piece with
      | single c =>
          rw [strays, List.mem_append, not_or] at hstray
          obtain ⟨hhere, hstray⟩ := hstray
          have hhead : ¬ wrap x <+: c :: filled f ps := by
            intro h
            apply hhere
            rw [placeholderAt?_eq_some_of_isPrefix hx h]
            exact List.mem_singleton_self _
          change replaceAll (wrap x) new (c :: filled f ps) = c :: filled _ ps
          rw [replaceAll_cons_of_not_isPrefix hhead, ih hf.tail hstray hoverlap]
      | found p =>
          rw [overlaps, List.mem_append, not_or] at hoverlap
          obtain ⟨hhere, hoverlap⟩ := hoverlap
          obtain ⟨⟨y, hy, rfl⟩, hp⟩ := hf _ List.mem_cons_self
          change replaceAll (wrap x) new (f (wrap y) ++ filled f ps) =
            (if f (wrap y) = wrap x then new else f (wrap y)) ++ filled _ ps
          rw [← ih hf.tail hstray hoverlap]
          rcases hp with hstands | hunmarked
          · rw [if_pos hstands] at hhere
            rw [hstands]
            by_cases hxy : x = y
            · rw [hxy, if_pos rfl, replaceAll_wrap_append]
            · have hne : wrap x ≠ wrap y := fun h => hxy (wrap_injective h)
              rw [if_neg hne.symm]
              apply replaceAll_wrap_append_of_ne hx hy.2 hxy
              intro h
              apply hhere
              rw [placeholderAt?_eq_some_of_isPrefix hx h]
              simp [Option.filter, hne]
          · have hne : f (wrap y) ≠ wrap x := by
              intro h
              rw [h] at hunmarked
              exact not_unmarked_wrap x hunmarked
            rw [if_neg hne, replaceAll_append_of_no_percent (percent_not_mem hunmarked)]

/-- Without strays, the placeholders of a filled text are those that stand: one that
starts with the last mark of another is not found, as the search is past that mark. -/
theorem scan_filled
    {ps : List Piece}
    (hf : UnmarkedFilling f ps)
    (hstray : strays f ps = []) :
    scan (filled f ps) = (ps.filterMap Piece.found?).filter fun p => f p = p := by
  induction ps with
  | nil =>
      rfl
  | cons piece ps ih =>
      cases piece with
      | single c =>
          obtain ⟨hhere, hstray⟩ := List.append_eq_nil_iff.1 hstray
          have hwidth : placeholderWidth (c :: filled f ps) = 0 :=
            width_eq_zero_of_placeholderAt? (Option.toList_eq_nil_iff.1 hhere)
          change scan (c :: filled f ps) = _
          rw [scan_cons_of_width_eq_zero hwidth, ih hf.tail hstray]
          rfl
      | found p =>
          obtain ⟨⟨y, hy, rfl⟩, hp⟩ := hf _ List.mem_cons_self
          change scan (f (wrap y) ++ filled f ps) =
            (wrap y :: ps.filterMap Piece.found?).filter fun p => f p = p
          rcases hp with hstands | hunmarked
          · rw [List.filter_cons_of_pos (by simpa using hstands), hstands,
              scan_wrap_append hy, ih hf.tail hstray]
          · have hgone : f (wrap y) ≠ wrap y := by
              intro h
              rw [h] at hunmarked
              exact not_unmarked_wrap y hunmarked
            rw [List.filter_cons_of_neg (by simpa using hgone),
              scan_append_of_no_percent (percent_not_mem hunmarked), ih hf.tail hstray]

end Filled

end MailMerge.Template
