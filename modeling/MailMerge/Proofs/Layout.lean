import MailMerge.Template.Placeholder

/-!
# Texts laid out around placeholders

A layout is a text that is cut into literal stretches and placeholders. It is
*clean* when no literal stretch holds the opening mark of a placeholder and none
that stands behind a placeholder starts with `;`, so that a `%` in front of it
cannot open one either. What may take the place of a placeholder without making
a new one is *inert*: it obeys the same two rules.

In a clean layout an opening mark is found only where a placeholder was laid
out, whichever of the placeholders have given way to inert texts. This is all
that the facts below need: it holds for the search for placeholders as for the
search for one of them.

Main facts:

* `scan_text`: the placeholders of a clean layout are those that were laid out;
* `replaceAll_fill`: to replace one of them everywhere in the text is to replace
  it in the layout.
-/

namespace MailMerge.Template

open Text

/-- A text that neither holds an opening mark nor completes one in front of it. -/
def Inert (t : Text) : Prop :=
  ¬ opening <:+: t ∧ t.head? ≠ some ';'

instance (t : Text) : Decidable (Inert t) :=
  inferInstanceAs (Decidable (_ ∧ _))

/-- The text between the marks of a placeholder. -/
def IsInside (inner : Text) : Prop :=
  inner ≠ [] ∧ ∀ c ∈ inner, isInner c = true

-- only the characters that occur are looked at
instance (inner : Text) : Decidable (IsInside inner) :=
  @instDecidableAnd _ _ inferInstance (List.decidableBAll _ inner)

/-- A placeholder, given by what is between its marks, and the literal text behind it. -/
structure Stretch where
  inner : Text
  behind : Text
  isInside : IsInside inner

/-- The placeholder of a stretch. -/
def Stretch.placeholder (s : Stretch) : Text :=
  wrap s.inner

/-- A text cut into literal text and placeholders. -/
structure Layout where
  front : Text
  stretches : List Stretch

namespace Layout

/-- The placeholders of a layout in order, repeated ones included. -/
def placeholders (t : Layout) : List Text :=
  t.stretches.map Stretch.placeholder

/-- The text of some stretches with each placeholder `p` given as `f p`. -/
def fillStretches (f : Text → Text) (stretches : List Stretch) : Text :=
  stretches.flatMap fun s => f s.placeholder ++ s.behind

/-- The text of a layout with each placeholder `p` given as `f p`. -/
def fill (t : Layout) (f : Text → Text) : Text :=
  t.front ++ fillStretches f t.stretches

/-- The text of a layout. -/
def text (t : Layout) : Text :=
  t.fill id

/-- The literal text of a clean layout opens no placeholder. -/
structure Clean (t : Layout) : Prop where
  front : ¬ opening <:+: t.front
  behind : ∀ s ∈ t.stretches, Inert s.behind

end Layout

section Widths

variable {width : Text → Nat}

/-- A search that finds nothing where there is no opening mark. -/
def FindsOpenings (width : Text → Nat) : Prop :=
  ∀ t, ¬ opening <+: t → width t = 0

theorem findsOpenings_placeholderWidth :
    FindsOpenings placeholderWidth := by
  intro t h
  unfold placeholderWidth
  split
  · next rest =>
    exact absurd ⟨rest, rfl⟩ h
  · rfl

theorem opening_isPrefix_wrap
    (inner : Text) :
    opening <+: wrap inner :=
  ⟨inner ++ closing, by simp [wrap]⟩

theorem findsOpenings_markWidth
    (inner : Text) :
    FindsOpenings (markWidth (wrap inner)) := by
  intro t h
  unfold markWidth
  rw [if_neg]
  intro hstart
  exact h ((opening_isPrefix_wrap inner).trans (startsWith_iff_isPrefix.1 hstart))

/-- Neither text without a mark nor its end opens a placeholder. -/
theorem not_opening_isPrefix_of_closed
    {c : Char}
    {cs rest : Text}
    (hfront : ¬ opening <:+: c :: cs)
    (hrest : rest.head? ≠ some ';') :
    ¬ opening <+: c :: (cs ++ rest) := by
  rintro ⟨u, hu⟩
  cases cs with
  | nil =>
      -- the mark would be cut by the seam
      have hu' : ';' :: u = rest := (List.cons.inj hu).2
      exact hrest (by rw [← hu']; rfl)
  | cons d ds =>
      obtain ⟨hc, hds⟩ := List.cons.inj hu
      obtain ⟨hd, -⟩ := List.cons.inj hds
      exact hfront (List.IsPrefix.isInfix ⟨ds, by rw [← hc, ← hd]; rfl⟩)

/-- Literal text is passed over when neither it nor its end opens a placeholder. -/
theorem pieces_append_of_closed
    (hw : FindsOpenings width)
    {front rest : Text}
    (hfront : ¬ opening <:+: front)
    (hrest : rest.head? ≠ some ';') :
    pieces width (front ++ rest) =
      front.map Piece.single ++ pieces width rest := by
  induction front with
  | nil =>
      rfl
  | cons c cs ih =>
      have hcs : ¬ opening <:+: cs := fun h => hfront (List.infix_cons h)
      have hno := not_opening_isPrefix_of_closed hfront hrest
      rw [List.cons_append, pieces_cons_of_width_eq_zero (hw _ hno), ih hcs]
      rfl

/-- A stretch without a `%` is passed over, whatever comes behind it. -/
theorem pieces_append_of_no_percent
    (hw : FindsOpenings width)
    {front : Text}
    (hfront : '%' ∉ front)
    (rest : Text) :
    pieces width (front ++ rest) =
      front.map Piece.single ++ pieces width rest := by
  induction front with
  | nil =>
      rfl
  | cons c cs ih =>
      have hno : ¬ opening <+: c :: (cs ++ rest) := by
        rintro ⟨u, hu⟩
        exact hfront (by rw [← (List.cons.inj hu).1]; exact List.mem_cons_self)
      rw [List.cons_append, pieces_cons_of_width_eq_zero (hw _ hno),
        ih (fun h => hfront (List.mem_cons_of_mem _ h))]
      rfl

/-- An occurrence at the head of a text is a piece of it. -/
theorem pieces_append_of_width
    {found rest : Text}
    (hne : found ≠ [])
    (h : width (found ++ rest) = found.length) :
    pieces width (found ++ rest) = .found found :: pieces width rest := by
  cases found with
  | nil =>
      exact absurd rfl hne
  | cons c cs =>
      rw [List.cons_append] at h ⊢
      rw [pieces_of_width_eq_succ h]
      simp

end Widths

section Placeholders

/-- A text starts with the placeholder that its width is of. -/
theorem exists_wrap_of_placeholderWidth
    {t : Text}
    {n : Nat}
    (h : placeholderWidth t = n + 1) :
    ∃ inner, IsInside inner ∧ t.take (n + 1) = wrap inner := by
  unfold placeholderWidth at h
  split at h
  · next rest =>
    dsimp only at h
    split at h
    · next c cs after hinner hafter =>
      have hrest : rest = (c :: cs) ++ ';' :: '%' :: after := by
        rw [← hinner, ← hafter, List.takeWhile_append_dropWhile]
      refine ⟨c :: cs, ⟨List.cons_ne_nil c cs, ?_⟩, ?_⟩
      · intro d hd
        rw [← hinner] at hd
        exact List.all_eq_true.1 List.all_takeWhile d hd
      · have hlength : n + 1 = (wrap (c :: cs)).length := by
          rw [← h, hinner]
          simp [wrap, opening, closing]
        have hsplit : '%' :: ';' :: rest = wrap (c :: cs) ++ after := by
          rw [hrest]
          simp [wrap, opening, closing]
        rw [hlength, hsplit, List.take_left]
    · exact absurd h (by simp)
  · exact absurd h (by simp)

/-- The placeholders of a text have the shape of one. -/
theorem exists_wrap_of_found_mem_pieces
    {t p : Text}
    (h : Piece.found p ∈ pieces placeholderWidth t) :
    ∃ inner, IsInside inner ∧ p = wrap inner := by
  obtain ⟨u, n, hwidth, rfl⟩ := exists_width_of_found_mem_pieces h
  exact exists_wrap_of_placeholderWidth hwidth

end Placeholders

section Replacement

variable {x y new : Text}

theorem wrap_ne_nil
    (inner : Text) :
    wrap inner ≠ [] := by
  simp [wrap, opening]

theorem wrap_injective :
    Function.Injective wrap := by
  intro x y h
  unfold wrap at h
  exact List.append_cancel_left (List.append_cancel_right h)

/-- A placeholder is a `%`, a stretch without one, and a `%` again. -/
theorem wrap_eq
    (inner : Text) :
    wrap inner = '%' :: ((';' :: inner ++ [';']) ++ ['%']) := by
  simp [wrap, opening, closing]

theorem percent_not_mem_middle
    (hy : ∀ c ∈ y, isInner c = true) :
    '%' ∉ ';' :: y ++ [';'] := by
  intro h
  rcases List.mem_append.1 h with h | h
  · rcases List.mem_cons.1 h with h | h
    · exact absurd h (by decide)
    · exact (forall_isInner_iff.1 hy).1 h
  · exact absurd (List.mem_singleton.1 h) (by decide)

/-- Without a `;` behind it, a character opens no placeholder. -/
theorem not_wrap_isPrefix_of_head?
    {c : Char}
    {rest : Text}
    (hrest : rest.head? ≠ some ';') :
    ¬ wrap x <+: c :: rest := by
  rintro ⟨u, hu⟩
  rw [wrap_eq] at hu
  apply hrest
  rw [← (List.cons.inj hu).2]
  rfl

/-- A placeholder starts with no other placeholder, nor do marks with nothing between
them start with one. -/
theorem eq_of_wrap_isPrefix
    (hx : IsInside x)
    (hy : ∀ c ∈ y, isInner c = true)
    {rest : Text}
    (h : wrap x <+: wrap y ++ rest) :
    x = y := by
  obtain ⟨u, hu⟩ := h
  have hxy : x ++ ';' :: '%' :: u = y ++ ';' :: '%' :: rest := by
    simpa [wrap, opening, closing] using hu
  have htake := congrArg (List.takeWhile isInner) hxy
  rwa [takeWhile_isInner_append hx.2, takeWhile_isInner_append hy] at htake

/-- What a search passes over is not replaced. -/
theorem replaceAll_append_of_passed
    {mark : Text}
    (front : Text)
    {rest : Text}
    (h : pieces (markWidth mark) (front ++ rest) =
      front.map Piece.single ++ pieces (markWidth mark) rest) :
    replaceAll mark new (front ++ rest) = front ++ replaceAll mark new rest := by
  unfold replaceAll replaceWith
  rw [h]
  simp [List.flatMap_append, List.flatMap_map]

theorem replaceAll_append_of_closed
    {front rest : Text}
    (hfront : ¬ opening <:+: front)
    (hrest : rest.head? ≠ some ';') :
    replaceAll (wrap x) new (front ++ rest) =
      front ++ replaceAll (wrap x) new rest :=
  replaceAll_append_of_passed front
    (pieces_append_of_closed (findsOpenings_markWidth x) hfront hrest)

theorem replaceAll_append_of_no_percent
    {front : Text}
    (hfront : '%' ∉ front)
    (rest : Text) :
    replaceAll (wrap x) new (front ++ rest) =
      front ++ replaceAll (wrap x) new rest :=
  replaceAll_append_of_passed front
    (pieces_append_of_no_percent (findsOpenings_markWidth x) hfront rest)

theorem replaceAll_cons_of_not_isPrefix
    {mark : Text}
    {c : Char}
    {rest : Text}
    (h : ¬ mark <+: c :: rest) :
    replaceAll mark new (c :: rest) = c :: replaceAll mark new rest := by
  have hwidth : markWidth mark (c :: rest) = 0 := by
    unfold markWidth
    rw [if_neg (fun hstart => h (startsWith_iff_isPrefix.1 hstart))]
  exact replaceAll_append_of_passed [c] (pieces_cons_of_width_eq_zero hwidth)

/-- A mark at the head of a text is replaced. -/
theorem replaceAll_mark_append
    {mark : Text}
    (hmark : mark ≠ [])
    (rest : Text) :
    replaceAll mark new (mark ++ rest) = new ++ replaceAll mark new rest := by
  have hwidth : markWidth mark (mark ++ rest) = mark.length := by
    unfold markWidth
    rw [if_pos (startsWith_iff_isPrefix.2 ⟨rest, rfl⟩)]
  unfold replaceAll replaceWith
  rw [pieces_append_of_width hmark hwidth]
  rfl

/-- A stretch without the first character of a mark is passed over. -/
theorem replaceAll_append_of_not_mem
    {c : Char}
    {mark front : Text}
    (hmark : mark.head? = some c)
    (hfront : c ∉ front)
    (rest : Text) :
    replaceAll mark new (front ++ rest) = front ++ replaceAll mark new rest := by
  induction front with
  | nil =>
      rfl
  | cons d ds ih =>
      have hno : ¬ mark <+: d :: (ds ++ rest) := by
        rintro ⟨u, hu⟩
        obtain ⟨cs, rfl⟩ := List.head?_eq_some_iff.1 hmark
        exact hfront (by rw [(List.cons.inj hu).1]; exact List.mem_cons_self)
      rw [List.cons_append, replaceAll_cons_of_not_isPrefix hno,
        ih fun h => hfront (List.mem_cons_of_mem _ h)]
      rfl

/-- The directive of a placeholder is what stands between its marks, without markup tags and
without the blanks around it. There need not be anything between the marks. -/
theorem directiveText_wrap
    {inner : Text}
    (hinner : ∀ c ∈ inner, isInner c = true) :
    directiveText (wrap inner) = trim (stripTags inner) := by
  obtain ⟨hpercent, hsemicolon⟩ := forall_isInner_iff.1 hinner
  have hopening : removeAll opening (wrap inner) = inner ++ closing := by
    unfold removeAll wrap
    rw [List.append_assoc, replaceAll_mark_append (by decide), List.nil_append,
      replaceAll_append_of_not_mem rfl hpercent]
    rfl
  have hclosing : removeAll closing (inner ++ closing) = inner := by
    unfold removeAll
    rw [replaceAll_append_of_not_mem rfl hsemicolon]
    exact List.append_nil inner
  unfold directiveText
  rw [hopening, hclosing]

theorem replaceAll_wrap_append
    (rest : Text) :
    replaceAll (wrap x) new (wrap x ++ rest) =
      new ++ replaceAll (wrap x) new rest :=
  replaceAll_mark_append (wrap_ne_nil x) rest

/-- Another placeholder at the head of a text, or marks with nothing between them, is
passed over, unless the last mark opens the one that is replaced. -/
theorem replaceAll_wrap_append_of_ne
    (hx : IsInside x)
    (hy : ∀ c ∈ y, isInner c = true)
    (hxy : x ≠ y)
    {rest : Text}
    (hlast : ¬ wrap x <+: '%' :: rest) :
    replaceAll (wrap x) new (wrap y ++ rest) =
      wrap y ++ replaceAll (wrap x) new rest := by
  have hfirst : ¬ wrap x <+: wrap y ++ rest :=
    fun h => hxy (eq_of_wrap_isPrefix hx hy h)
  rw [wrap_eq y, List.cons_append, List.append_assoc] at hfirst ⊢
  rw [replaceAll_cons_of_not_isPrefix hfirst,
    replaceAll_append_of_no_percent (percent_not_mem_middle hy), List.singleton_append,
    replaceAll_cons_of_not_isPrefix hlast]
  simp

end Replacement

section Search

/-- What a search passes over holds no placeholder. -/
theorem scan_append_of_passed
    (front : Text)
    {rest : Text}
    (h : pieces placeholderWidth (front ++ rest) =
      front.map Piece.single ++ pieces placeholderWidth rest) :
    scan (front ++ rest) = scan rest := by
  have hsingles : (front.map Piece.single).filterMap Piece.found? = [] := by
    rw [List.filterMap_eq_nil_iff]
    intro piece hpiece
    obtain ⟨c, -, rfl⟩ := List.mem_map.1 hpiece
    rfl
  unfold scan occurrences
  rw [h, List.filterMap_append, hsingles, List.nil_append]

theorem scan_append_of_closed
    {front rest : Text}
    (hfront : ¬ opening <:+: front)
    (hrest : rest.head? ≠ some ';') :
    scan (front ++ rest) = scan rest :=
  scan_append_of_passed front
    (pieces_append_of_closed findsOpenings_placeholderWidth hfront hrest)

theorem scan_append_of_no_percent
    {front : Text}
    (hfront : '%' ∉ front)
    (rest : Text) :
    scan (front ++ rest) = scan rest :=
  scan_append_of_passed front
    (pieces_append_of_no_percent findsOpenings_placeholderWidth hfront rest)

theorem scan_cons_of_width_eq_zero
    {c : Char}
    {rest : Text}
    (h : placeholderWidth (c :: rest) = 0) :
    scan (c :: rest) = scan rest :=
  scan_append_of_passed [c] (pieces_cons_of_width_eq_zero h)

theorem scan_wrap_append
    {inner : Text}
    (hinner : IsInside inner)
    (rest : Text) :
    scan (wrap inner ++ rest) = wrap inner :: scan rest := by
  unfold scan occurrences
  rw [pieces_append_of_width (wrap_ne_nil inner)
    (placeholderWidth_wrap hinner.1 hinner.2 rest)]
  rfl

end Search

namespace Layout

variable {f : Text → Text} {t : Layout}

/-- A placeholder stands as it is or has given way to an inert text. -/
def Settled (f : Text → Text) (p : Text) : Prop :=
  f p = p ∨ Inert (f p)

theorem head?_wrap_append
    (inner rest : Text) :
    (wrap inner ++ rest).head? = some '%' := by
  simp [wrap, opening]

theorem ne_wrap_of_inert
    {new : Text}
    (h : Inert new)
    (inner : Text) :
    new ≠ wrap inner := by
  intro hnew
  exact h.1 (hnew ▸ (opening_isPrefix_wrap inner).isInfix)

/-- An inert text does not put a `;` in front. -/
theorem head?_inert_append
    {front rest : Text}
    (hfront : Inert front)
    (hrest : rest.head? ≠ some ';') :
    (front ++ rest).head? ≠ some ';' := by
  rw [List.head?_append]
  rcases h : front.head? with _ | c
  · simpa using hrest
  · have hc := hfront.2
    rw [h] at hc
    simpa using hc

/-- Nor does a text that is settled. -/
theorem head?_settled_append
    {y front rest : Text}
    (hfront : front = wrap y ∨ Inert front)
    (hrest : rest.head? ≠ some ';') :
    (front ++ rest).head? ≠ some ';' := by
  rcases hfront with rfl | hinert
  · rw [head?_wrap_append]
    decide
  · exact head?_inert_append hinert hrest

/-- A settled text is replaced as a whole or not at all, whatever comes behind it. -/
theorem replaceAll_settled_append
    {x y new front rest : Text}
    (hx : IsInside x)
    (hy : ∀ c ∈ y, isInner c = true)
    (hfront : front = wrap y ∨ Inert front)
    (hrest : rest.head? ≠ some ';') :
    replaceAll (wrap x) new (front ++ rest) =
      (if front = wrap x then new else front) ++ replaceAll (wrap x) new rest := by
  rcases hfront with rfl | hinert
  · by_cases hxy : x = y
    · subst hxy
      rw [if_pos rfl, replaceAll_wrap_append]
    · have hother : wrap y ≠ wrap x := fun h => hxy (wrap_injective h.symm)
      rw [if_neg hother, replaceAll_wrap_append_of_ne hx hy hxy (not_wrap_isPrefix_of_head? hrest)]
  · rw [if_neg (ne_wrap_of_inert hinert x), replaceAll_append_of_closed hinert.1 hrest]

theorem fillStretches_cons
    (s : Stretch)
    (ss : List Stretch) :
    fillStretches f (s :: ss) =
      f s.placeholder ++ (s.behind ++ fillStretches f ss) := by
  simp [fillStretches]

/-- No seam inside of a clean layout completes an opening mark. -/
theorem head?_fillStretches
    {stretches : List Stretch}
    (hb : ∀ s ∈ stretches, Inert s.behind)
    (hf : ∀ s ∈ stretches, Settled f s.placeholder) :
    (fillStretches f stretches).head? ≠ some ';' := by
  induction stretches with
  | nil =>
      simp [fillStretches]
  | cons s ss ih =>
      have hss := ih (fun r hr => hb r (List.mem_cons_of_mem _ hr))
        (fun r hr => hf r (List.mem_cons_of_mem _ hr))
      have hrest := head?_inert_append (hb s List.mem_cons_self) hss
      rw [fillStretches_cons]
      exact head?_settled_append (hf s List.mem_cons_self) hrest

theorem scan_fillStretches
    {stretches : List Stretch}
    (hb : ∀ s ∈ stretches, Inert s.behind)
    (hf : ∀ s ∈ stretches, Settled f s.placeholder) :
    scan (fillStretches f stretches) =
      (stretches.map Stretch.placeholder).filter fun p => f p = p := by
  induction stretches with
  | nil =>
      rfl
  | cons s ss ih =>
      have hbs : ∀ r ∈ ss, Inert r.behind :=
        fun r hr => hb r (List.mem_cons_of_mem _ hr)
      have hfs : ∀ r ∈ ss, Settled f r.placeholder :=
        fun r hr => hf r (List.mem_cons_of_mem _ hr)
      have hhead := head?_fillStretches hbs hfs
      have hrest := head?_inert_append (hb s List.mem_cons_self) hhead
      have hbehind : scan (s.behind ++ fillStretches f ss) = scan (fillStretches f ss) :=
        scan_append_of_closed (hb s List.mem_cons_self).1 hhead
      rw [fillStretches_cons, List.map_cons]
      rcases hf s List.mem_cons_self with hsame | hinert
      · rw [List.filter_cons_of_pos (by simpa using hsame), hsame]
        unfold Stretch.placeholder
        rw [scan_wrap_append s.isInside, hbehind, ih hbs hfs]
        rfl
      · have hgone : f s.placeholder ≠ s.placeholder :=
          ne_wrap_of_inert hinert s.inner
        rw [List.filter_cons_of_neg (by simpa using hgone),
          scan_append_of_closed hinert.1 hrest, hbehind, ih hbs hfs]

theorem replaceAll_fillStretches
    {stretches : List Stretch}
    (hb : ∀ s ∈ stretches, Inert s.behind)
    (hf : ∀ s ∈ stretches, Settled f s.placeholder)
    {x : Text}
    (hx : IsInside x)
    (new : Text) :
    replaceAll (wrap x) new (fillStretches f stretches) =
      fillStretches (fun p => if f p = wrap x then new else f p) stretches := by
  induction stretches with
  | nil =>
      rfl
  | cons s ss ih =>
      have hbs : ∀ r ∈ ss, Inert r.behind :=
        fun r hr => hb r (List.mem_cons_of_mem _ hr)
      have hfs : ∀ r ∈ ss, Settled f r.placeholder :=
        fun r hr => hf r (List.mem_cons_of_mem _ hr)
      have hhead := head?_fillStretches hbs hfs
      have hrest := head?_inert_append (hb s List.mem_cons_self) hhead
      have hbehind :
          replaceAll (wrap x) new (s.behind ++ fillStretches f ss) =
            s.behind ++ replaceAll (wrap x) new (fillStretches f ss) :=
        replaceAll_append_of_closed (hb s List.mem_cons_self).1 hhead
      rw [fillStretches_cons, fillStretches_cons,
        replaceAll_settled_append hx s.isInside.2 (hf s List.mem_cons_self) hrest, hbehind,
        ih hbs hfs]

theorem fill_congr
    {g : Text → Text}
    (h : ∀ p ∈ t.placeholders, f p = g p) :
    t.fill f = t.fill g := by
  have hmap :
      (t.stretches.map fun s => f s.placeholder ++ s.behind) =
        t.stretches.map fun s => g s.placeholder ++ s.behind := by
    apply List.map_congr_left
    intro s hs
    rw [h s.placeholder (List.mem_map_of_mem hs)]
  unfold fill fillStretches
  rw [List.flatMap_def, List.flatMap_def, hmap]

/-- The placeholders that are found are those that stand as they are. -/
theorem scan_fill
    (ht : t.Clean)
    (hf : ∀ p ∈ t.placeholders, Settled f p) :
    scan (t.fill f) = t.placeholders.filter fun p => f p = p := by
  have hs : ∀ s ∈ t.stretches, Settled f s.placeholder :=
    fun s hs => hf _ (List.mem_map_of_mem hs)
  unfold fill placeholders
  rw [scan_append_of_closed ht.front (head?_fillStretches ht.behind hs)]
  exact scan_fillStretches ht.behind hs

/-- The placeholders of a clean layout are those that were laid out. -/
theorem scan_text
    (ht : t.Clean) :
    scan t.text = t.placeholders := by
  have h := scan_fill (f := id) ht (fun p _ => Or.inl rfl)
  unfold text
  rw [h]
  simp

/-- To replace a placeholder everywhere in the text is to replace it in the layout. -/
theorem replaceAll_fill
    (ht : t.Clean)
    (hf : ∀ p ∈ t.placeholders, Settled f p)
    {x : Text}
    (hx : IsInside x)
    (new : Text) :
    replaceAll (wrap x) new (t.fill f) =
      t.fill fun p => if f p = wrap x then new else f p := by
  have hs : ∀ s ∈ t.stretches, Settled f s.placeholder :=
    fun s hs => hf _ (List.mem_map_of_mem hs)
  unfold fill
  rw [replaceAll_append_of_closed ht.front (head?_fillStretches ht.behind hs),
    replaceAll_fillStretches ht.behind hs hx]

end Layout

end MailMerge.Template
