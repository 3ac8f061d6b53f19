import MailMerge.Proofs.Layout

/-!
# No placeholder is missed

A layout says where its placeholders stand. It is *complete* when every occurrence
of a placeholder anywhere in its text is one of them, at its place, or starts with
the last mark of one of them and so shares that mark with it.

A layout is nothing, a character in front of a layout, or a placeholder in front of
one. A character in front keeps a layout complete when no placeholder starts with
it; a placeholder in front always does. So a text decides from left to right which
layout of it is complete, just as the search for placeholders does.

Main facts:

* `complete_afterCharacter_iff`, `complete_afterPlaceholder_iff`: what the head of a
  text means for completeness;
* `exists_complete`, `Complete.eq_of_text_eq`: a text has exactly one complete layout;
* `scan_eq_placeholders_of_complete_layout`: its placeholders are those that are
  found.
-/

namespace MailMerge.Template

open Text

namespace Layout

/-- The placeholders of some stretches with the places at which they start, the first
one at place `n`. -/
def placedFrom (n : Nat) : List Stretch → List (Nat × Text)
  | [] => []
  | s :: rest =>
    (n, s.placeholder) :: placedFrom (n + (s.placeholder ++ s.behind).length) rest

/-- The placeholders of a layout with the places at which they start in its text. -/
def placed (t : Layout) : List (Nat × Text) :=
  placedFrom t.front.length t.stretches

/-- One of the placeholders starts at a place with the given text, or ends with the
character at that place. -/
def CoveredBy (placed : List (Nat × Text)) (i : Nat) (p : Text) : Prop :=
  (i, p) ∈ placed ∨ ∃ j q, (j, q) ∈ placed ∧ i + 1 = j + q.length

/-- The layout covers every occurrence of a placeholder in its text. -/
def Complete (t : Layout) : Prop :=
  ∀ i inner, IsInside inner → wrap inner <+: t.text.drop i → CoveredBy t.placed i (wrap inner)

/-- The layout of a text without characters. -/
def nothing : Layout :=
  ⟨[], []⟩

/-- A layout with a character of literal text in front of it. -/
def afterCharacter (c : Char) (t : Layout) : Layout :=
  { t with front := c :: t.front }

/-- A layout with a placeholder in front of it. -/
def afterPlaceholder (inner : Text) (h : IsInside inner) (t : Layout) : Layout :=
  ⟨[], ⟨inner, t.front, h⟩ :: t.stretches⟩

section Heads

variable {c : Char} {inner : Text} {t : Layout}

theorem text_afterCharacter :
    (afterCharacter c t).text = c :: t.text :=
  rfl

theorem text_afterPlaceholder
    (h : IsInside inner) :
    (afterPlaceholder inner h t).text = wrap inner ++ t.text := by
  simp [afterPlaceholder, text, fill, fillStretches, Stretch.placeholder]

theorem length_text_lt_afterPlaceholder
    (h : IsInside inner) :
    t.text.length < (afterPlaceholder inner h t).text.length := by
  have hpos := List.length_pos_iff.2 (wrap_ne_nil inner)
  rw [text_afterPlaceholder, List.length_append]
  omega

/-- Induction from the head of the text: a layout is nothing, or literal text or a
placeholder comes in front of a smaller one. -/
@[elab_as_elim]
theorem heads
    {P : Layout → Prop}
    (nothing : P nothing)
    (character : ∀ c t, P t → P (afterCharacter c t))
    (placeholder : ∀ inner h t, P t → P (afterPlaceholder inner h t))
    (t : Layout) :
    P t := by
  induction hn : t.text.length using Nat.strongRecOn generalizing t with
  | ind n ih =>
      obtain ⟨front, stretches⟩ := t
      cases front with
      | cons c cs =>
          exact character c ⟨cs, stretches⟩
            (ih _ (by rw [← hn]; exact Nat.lt_succ_self _) _ rfl)
      | nil =>
          cases stretches with
          | nil =>
              exact nothing
          | cons s rest =>
              exact placeholder s.inner s.isInside ⟨s.behind, rest⟩
                (ih _ (by rw [← hn]; exact length_text_lt_afterPlaceholder s.isInside) _ rfl)

theorem placedFrom_add
    (k n : Nat)
    (stretches : List Stretch) :
    placedFrom (k + n) stretches = (placedFrom n stretches).map (Prod.map (k + ·) id) := by
  induction stretches generalizing n with
  | nil =>
      rfl
  | cons s rest ih =>
      rw [placedFrom, placedFrom, List.map_cons, ← ih, Nat.add_assoc]
      rfl

theorem placed_afterCharacter :
    (afterCharacter c t).placed = t.placed.map (Prod.map (1 + ·) id) := by
  unfold placed afterCharacter
  rw [List.length_cons, Nat.add_comm, placedFrom_add]

theorem placed_afterPlaceholder
    (h : IsInside inner) :
    (afterPlaceholder inner h t).placed =
      (0, wrap inner) :: t.placed.map (Prod.map ((wrap inner).length + ·) id) := by
  unfold placed afterPlaceholder
  rw [List.length_nil, placedFrom, Nat.zero_add, List.length_append, placedFrom_add]
  rfl

theorem exists_wrap_of_mem_placed
    {i : Nat}
    {p : Text}
    (h : (i, p) ∈ t.placed) :
    ∃ x, p = wrap x := by
  have hfrom : ∀ (stretches : List Stretch) (n : Nat),
      (i, p) ∈ placedFrom n stretches → ∃ x, p = wrap x := by
    intro stretches
    induction stretches with
    | nil =>
        intro n h
        exact absurd h List.not_mem_nil
    | cons s rest ih =>
        intro n h
        rcases List.mem_cons.1 h with h | h
        · exact ⟨s.inner, (Prod.mk.inj h).2⟩
        · exact ih _ h
  exact hfrom t.stretches _ h

/-- Places move on by the length of what comes in front. -/
theorem coveredBy_map_iff
    {placed : List (Nat × Text)}
    {i : Nat}
    {p : Text}
    (k : Nat) :
    CoveredBy (placed.map (Prod.map (k + ·) id)) (k + i) p ↔ CoveredBy placed i p := by
  unfold CoveredBy
  constructor
  · rintro (h | ⟨j, q, h, hend⟩)
    · obtain ⟨⟨j, q⟩, hmem, heq⟩ := List.mem_map.1 h
      obtain ⟨hj, rfl⟩ := Prod.mk.inj heq
      obtain rfl : j = i := Nat.add_left_cancel hj
      exact Or.inl hmem
    · obtain ⟨⟨j', q'⟩, hmem, heq⟩ := List.mem_map.1 h
      obtain ⟨rfl, rfl⟩ := Prod.mk.inj heq
      refine Or.inr ⟨j', q', hmem, ?_⟩
      dsimp only [id] at hend
      omega
  · rintro (h | ⟨j, q, h, hend⟩)
    · exact Or.inl (List.mem_map.2 ⟨_, h, rfl⟩)
    · exact Or.inr ⟨k + j, q, List.mem_map.2 ⟨_, h, rfl⟩, by omega⟩

end Heads

section Completeness

variable {c : Char} {inner : Text} {t u : Layout}

theorem complete_nothing :
    nothing.Complete := by
  intro i x _ hx
  have hnil : nothing.text.drop i = [] := List.drop_nil
  rw [hnil, List.prefix_nil] at hx
  exact absurd hx (wrap_ne_nil x)

/-- A character may stand in front of a complete layout unless a placeholder starts
with it. -/
theorem complete_afterCharacter_iff :
    (afterCharacter c t).Complete ↔ t.Complete ∧ placeholderWidth (c :: t.text) = 0 := by
  constructor
  · intro h
    constructor
    · intro i x hx hocc
      rw [← coveredBy_map_iff 1, ← placed_afterCharacter (c := c)]
      apply h (1 + i) x hx
      rwa [text_afterCharacter, Nat.add_comm, List.drop_succ_cons]
    · rcases hw : placeholderWidth (c :: t.text) with _ | n
      · rfl
      · obtain ⟨x, hx, htake⟩ := exists_wrap_of_placeholderWidth hw
        have hcovered := h 0 x hx (by rw [← htake]; exact List.take_prefix _ _)
        rw [placed_afterCharacter] at hcovered
        -- all that is laid out lies behind the character, and none of it is empty
        rcases hcovered with hmem | ⟨j, q, hmem, hend⟩
        · obtain ⟨⟨j, q⟩, -, heq⟩ := List.mem_map.1 hmem
          have hj : 1 + j = 0 := (Prod.mk.inj heq).1
          omega
        · obtain ⟨⟨j', q'⟩, hmem', heq⟩ := List.mem_map.1 hmem
          obtain ⟨rfl, rfl⟩ := Prod.mk.inj heq
          obtain ⟨y, rfl⟩ := exists_wrap_of_mem_placed hmem'
          have hlength := List.length_pos_iff.2 (wrap_ne_nil y)
          dsimp only [id] at hend
          omega
  · rintro ⟨h, hwidth⟩ i x hx hocc
    rw [placed_afterCharacter]
    cases i with
    | zero =>
        obtain ⟨rest, hrest⟩ := hocc
        rw [List.drop_zero, text_afterCharacter] at hrest
        rw [← hrest, placeholderWidth_wrap hx.1 hx.2, List.length_eq_zero_iff] at hwidth
        exact absurd hwidth (wrap_ne_nil x)
    | succ i =>
        rw [Nat.add_comm, coveredBy_map_iff]
        exact h i x hx hocc

/-- Inside of a placeholder another one can only start with the last mark. -/
theorem eq_length_of_occurs_inside
    {x : Text}
    (h : IsInside inner)
    {i : Nat}
    (hpos : 0 < i)
    (hlt : i < (wrap inner).length)
    {rest : Text}
    (hocc : wrap x <+: (wrap inner ++ rest).drop i) :
    i + 1 = (wrap inner).length := by
  obtain ⟨j, rfl⟩ : ∃ j, i = j + 1 := ⟨i - 1, by omega⟩
  have hlength : (wrap inner).length = (';' :: inner ++ [';']).length + 2 := by
    rw [wrap_eq]
    simp
  rcases Nat.lt_or_ge j (';' :: inner ++ [';']).length with hj | hj
  · obtain ⟨u, hu⟩ := hocc
    rw [wrap_eq inner, List.cons_append, List.drop_succ_cons, List.append_assoc,
      List.drop_append_of_le_length (Nat.le_of_lt hj), wrap_eq x] at hu
    rw [List.drop_eq_getElem_cons hj] at hu
    -- a mark would open in the middle, where no `%` is
    have hmem := List.getElem_mem hj
    rw [← (List.cons.inj hu).1] at hmem
    exact absurd hmem (percent_not_mem_middle h.2)
  · omega

/-- A placeholder may stand in front of every complete layout. -/
theorem complete_afterPlaceholder_iff
    (h : IsInside inner) :
    (afterPlaceholder inner h t).Complete ↔ t.Complete := by
  have hlength := List.length_pos_iff.2 (wrap_ne_nil inner)
  constructor
  · intro hcomplete i x hx hocc
    have hcovered := hcomplete ((wrap inner).length + i) x hx (by
      rwa [text_afterPlaceholder, List.drop_length_add_append])
    rw [placed_afterPlaceholder] at hcovered
    rw [← coveredBy_map_iff (wrap inner).length]
    rcases hcovered with hmem | ⟨j, q, hmem, hend⟩
    · rcases List.mem_cons.1 hmem with heq | hmem
      · have hzero := (Prod.mk.inj heq).1
        omega
      · exact Or.inl hmem
    · rcases List.mem_cons.1 hmem with heq | hmem
      · obtain ⟨rfl, rfl⟩ := Prod.mk.inj heq
        omega
      · exact Or.inr ⟨j, q, hmem, hend⟩
  · intro hcomplete i x hx hocc
    rw [text_afterPlaceholder] at hocc
    rw [placed_afterPlaceholder]
    rcases Nat.eq_zero_or_pos i with rfl | hpos
    · obtain rfl := eq_of_wrap_isPrefix hx h.2 hocc
      exact Or.inl List.mem_cons_self
    · rcases Nat.lt_or_ge i (wrap inner).length with hlt | hge
      · have hend := eq_length_of_occurs_inside h hpos hlt hocc
        exact Or.inr ⟨0, wrap inner, List.mem_cons_self, by omega⟩
      · obtain ⟨k, rfl⟩ := Nat.exists_eq_add_of_le hge
        have hcovered := hcomplete k x hx (by
          rwa [List.drop_length_add_append] at hocc)
        rw [← coveredBy_map_iff (wrap inner).length] at hcovered
        rcases hcovered with hmem | ⟨j, q, hmem, hend⟩
        · exact Or.inl (List.mem_cons_of_mem _ hmem)
        · exact Or.inr ⟨j, q, List.mem_cons_of_mem _ hmem, hend⟩

end Completeness

section Uniqueness

variable {t u : Layout}

theorem text_eq_nil_iff :
    t.text = [] ↔ t = nothing := by
  constructor
  · intro h
    cases t using heads with
    | nothing =>
        rfl
    | character c t =>
        exact absurd h (List.cons_ne_nil c t.text)
    | placeholder inner hinner t =>
        rw [text_afterPlaceholder] at h
        exact absurd (List.append_eq_nil_iff.1 h).1 (wrap_ne_nil inner)
  · rintro rfl
    rfl

/-- A complete layout starts with a placeholder where its text does, and nowhere else. -/
theorem Complete.ne_of_heads
    {c : Char}
    {inner : Text}
    {hinner : IsInside inner}
    (ht : (afterCharacter c t).Complete)
    (h : (afterCharacter c t).text = (afterPlaceholder inner hinner u).text) :
    False := by
  have hwidth := (complete_afterCharacter_iff.1 ht).2
  rw [text_afterCharacter, text_afterPlaceholder] at h
  rw [h, placeholderWidth_wrap hinner.1 hinner.2, List.length_eq_zero_iff] at hwidth
  exact wrap_ne_nil inner hwidth

/-- A text has at most one complete layout, as its head decides how the layout starts. -/
theorem Complete.eq_of_text_eq
    (ht : t.Complete)
    (hu : u.Complete)
    (h : t.text = u.text) :
    t = u := by
  induction t using heads generalizing u with
  | nothing =>
      exact (text_eq_nil_iff.1 h.symm).symm
  | character c t ih =>
      cases u using heads with
      | nothing =>
          exact text_eq_nil_iff.1 h
      | character d u =>
          obtain ⟨rfl, hrest⟩ := List.cons.inj h
          rw [ih (complete_afterCharacter_iff.1 ht).1 (complete_afterCharacter_iff.1 hu).1 hrest]
      | placeholder inner hinner u =>
          exact (ht.ne_of_heads h).elim
  | placeholder inner hinner t ih =>
      cases u using heads with
      | nothing =>
          exact text_eq_nil_iff.1 h
      | character d u =>
          exact (hu.ne_of_heads h.symm).elim
      | placeholder other hother u =>
          rw [text_afterPlaceholder, text_afterPlaceholder] at h
          obtain rfl := eq_of_wrap_isPrefix hinner hother.2 ⟨t.text, h⟩
          rw [ih ((complete_afterPlaceholder_iff hinner).1 ht)
            ((complete_afterPlaceholder_iff hother).1 hu) (List.append_cancel_left h)]

/-- Every text has a complete layout: a placeholder that starts it is laid out, any
other first character is literal text. -/
theorem exists_complete
    (text : Text) :
    ∃ t : Layout, t.text = text ∧ t.Complete := by
  induction text using alongPieces placeholderWidth with
  | nil =>
      exact ⟨nothing, rfl, complete_nothing⟩
  | single c cs hw ih =>
      obtain ⟨t, rfl, ht⟩ := ih
      exact ⟨afterCharacter c t, rfl, complete_afterCharacter_iff.2 ⟨ht, hw⟩⟩
  | found c cs n hw ih =>
      obtain ⟨inner, hinner, htake⟩ := exists_wrap_of_placeholderWidth hw
      obtain ⟨t, htext, ht⟩ := ih
      refine ⟨afterPlaceholder inner hinner t, ?_, (complete_afterPlaceholder_iff hinner).2 ht⟩
      rw [text_afterPlaceholder, htext, ← htake]
      exact List.take_append_drop (n + 1) (c :: cs)

/-- The placeholders that are found in the text of a complete layout are those that
were laid out. -/
theorem Complete.scan_eq_placeholders
    (ht : t.Complete) :
    scan t.text = t.placeholders := by
  induction t using heads with
  | nothing =>
      rfl
  | character c t ih =>
      obtain ⟨ht, hwidth⟩ := complete_afterCharacter_iff.1 ht
      rw [text_afterCharacter, scan_cons_of_width_eq_zero hwidth, ih ht]
      rfl
  | placeholder inner hinner t ih =>
      rw [text_afterPlaceholder, scan_wrap_append hinner,
        ih ((complete_afterPlaceholder_iff hinner).1 ht)]
      rfl

end Uniqueness

end Layout

/-- The placeholders that are found in a text are those of its one complete layout: each
occurrence of a placeholder in the text is one of them, at its place, or starts with
the last mark of one of them. -/
theorem scan_eq_placeholders_of_complete_layout
    (text : Text) :
    ∃ t : Layout, (t.text = text ∧ t.Complete) ∧ scan text = t.placeholders ∧
      ∀ u : Layout, u.text = text ∧ u.Complete → u = t := by
  obtain ⟨t, rfl, ht⟩ := Layout.exists_complete text
  refine ⟨t, ⟨rfl, ht⟩, ht.scan_eq_placeholders, ?_⟩
  rintro u ⟨htext, hu⟩
  exact hu.eq_of_text_eq ht htext

/-- Of three placeholders that share marks the outer two are found. -/
example : scan "%;a;%;b;%;c;%".toList = ["%;a;%".toList, "%;c;%".toList] := by decide

end MailMerge.Template
