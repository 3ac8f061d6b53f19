import MailMerge.Proofs.Layout
import Mathlib.Data.List.TakeWhile

/-!
# Markup in placeholders

What a placeholder asks for is read without the markup tags and the blanks in it. A tag
runs from a `<` to the next `>`, whatever stands between, and tags are taken from left to
right. So a text in which each `<` has a `>` behind it is read apart from whatever comes
after it: no tag runs across its end. A tag behind such a text can be left out, and no
character before or after it is read in another way.

What was read has no tag left and no blank at its ends, so that reading it once more
changes nothing.

Main facts:

* `tagFree_stripTags`, `stripTags_of_tagFree`, `withoutTags_iff`: what is left without the
  tags;
* `stripTags_append`: a text whose tags end is read apart from the rest;
* `directiveText_ignores_markup`: tags are of no account, and directives are read as they are.
-/

namespace MailMerge.Template

section Tags

/-- A text in which no `<` has a `>` behind it. -/
def TagFree (t : Text) : Prop :=
  ¬ ['<', '>'].Sublist t

theorem TagFree.sublist
    {t u : Text}
    (h : TagFree t)
    (hu : u.Sublist t) :
    TagFree u :=
  fun htag => h (htag.trans hu)

theorem tagWidth_eq_zero_iff
    {c : Char}
    {cs : Text} :
    tagWidth (c :: cs) = 0 ↔ ¬ (c = '<' ∧ '>' ∈ cs) := by
  by_cases hc : c = '<'
  · subst hc
    have hend : cs.dropWhile (· ≠ '>') = [] ↔ '>' ∉ cs := by
      rw [List.dropWhile_eq_nil_iff]
      simp only [decide_eq_true_eq]
      exact ⟨fun h hmem => h _ hmem rfl, fun h d hd heq => h (heq ▸ hd)⟩
    unfold tagWidth
    split
    · next rest hrest =>
      obtain ⟨-, rfl⟩ := List.cons.inj hrest
      split
      · next hnil => simpa using hend.1 hnil
      · next hcons =>
        have hmem : '>' ∈ cs := by
          by_contra hno
          rw [hend.2 hno] at hcons
          cases hcons
        simpa using hmem
    · next hother => exact absurd rfl (hother cs)
  · have hwidth : tagWidth (c :: cs) = 0 := by
      unfold tagWidth
      split
      · next heq => exact absurd (List.cons.inj heq).1 hc
      · rfl
    simp [hwidth, hc]

theorem stripTags_cons_of_no_tag
    {c : Char}
    {rest : Text}
    (h : c = '<' → '>' ∉ rest) :
    stripTags (c :: rest) = c :: stripTags rest :=
  Text.replaceWith_cons_of_width_eq_zero (tagWidth_eq_zero_iff.2 fun htag => h htag.1 htag.2) _

theorem stripTags_of_tagFree
    {t : Text}
    (h : TagFree t) :
    stripTags t = t := by
  induction t with
  | nil =>
      rfl
  | cons c cs ih =>
      have hc : c = '<' → '>' ∉ cs := by
        rintro rfl hmem
        exact h ((List.singleton_sublist.2 hmem).cons_cons '<')
      rw [stripTags_cons_of_no_tag hc, ih (h.sublist (List.sublist_cons_self c cs))]

/-- A tag at the head of a text is left out. -/
theorem stripTags_tag_append
    {x : Text}
    (hx : '>' ∉ x)
    (rest : Text) :
    stripTags ('<' :: (x ++ '>' :: rest)) = stripTags rest := by
  have hinside : ∀ c ∈ x, decide (c ≠ '>') = true :=
    fun c hc => decide_eq_true fun heq => hx (heq ▸ hc)
  have hwidth : tagWidth ('<' :: (x ++ '>' :: rest)) = (x.length + 1) + 1 := by
    unfold tagWidth
    simp only [List.dropWhile_append_of_pos hinside, List.takeWhile_append_of_pos hinside]
    simp
  unfold stripTags
  rw [Text.replaceWith_of_width_eq_succ hwidth, List.nil_append, ← List.drop_drop, List.drop_left]
  rfl

/-- The second text is what is left of the first one without its tags, read from left to
right: a tag is left out, and a character that starts none stands for itself. -/
inductive WithoutTags : Text → Text → Prop
  | nil : WithoutTags [] []
  | tag {x rest bare : Text}
      (hx : '>' ∉ x)
      (h : WithoutTags rest bare) :
      WithoutTags ('<' :: (x ++ '>' :: rest)) bare
  | character {c : Char} {rest bare : Text}
      (hc : c = '<' → '>' ∉ rest)
      (h : WithoutTags rest bare) :
      WithoutTags (c :: rest) (c :: bare)

theorem withoutTags_stripTags
    (t : Text) :
    WithoutTags t (stripTags t) := by
  induction hn : t.length using Nat.strongRecOn generalizing t with
  | ind n ih =>
      cases t with
      | nil =>
          exact .nil
      | cons c cs =>
          by_cases htag : c = '<' ∧ '>' ∈ cs
          · obtain ⟨rfl, hend⟩ := htag
            obtain ⟨x, rest, rfl, hx⟩ := List.eq_append_cons_of_mem hend
            rw [stripTags_tag_append hx]
            refine .tag hx (ih rest.length ?_ rest rfl)
            rw [← hn, List.length_cons, List.length_append, List.length_cons]
            omega
          · have hc : c = '<' → '>' ∉ cs := fun hopen hend => htag ⟨hopen, hend⟩
            rw [stripTags_cons_of_no_tag hc]
            exact .character hc (ih cs.length (by rw [← hn]; exact Nat.lt_succ_self _) cs rfl)

theorem withoutTags_iff
    {t bare : Text} :
    WithoutTags t bare ↔ stripTags t = bare := by
  constructor
  · intro h
    induction h with
    | nil =>
        rfl
    | tag hx _ ih =>
        rw [stripTags_tag_append hx, ih]
    | character hc _ ih =>
        rw [stripTags_cons_of_no_tag hc, ih]
  · rintro rfl
    exact withoutTags_stripTags t

theorem WithoutTags.sublist
    {t bare : Text}
    (h : WithoutTags t bare) :
    bare.Sublist t := by
  induction h with
  | nil =>
      exact List.Sublist.refl []
  | @tag x rest bare _ _ ih =>
      exact ((ih.cons '>').trans (List.sublist_append_right x _)).cons '<'
  | @character c _ _ _ _ ih =>
      exact ih.cons_cons c

/-- What is left of a text has no tag: a `<` is only left when no `>` comes behind it. -/
theorem tagFree_stripTags
    (t : Text) :
    TagFree (stripTags t) := by
  have h := withoutTags_stripTags t
  generalize stripTags t = bare at h ⊢
  induction h with
  | nil =>
      exact fun htag => absurd htag (by decide)
  | tag _ _ ih =>
      exact ih
  | character hc h ih =>
      intro htag
      rcases List.sublist_cons_iff.1 htag with htail | ⟨rest, hrest, hbehind⟩
      · exact ih htail
      · obtain ⟨rfl, rfl⟩ := List.cons.inj hrest
        exact hc rfl (h.sublist.subset (hbehind.subset List.mem_cons_self))

/-- A text in which each `<` has a `>` behind it. -/
def TagsEnd (t : Text) : Prop :=
  ∀ front behind, t = front ++ '<' :: behind → '>' ∈ behind

theorem TagsEnd.behind
    {s t : Text}
    (h : TagsEnd (s ++ t)) :
    TagsEnd t := by
  rintro front behind rfl
  exact h (s ++ front) behind (List.append_assoc s front _).symm

/-- No tag runs across the end of a text whose tags end. -/
theorem stripTags_append
    {u : Text}
    (hu : TagsEnd u)
    (v : Text) :
    stripTags (u ++ v) = stripTags u ++ stripTags v := by
  have h := withoutTags_stripTags u
  generalize stripTags u = bare at h ⊢
  induction h with
  | nil =>
      rfl
  | @tag x rest bare hx _ ih =>
      have hrest : TagsEnd rest := by
        have hsplit : '<' :: (x ++ '>' :: rest) = ('<' :: x ++ ['>']) ++ rest := by simp
        rw [hsplit] at hu
        exact hu.behind
      rw [List.cons_append, List.append_assoc, List.cons_append, stripTags_tag_append hx,
        ih hrest]
  | @character c rest bare hc _ ih =>
      -- a `<` with no `>` behind it would be one whose tag does not end
      have hchar : c ≠ '<' := by
        rintro rfl
        exact hc rfl (hu [] rest rfl)
      rw [List.cons_append, stripTags_cons_of_no_tag fun hopen => absurd hopen hchar,
        ih (TagsEnd.behind (s := [c]) hu), List.cons_append]

end Tags

section Directives

variable {p text : Text}

theorem tagFree_directiveText
    (p : Text) :
    TagFree (directiveText p) :=
  (tagFree_stripTags _).sublist (Text.trim_sublist _)

theorem isInner_of_mem_directiveText
    {c : Char}
    (hp : p ∈ scan text)
    (hc : c ∈ directiveText p) :
    isInner c = true := by
  obtain ⟨inner, hinner, rfl⟩ :=
    exists_wrap_of_found_mem_pieces (Text.found_mem_pieces_iff.2 hp)
  rw [directiveText_wrap hinner.2] at hc
  exact hinner.2 c (Text.mem_of_mem_replaceWith_nil (Text.mem_of_mem_trim hc))

theorem trim_directiveText
    (p : Text) :
    Text.trim (directiveText p) = directiveText p :=
  Text.trim_trim _

/-- The directive of a placeholder is its own directive. -/
theorem directiveText_wrap_directiveText
    (hp : p ∈ scan text) :
    directiveText (wrap (directiveText p)) = directiveText p := by
  rw [directiveText_wrap fun c hc => isInner_of_mem_directiveText hp hc,
    stripTags_of_tagFree (tagFree_directiveText p), trim_directiveText]

end Directives

/-- A placeholder asks for the same with a tag as without, when each `<` in front of the
tag has a `>` behind it that is in front of the tag as well. And what a placeholder of any
text asks for is what is asked for by a placeholder that holds nothing else. -/
theorem directiveText_ignores_markup :
    (∀ u x v, (∀ c ∈ u ++ x ++ v, c ≠ '%' ∧ c ≠ ';') → '>' ∉ x →
      (∀ front behind, u = front ++ '<' :: behind → '>' ∈ behind) →
      directiveText (wrap (u ++ '<' :: x ++ '>' :: v)) = directiveText (wrap (u ++ v))) ∧
    (∀ text, ∀ p ∈ scan text,
      directiveText (wrap (directiveText p)) = directiveText p) := by
  constructor
  · intro u x v hchars hx hu
    have hinner : ∀ c, c ∈ u ∨ c ∈ x ∨ c ∈ v → isInner c = true := by
      intro c hc
      exact decide_eq_true (hchars c (by simpa [or_assoc] using hc))
    have hmarked : ∀ c ∈ u ++ '<' :: x ++ '>' :: v, isInner c = true := by
      intro c hc
      simp only [List.mem_append, List.mem_cons] at hc
      rcases hc with (hc | rfl | hc) | rfl | hc
      · exact hinner c (Or.inl hc)
      · rfl
      · exact hinner c (Or.inr (Or.inl hc))
      · rfl
      · exact hinner c (Or.inr (Or.inr hc))
    have hplain : ∀ c ∈ u ++ v, isInner c = true := by
      intro c hc
      rcases List.mem_append.1 hc with hc | hc
      · exact hinner c (Or.inl hc)
      · exact hinner c (Or.inr (Or.inr hc))
    have hsame : stripTags (u ++ '<' :: x ++ '>' :: v) = stripTags (u ++ v) := by
      rw [List.append_assoc, List.cons_append, stripTags_append hu, stripTags_tag_append hx,
        stripTags_append hu]
    rw [directiveText_wrap hmarked, directiveText_wrap hplain, hsame]
  · exact fun text p hp => directiveText_wrap_directiveText hp

/-- A tag that holds a `<` itself, between a tag that ends in front of it and a `<` behind it
that opens none. -/
theorem directiveText_boldName :
    let u := "<b>owner".toList
    let x := "i <".toList
    let v := ".name < ".toList
    let p := "%; <p> firm</p > ;%".toList
    (∀ c ∈ u ++ x ++ v, c ≠ '%' ∧ c ≠ ';') ∧
    '>' ∉ x ∧
    (∀ front behind, u = front ++ '<' :: behind → '>' ∈ behind) ∧
    directiveText "%;<b>owner<i <>.name < ;%".toList = "owner.name <".toList ∧
    p ∈ scan p ∧
    directiveText (wrap (directiveText p)) = "firm".toList := by
  intro u x v p
  have hinside : IsInside (u ++ x ++ v) := by decide
  have hchars : ∀ c ∈ u ++ x ++ v, c ≠ '%' ∧ c ≠ ';' :=
    fun c hc => of_decide_eq_true (hinside.2 c hc)
  have hx : '>' ∉ x := by decide
  have hu : ∀ front behind, u = front ++ '<' :: behind → '>' ∈ behind := by
    have hcut : u = '<' :: "b>owner".toList := rfl
    rw [hcut]
    rintro (_ | ⟨c, front⟩) behind h
    · rw [← (List.cons.inj h).2]
      decide
    · have hmem : '<' ∈ "b>owner".toList := by
        rw [(List.cons.inj h).2]
        exact List.mem_append_right front List.mem_cons_self
      exact absurd hmem (by decide)
  have hp : p ∈ scan p := by decide +kernel
  obtain ⟨htag, hagain⟩ := directiveText_ignores_markup
  refine ⟨hchars, hx, hu, ?_, hp, ?_⟩
  · refine Eq.trans (b := directiveText (wrap (u ++ v))) (htag u x v hchars hx hu) ?_
    decide +kernel
  · rw [hagain p p hp]
    decide +kernel

end MailMerge.Template
