import MailMerge.Proofs.Insertion

/-!
# Letters to records that differ in one text

Two records differ in the text of one field, and a clean layout shows that field
by one placeholder only. The two letters are written in the same steps. When the
placeholder of the field is filled, the two texts go in verbatim, at the same
places of the same text. The steps that follow look for their placeholders in
all of the text, the inserted texts and the seams beside them included.

So the two letters are equal up to the two texts when no step follows, or when the
renderings are inert. No part of this can be spared: a text that opens a placeholder,
one that completes an opening mark in front of it, and harmless texts between renderings
that are not inert lead to letters that differ elsewhere too.

Main facts:

* `expand_of_shownOnce`: what the two letters have in common;
* `text_not_always_verbatim`: letters with more in which they differ.
-/

namespace MailMerge.Filling

open Session Work Template

/-- Two texts that are the same but for copies of `v` in one and of `w` in the other. -/
def EqualUpTo (v w t u : Text) : Prop :=
  ∃ q qs, t = v.intercalate (q :: qs) ∧ u = w.intercalate (q :: qs)

/-- Two records that differ in the text of one field, and a clean layout that shows the
field, as it stands, by its own placeholder only. -/
structure ShownOnce
    (setup : Setup) (s : Session) (t : Layout)
    (f v w : Text) (r q : Record) : Prop where
  clean : t.Clean
  apart : TextApart f v w r q
  plain : ∀ schema, s.schemaSeen setup.source.describe r.entity = .ok schema →
    isPlain ((schema.attribute? f).map Attribute.kind) = true
  only : ∀ p ∈ t.placeholders, shows f (directiveOf p) = true → p = wrap f

section Steps

variable {f v w t : Text}

theorem Insertion.equalUpTo
    {F : Text → Text}
    (h : Insertion F)
    (v w : Text) :
    EqualUpTo v w (F v) (F w) := by
  obtain ⟨q, qs, hF⟩ := h
  exact ⟨q, qs, hF v, hF w⟩

theorem equalUpTo_self
    (v w t : Text) :
    EqualUpTo v w t t :=
  (insertion_const t).equalUpTo v w

/-- Two runs of replacements that differ at the last placeholder only: nothing is looked for
in what it gives way to. -/
theorem equalUpTo_foldl_put
    {R S : Text → Option Text}
    {p₀ : Text}
    (ps : List Text)
    (hother : ∀ p ∈ ps, R p = S p)
    (hself : R p₀ = S p₀ ∨ (R p₀ = some v ∧ S p₀ = some w))
    (t : Text) :
    EqualUpTo v w
      ((ps ++ [p₀]).foldl (fun u p => put (R p) u p) t)
      ((ps ++ [p₀]).foldl (fun u p => put (S p) u p) t) := by
  have hearlier : ps.foldl (fun u p => put (R p) u p) t =
      ps.foldl (fun u p => put (S p) u p) t := by
    apply List.foldl_ext
    intro u p hp
    rw [hother p hp]
  rw [List.foldl_append, List.foldl_append, hearlier]
  simp only [List.foldl_cons, List.foldl_nil]
  rcases hself with hsame | ⟨hR, hS⟩
  · rw [hsame]
    exact equalUpTo_self v w _
  · rw [hR, hS]
    exact (insertion_replaceAll p₀ _).equalUpTo v w

/-- Two fillings that differ at one placeholder only, wherever it stands. -/
theorem equalUpTo_fill
    {R S : Text → Option Text}
    {p₀ : Text}
    (t : Layout)
    (hother : ∀ p ∈ t.placeholders, p ≠ p₀ → R p = S p)
    (hself : p₀ ∈ t.placeholders → R p₀ = S p₀ ∨ (R p₀ = some v ∧ S p₀ = some w)) :
    EqualUpTo v w (t.fill fun p => (R p).getD p) (t.fill fun p => (S p).getD p) := by
  by_cases hsame : p₀ ∈ t.placeholders → R p₀ = S p₀
  · have hfill : (t.fill fun p => (R p).getD p) = t.fill fun p => (S p).getD p := by
      apply Layout.fill_congr
      intro p hp
      by_cases hpp : p = p₀
      · subst hpp
        rw [hsame hp]
      · rw [hother p hp hpp]
    rw [hfill]
    exact equalUpTo_self v w _
  · obtain ⟨hmem, hne⟩ := Classical.not_imp.1 hsame
    obtain ⟨hR, hS⟩ := (hself hmem).resolve_left hne
    have hleft : (t.fill fun p => (R p).getD p) =
        t.fill fun p => if p = p₀ then v else (R p).getD p := by
      apply Layout.fill_congr
      intro p hp
      split
      · next hpp => rw [hpp, hR, Option.getD_some]
      · rfl
    have hright : (t.fill fun p => (S p).getD p) =
        t.fill fun p => if p = p₀ then w else (R p).getD p := by
      apply Layout.fill_congr
      intro p hp
      split
      · next hpp => rw [hpp, hS, Option.getD_some]
      · next hpp => rw [hother p hp hpp]
    rw [hleft, hright]
    exact (insertion_fill t p₀ fun p => (R p).getD p).equalUpTo v w

end Steps

namespace ShownOnce

variable {setup : Setup} {s : Session} {t : Layout}
variable {f v w : Text} {r q : Record}

theorem symm
    (h : ShownOnce setup s t f v w r q) :
    ShownOnce setup s t f w v q r where
  clean := h.clean
  apart := h.apart.symm
  plain := by
    rw [← h.apart.entity]
    exact h.plain
  only := h.only

/-- The placeholders of other things are rendered alike. -/
theorem replacement_eq_of_ne
    (h : ShownOnce setup s t f v w r q)
    {p : Text}
    (hp : p ∈ t.placeholders)
    (hne : p ≠ wrap f) :
    replacement setup setup.maxDepth r s p = replacement setup setup.maxDepth q s p := by
  have hshows : shows f (directiveOf p) = false := by
    rw [Bool.eq_false_iff]
    intro hs
    exact hne (h.only p hp hs)
  unfold replacement rendering
  rw [renderAt_eq_of_not_shows h.apart setup setup.maxDepth hshows]

/-- The placeholder of the field is rendered as its text, unless it asks for something
else, and then it is rendered alike. -/
theorem replacement_wrap
    (h : ShownOnce setup s t f v w r q)
    {new new' : Option Text}
    (hr : rendering setup setup.maxDepth r s (wrap f) = .ok new)
    (hq : rendering setup setup.maxDepth q s (wrap f) = .ok new') :
    replacement setup setup.maxDepth r s (wrap f) =
        replacement setup setup.maxDepth q s (wrap f) ∨
      (replacement setup setup.maxDepth r s (wrap f) = some v ∧
        replacement setup setup.maxDepth q s (wrap f) = some w) := by
  cases hshows : shows f (directiveOf (wrap f)) with
  | false =>
      left
      unfold replacement rendering
      rw [renderAt_eq_of_not_shows h.apart setup setup.maxDepth hshows]
  | true =>
      right
      have hv := rendering_of_shows h.apart.left h.plain hshows hr
      have hw := rendering_of_shows h.symm.apart.left h.symm.plain hshows hq
      unfold replacement
      rw [hr, hq, hv, hw]
      exact ⟨rfl, rfl⟩

end ShownOnce

/-- All other placeholders are rendered alike. The letters are equal up to the two texts,
whatever these are, when the placeholder of the field is the last one and stands in the
layout only there, so that nothing is looked for afterwards. Wherever it stands, they are
equal up to the texts when all renderings are inert. -/
theorem expand_of_shownOnce
    (setup : Setup)
    (s : Session)
    (t : Layout)
    {f v w : Text}
    {r q : Record}
    (h : ShownOnce setup s t f v w r q)
    {out out' : Text}
    (hr : ((expand setup r t.text).perform s).1 = .ok out)
    (hq : ((expand setup q t.text).perform s).1 = .ok out') :
    (∀ p ∈ t.placeholders, p ≠ wrap f →
      replacement setup setup.maxDepth r s p = replacement setup setup.maxDepth q s p) ∧
    (∀ earlier, t.placeholders = earlier ++ [wrap f] → wrap f ∉ earlier →
      EqualUpTo v w out out') ∧
    ((∀ p ∈ t.placeholders,
        (∀ new ∈ replacement setup setup.maxDepth r s p, Inert new) ∧
          ∀ new ∈ replacement setup setup.maxDepth q s p, Inert new) →
      EqualUpTo v w out out') := by
  have hother : ∀ p ∈ t.placeholders, p ≠ wrap f →
      replacement setup setup.maxDepth r s p = replacement setup setup.maxDepth q s p :=
    fun p hp hne => h.replacement_eq_of_ne hp hne
  rw [expand_text_eq_ok_iff setup r s h.clean] at hr
  rw [expand_text_eq_ok_iff setup q s h.clean] at hq
  obtain ⟨hrendered, rfl⟩ := hr
  obtain ⟨hrendered', rfl⟩ := hq
  have hself : wrap f ∈ t.placeholders →
      replacement setup setup.maxDepth r s (wrap f) =
          replacement setup setup.maxDepth q s (wrap f) ∨
        (replacement setup setup.maxDepth r s (wrap f) = some v ∧
          replacement setup setup.maxDepth q s (wrap f) = some w) := by
    intro hmem
    obtain ⟨new, hnew⟩ := hrendered (wrap f) hmem
    obtain ⟨new', hnew'⟩ := hrendered' (wrap f) hmem
    exact h.replacement_wrap hnew hnew'
  refine ⟨hother, ?_, ?_⟩
  · intro earlier hlast honce
    have hearlier : ∀ p ∈ earlier, replacement setup setup.maxDepth r s p =
        replacement setup setup.maxDepth q s p := by
      intro p hp
      refine hother p (by simp [hlast, hp]) ?_
      rintro rfl
      exact honce hp
    rw [hlast]
    exact equalUpTo_foldl_put earlier hearlier (hself (by simp [hlast])) t.text
  · intro hinert
    rw [foldl_put_text h.clean fun p hp => (hinert p hp).1,
      foldl_put_text h.clean fun p hp => (hinert p hp).2]
    exact equalUpTo_fill t hother hself

section Firms

variable {t : Layout} {mark v w out out' : Text}

/-- A firm with a mark and a note. -/
def firmRecord (mark note : Text) : Record :=
  withText ⟨"account".toList, .zero, Keyed.ofList
    [("firm".toList, .text "Acme".toList), ("mark".toList, .text mark)]⟩ "note".toList note

/-- The placeholder of a firm's note and the text behind it. -/
def noteStretch (behind : Text) : Stretch :=
  ⟨"note".toList, behind, by decide⟩

/-- The placeholder of a firm's mark and the text behind it. -/
def markStretch (behind : Text) : Stretch :=
  ⟨"mark".toList, behind, by decide⟩

/-- The placeholder of a firm's name and the text behind it. -/
def firmStretch (behind : Text) : Stretch :=
  ⟨"firm".toList, behind, by decide⟩

/-- What a placeholder shows of a firm. -/
def firmText (mark note p : Text) : Text :=
  if p = wrap "note".toList then note
  else if p = wrap "mark".toList then mark
  else "Acme".toList

/-- A layout that shows a firm's note, mark and name. -/
def IsFirmLayout (t : Layout) : Prop :=
  t.Clean ∧ ∀ p ∈ t.placeholders,
    p = wrap "note".toList ∨ p = wrap "mark".toList ∨ p = wrap "firm".toList

theorem rendering_firmRecord
    (ht : IsFirmLayout t)
    (mark note : Text) :
    ∀ p ∈ t.placeholders,
      rendering emptySetup emptySetup.maxDepth (firmRecord mark note) .fresh p =
        .ok (some (firmText mark note p)) := by
  intro p hp
  rcases ht.2 p hp with rfl | rfl | rfl <;> rfl

theorem expand_firmRecord
    (ht : IsFirmLayout t)
    (mark note : Text) :
    ((expand emptySetup (firmRecord mark note) t.text).perform .fresh).1 =
      .ok (t.placeholders.foldl
        (fun u p => Text.replaceAll p (firmText mark note p) u) t.text) := by
  have hrendering := rendering_firmRecord ht mark note
  rw [← Layout.scan_text ht.1] at hrendering ⊢
  exact expandAt_eq_ok_of_rendering hrendering

theorem shownOnce_firmRecord
    (ht : IsFirmLayout t)
    (mark v w : Text) :
    ShownOnce emptySetup .fresh t "note".toList v w (firmRecord mark v) (firmRecord mark w) where
  clean := ht.1
  apart := textApart_withText _ _ v w
  plain := by
    intro schema hschema
    cases hschema
    rfl
  only := by
    intro p hp hshows
    rcases ht.2 p hp with rfl | rfl | rfl
    · rfl
    · exact absurd hshows (by decide)
    · exact absurd hshows (by decide)

/-- A layout that shows a firm's note twice. -/
def twoNotesLayout : Layout :=
  ⟨"100%".toList, [noteStretch " / ".toList, firmStretch " / ".toList, noteStretch []]⟩

/-- A layout that ends with a firm's note. -/
def lastNoteLayout : Layout :=
  ⟨[], [firmStretch " / ".toList, noteStretch []]⟩

/-- Notes that are inert show as they stand, and a note that stands last does so even when it
looks like a placeholder. -/
theorem expand_twoNotesLayout :
    ((expand emptySetup (firmRecord [] "50%".toList) twoNotesLayout.text).perform .fresh).1 =
      .ok "100%50% / Acme / 50%".toList ∧
    ((expand emptySetup (firmRecord [] "a;%b".toList) twoNotesLayout.text).perform .fresh).1 =
      .ok "100%a;%b / Acme / a;%b".toList ∧
    EqualUpTo "50%".toList "a;%b".toList
      "100%50% / Acme / 50%".toList "100%a;%b / Acme / a;%b".toList ∧
    ((expand emptySetup (firmRecord [] "%;firm;%".toList) lastNoteLayout.text).perform
        .fresh).1 = .ok "Acme / %;firm;%".toList ∧
    EqualUpTo "%;firm;%".toList "x".toList "Acme / %;firm;%".toList "Acme / x".toList := by
  have ht : IsFirmLayout twoNotesLayout := ⟨⟨by decide, by decide⟩, by decide⟩
  have hr := expand_firmRecord ht [] "50%".toList
  have hq := expand_firmRecord ht [] "a;%b".toList
  have hinert : ∀ p ∈ twoNotesLayout.placeholders,
      (∀ new ∈ replacement emptySetup emptySetup.maxDepth
          (firmRecord [] "50%".toList) .fresh p, Inert new) ∧
        ∀ new ∈ replacement emptySetup emptySetup.maxDepth
          (firmRecord [] "a;%b".toList) .fresh p, Inert new := by
    decide +kernel
  have hshown := shownOnce_firmRecord ht [] "50%".toList "a;%b".toList
  have hl : IsFirmLayout lastNoteLayout := ⟨⟨by decide, by decide⟩, by decide⟩
  have hr' := expand_firmRecord hl [] "%;firm;%".toList
  have hq' := expand_firmRecord hl [] "x".toList
  have hlast := shownOnce_firmRecord hl [] "%;firm;%".toList "x".toList
  exact ⟨hr, hq,
    (expand_of_shownOnce emptySetup .fresh twoNotesLayout hshown hr hq).2.2 hinert, hr',
    (expand_of_shownOnce emptySetup .fresh lastNoteLayout hlast hr' hq').2.1
      ["%;firm;%".toList] rfl (by decide)⟩

/-- Letters to a firm with one of two notes, with more in which they differ than
copies of the notes. -/
structure Torn (t : Layout) (mark v w out out' : Text) : Prop where
  shown : ShownOnce emptySetup .fresh t "note".toList v w (firmRecord mark v) (firmRecord mark w)
  first : ((expand emptySetup (firmRecord mark v) t.text).perform .fresh).1 = .ok out
  second : ((expand emptySetup (firmRecord mark w) t.text).perform .fresh).1 = .ok out'
  torn : ¬ EqualUpTo v w out out'

/-- Copies of the notes account for a multiple of the difference in their lengths. -/
theorem not_equalUpTo_of_length
    (h : ∀ k : Nat, out.length + k * w.length ≠ out'.length + k * v.length) :
    ¬ EqualUpTo v w out out' := by
  rintro ⟨q, qs, hout, hout'⟩
  obtain ⟨n, hn⟩ := exists_length_intercalate q qs
  apply h qs.length
  rw [hout, hout', hn, hn]
  omega

theorem torn_of_length
    (ht : IsFirmLayout t)
    (hout : t.placeholders.foldl
      (fun u p => Text.replaceAll p (firmText mark v p) u) t.text = out)
    (hout' : t.placeholders.foldl
      (fun u p => Text.replaceAll p (firmText mark w p) u) t.text = out')
    (hlength : ∀ k : Nat, out.length + k * w.length ≠ out'.length + k * v.length) :
    Torn t mark v w out out' where
  shown := shownOnce_firmRecord ht mark v w
  first := by rw [expand_firmRecord ht, hout]
  second := by rw [expand_firmRecord ht, hout']
  torn := not_equalUpTo_of_length hlength

/-- Notes that open a placeholder or complete one, and harmless notes that stand
between texts of other fields that do. -/
theorem text_not_always_verbatim :
    Torn ⟨[], [noteStretch " / ".toList, firmStretch []]⟩ []
      "%;firm;%".toList "x".toList
      "Acme / Acme".toList "x / Acme".toList ∧
    Torn ⟨"100%".toList, [noteStretch " / ".toList, firmStretch []]⟩ []
      ";firm;%".toList "x".toList
      "100Acme / Acme".toList "100%x / Acme".toList ∧
    Torn ⟨[], [markStretch [], noteStretch "% / ".toList, firmStretch []]⟩ "%;".toList
      "firm;".toList "".toList
      "Acme / Acme".toList "%;% / Acme".toList ∧
    Torn ⟨[], [noteStretch [], markStretch " / ".toList, firmStretch []]⟩ ";firm;%".toList
      "%".toList "xyzu".toList
      "Acme / Acme".toList "xyzu;firm;% / Acme".toList := by
  refine ⟨?_, ?_, ?_, ?_⟩
  · apply torn_of_length ⟨⟨by decide, by decide⟩, by decide⟩ rfl rfl
    intro k
    show 11 + k * 1 ≠ 8 + k * 8
    omega
  · apply torn_of_length ⟨⟨by decide, by decide⟩, by decide⟩ rfl rfl
    intro k
    show 14 + k * 1 ≠ 12 + k * 7
    omega
  · apply torn_of_length ⟨⟨by decide, by decide⟩, by decide⟩ rfl rfl
    intro k
    show 11 + k * 0 ≠ 10 + k * 5
    omega
  · apply torn_of_length ⟨⟨by decide, by decide⟩, by decide⟩ rfl rfl
    intro k
    show 11 + k * 4 ≠ 18 + k * 1
    omega

end Firms

end MailMerge.Filling
