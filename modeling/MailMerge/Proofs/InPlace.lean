import MailMerge.Proofs.Misreading
import MailMerge.Proofs.Simultaneous

/-!
# Filling in place

Of any text, clean or not, one would expect that each placeholder is replaced where
it was found and that nothing else changes. Placeholders are filled one after the
other, though, and each of them everywhere in the text, so that one may be met where
none was laid out.

With renderings that hold no character of a mark, the text is filled in place when
each placeholder is met in its own places only at the time when its turn comes. When
moreover no placeholder starts in the literal text afterwards, the filled text is
done with: what is still found in it are links that are left open, and to fill it
again changes nothing. Neither holds of all texts: a placeholder that shares a `%` with
the one in front of it tears that one apart when its turn comes first, and a field that
shows nothing may join the marks on its two sides.

Main facts:

* `fillsApart_of_neverMisread`: placeholders that are never misread give way apart
  from each other;
* `expand_inPlace_iff`: the filled text;
* `leftOpen_of_scan_expand`: what is still found in it;
* `overlap_not_inPlace`, `stray_not_settled`: the texts of which they do not hold.
-/

namespace MailMerge.Filling

open Template

/-- A placeholder that gives way is met in its own places only when its turn comes, in the
text in which those before it have been filled. -/
def NeverMisread (R : Text → Option Text) (text : Text) : Prop :=
  ∀ i (h : i < (scan text).length), R (scan text)[i] ≠ none →
    (scan text)[i] ∉
      misreadings (filledSoFar R ((scan text).take i)) (Text.pieces placeholderWidth text)

instance (R : Text → Option Text) (text : Text) : Decidable (NeverMisread R text) :=
  Nat.decidableBallLT _ _

/-- The text with the replacements in place of its placeholders. -/
def inPlace (R : Text → Option Text) (text : Text) : Text :=
  Text.replaceWith placeholderWidth (fun p => (R p).getD p) text

section Replacements

variable {R : Text → Option Text} {text : Text}

theorem unmarkedFilling_pieces
    {f : Text → Text}
    (hf : ∀ p ∈ scan text, f p = p ∨ Unmarked (f p)) :
    UnmarkedFilling f (Text.pieces placeholderWidth text) := by
  intro p hp
  exact ⟨exists_wrap_of_found_mem_pieces hp, hf p (Text.found_mem_pieces_iff.1 hp)⟩

/-- Placeholders that are never misread give way apart from each other. -/
theorem fillsApart_of_neverMisread
    (hR : ∀ p ∈ scan text, ∀ new ∈ R p, Unmarked new)
    (hread : NeverMisread R text) :
    FillsApart R (scan text) fun f => Text.replaceWith placeholderWidth f text where
  congr := by
    intro f g h
    exact filled_congr fun p hp => h p (Text.found_mem_pieces_iff.1 hp)
  apart := by
    intro p hp q hq hRq
    obtain ⟨x, -, rfl⟩ := exists_wrap_of_found_mem_pieces (Text.found_mem_pieces_iff.2 hp)
    exact not_unmarked_wrap x (hR q hq _ hRq)
  replace := by
    intro done p left hps new hRp
    have hp : p ∈ scan text := by simp [hps]
    obtain ⟨x, hx, rfl⟩ := exists_wrap_of_found_mem_pieces (Text.found_mem_pieces_iff.2 hp)
    have hturn : wrap x ∉ misreadings (filledSoFar R done) (Text.pieces placeholderWidth text) := by
      have hindex := hread done.length (by simp [hps])
      simpa [hps, hRp] using hindex
    refine replaceAll_filled (unmarkedFilling_pieces ?_) hx hturn new
    intro q hq
    rcases filledSoFar_eq_or (R := R) done q with hstands | hgone
    · exact Or.inl hstands
    · exact Or.inr (hR q hq _ hgone)

/-- To fill all placeholders in turn is to put the replacements in their places. -/
theorem foldl_put_eq_inPlace
    (hR : ∀ p ∈ scan text, ∀ new ∈ R p, Unmarked new)
    (hread : NeverMisread R text) :
    (scan text).foldl (fun u p => put (R p) u p) text = inPlace R text := by
  have h := (fillsApart_of_neverMisread hR hread).foldl_put
  rwa [Text.replaceWith_id] at h

/-- Of a text that was filled in place the placeholders are still found that stand. -/
theorem scan_inPlace
    (hR : ∀ p ∈ scan text, ∀ new ∈ R p, Unmarked new)
    (hstray : strays (fun p => (R p).getD p) (Text.pieces placeholderWidth text) = []) :
    scan (inPlace R text) = (scan text).filter fun p => (R p).getD p = p := by
  refine scan_filled (unmarkedFilling_pieces ?_) hstray
  intro p hp
  rcases h : R p with _ | new
  · exact Or.inl rfl
  · exact Or.inr (hR p hp new h)

end Replacements

/-- A text whose placeholders are rendered without characters of marks and are never
misread is filled exactly when each of them is rendered, and then every placeholder has
given way to its rendering where it was found, or stands there when it has none. -/
theorem expand_inPlace_iff
    (setup : Setup)
    (record : Record)
    (s : Session)
    (text : Text)
    (hunmarked : ∀ p ∈ scan text,
      ∀ new ∈ replacement setup setup.maxDepth record s p, Unmarked new)
    (hread : NeverMisread (replacement setup setup.maxDepth record s) text)
    (out : Text) :
    ((expand setup record text).perform s).1 = .ok out ↔
      (∀ p ∈ scan text, ∃ new, rendering setup setup.maxDepth record s p = .ok new) ∧
        out = inPlace (replacement setup setup.maxDepth record s) text := by
  unfold expand
  rw [expandAt_eq_ok_iff, foldl_put_eq_inPlace hunmarked hread]

/-- A record of a firm with a note. -/
def notedRecord : Record :=
  ⟨"account".toList, .zero, Keyed.ofList
    [("firm".toList, .text "Acme".toList), ("note".toList, .text "x".toList)]⟩

/-- A text in which two placeholders share a `%`. -/
def sharedMark : Text :=
  "%;note;%;firm;% at %;firm;%".toList

/-- The placeholder in front gives way first, so its mark is gone when the other's turn
comes. -/
theorem expand_sharedMark :
    ((expand emptySetup notedRecord sharedMark).perform .fresh).1 =
      .ok "x;firm;% at Acme".toList := by
  have hunmarked : ∀ p ∈ scan sharedMark,
      ∀ new ∈ replacement emptySetup emptySetup.maxDepth notedRecord .fresh p, Unmarked new := by
    decide +kernel
  have hread :
      NeverMisread (replacement emptySetup emptySetup.maxDepth notedRecord .fresh) sharedMark := by
    decide +kernel
  have hscan : scan sharedMark = [wrap "note".toList, wrap "firm".toList] := by
    decide +kernel
  rw [expand_inPlace_iff emptySetup notedRecord .fresh sharedMark hunmarked hread]
  refine ⟨?_, by decide +kernel⟩
  intro p hp
  rw [hscan] at hp
  rcases List.mem_pair.1 hp with rfl | rfl
  · exact ⟨_, rfl⟩
  · exact ⟨_, rfl⟩

/-- What the placeholders of a firm's name and note are rendered as, and that of a field
which is not there. -/
def notedText (p : Text) : Text :=
  if p = wrap "firm".toList then "Acme".toList
  else if p = wrap "note".toList then "x".toList
  else []

/-- A text that shows a firm's name and note and a field which is not there. -/
def IsNoted (text : Text) : Prop :=
  ∀ p ∈ scan text,
    p = wrap "firm".toList ∨ p = wrap "note".toList ∨ p = wrap "gap".toList

instance (text : Text) : Decidable (IsNoted text) :=
  inferInstanceAs (Decidable (∀ p ∈ scan text, _))

theorem expand_notedRecord
    {text : Text}
    (ht : IsNoted text) :
    ((expand emptySetup notedRecord text).perform .fresh).1 =
      .ok ((scan text).foldl (fun u p => Text.replaceAll p (notedText p) u) text) := by
  apply expandAt_eq_ok_of_rendering
  intro p hp
  rcases ht p hp with rfl | rfl | rfl <;> rfl

/-- The other way round, the placeholder behind is met at the shared mark while the one in
front still stands, and tears it apart. -/
theorem overlap_not_inPlace :
    let text := "%;firm;% %;note;%;firm;%".toList
    let R := replacement emptySetup emptySetup.maxDepth notedRecord .fresh
    (∀ p ∈ scan text, ∀ new ∈ R p, Unmarked new) ∧
      ((expand emptySetup notedRecord text).perform .fresh).1 =
        .ok "Acme %;note;Acme".toList ∧
      inPlace R text = "Acme x;firm;%".toList := by
  refine ⟨by decide +kernel, ?_, by decide +kernel⟩
  rw [expand_notedRecord (by decide +kernel)]
  exact congrArg Except.ok (by decide +kernel)

section LeftOpen

variable {setup : Setup} {depth : Nat} {record : Record} {s : Session} {p : Text}

/-- A link to the record that a field points at, where the field points nowhere. -/
def LeftOpen (record : Record) (p : Text) : Prop :=
  ∃ field text, directiveOf p = .referenceLink field text ∧
    (Text.blank field = true ∨ record.reference? field = none)

theorem render_eq_ok_none_iff
    (list : Text → Text → List Text → Work StoreError Text)
    (directive : Directive) :
    ((render setup list record directive).perform s).1 = .ok none ↔
      ∃ field text, directive = .referenceLink field text ∧
        (Text.blank field = true ∨ record.reference? field = none) := by
  cases directive with
  | referenceLink field text =>
      rcases hblank : Text.blank field with _ | _
      · rcases htarget : record.reference? field with _ | target
        · simp [render, hblank, htarget]
        · simp [render, hblank, htarget]
      · simp [render, hblank]
  | recordLink text =>
      simp [render]
  | related entity key parts =>
      rcases h : (list entity key parts).perform s with ⟨e | shown, s'⟩
      · simp [render, h]
      · simp [render, h]
  | malformedRelated =>
      simp [render]
  | field path =>
      rcases h : (resolve setup.source setup.offsetHours path record).perform s
        with ⟨e | shown, s'⟩
      · simp [render, h]
      · simp [render, h]

/-- What stays as it is, at any depth and in any session, is a link that is left open. -/
theorem rendering_eq_ok_none_iff :
    rendering setup depth record s p = .ok none ↔ LeftOpen record p := by
  cases depth with
  | zero => exact render_eq_ok_none_iff _ _
  | succ depth => exact render_eq_ok_none_iff _ _

/-- A placeholder that stands after it was rendered without marks is a link that is left
open: a rendering without marks is no placeholder. -/
theorem leftOpen_of_stands
    {text : Text}
    (hp : p ∈ scan text)
    (hunmarked : ∀ new ∈ replacement setup depth record s p, Unmarked new)
    (hrendered : ∃ new, rendering setup depth record s p = .ok new)
    (hstands : (replacement setup depth record s p).getD p = p) :
    LeftOpen record p := by
  obtain ⟨new, hnew⟩ := hrendered
  rw [replacement_of_rendering hnew] at hunmarked hstands
  cases new with
  | none =>
      exact rendering_eq_ok_none_iff.1 hnew
  | some new =>
      have hsame : new = p := hstands
      obtain ⟨x, -, rfl⟩ := exists_wrap_of_found_mem_pieces (Text.found_mem_pieces_iff.2 hp)
      have hplain := hunmarked new rfl
      rw [hsame] at hplain
      exact absurd hplain (not_unmarked_wrap x)

/-- A text with nothing but links that are left open is filled as it is. -/
theorem expand_of_leftOpen
    {text : Text}
    (h : ∀ p ∈ scan text, LeftOpen record p) :
    ((expand setup record text).perform s).1 = .ok text := by
  unfold expand
  rw [expandAt_eq_ok_iff]
  have hrendering : ∀ p ∈ scan text,
      rendering setup setup.maxDepth record s p = .ok none :=
    fun p hp => rendering_eq_ok_none_iff.2 (h p hp)
  constructor
  · intro p hp
    exact ⟨none, hrendering p hp⟩
  · have hsame : ∀ (u : Text), ∀ p ∈ scan text,
        put (replacement setup setup.maxDepth record s p) u p = u := by
      intro u p hp
      rw [replacement_of_rendering (hrendering p hp)]
      rfl
    rw [List.foldl_ext _ (fun u _ => u) text hsame]
    simp

end LeftOpen

/-- When a text is filled in place and no placeholder starts in its literal text
afterwards, what is still found are links that are left open, and to fill the text again
changes nothing. -/
theorem leftOpen_of_scan_expand
    (setup : Setup)
    (record : Record)
    (s : Session)
    (text out : Text)
    (hunmarked : ∀ p ∈ scan text,
      ∀ new ∈ replacement setup setup.maxDepth record s p, Unmarked new)
    (hread : NeverMisread (replacement setup setup.maxDepth record s) text)
    (hstray : strays (fun p => (replacement setup setup.maxDepth record s p).getD p)
      (Text.pieces placeholderWidth text) = [])
    (hout : ((expand setup record text).perform s).1 = .ok out) :
    (∀ p ∈ scan out, p ∈ scan text ∧ LeftOpen record p) ∧
      ∀ s', ((expand setup record out).perform s').1 = .ok out := by
  unfold expand at hout
  rw [expandAt_eq_ok_iff, foldl_put_eq_inPlace hunmarked hread] at hout
  obtain ⟨hrendered, hplace⟩ := hout
  have hleft : ∀ p ∈ scan out, p ∈ scan text ∧ LeftOpen record p := by
    intro p hp
    rw [hplace, scan_inPlace hunmarked hstray, List.mem_filter] at hp
    obtain ⟨hp, hstands⟩ := hp
    exact ⟨hp, leftOpen_of_stands hp (hunmarked p hp) (hrendered p hp) (by simpa using hstands)⟩
  exact ⟨hleft, fun s' => expand_of_leftOpen fun p hp => (hleft p hp).2⟩

/-- A text with marks that are no placeholder's, and a link to an owner that nobody is. -/
def looseMarks : Text :=
  "50%;off; %;firm;%;gone;%%;REF_RECORD_URL_owner|Owner;%".toList

theorem scan_expand_looseMarks :
    (∀ p ∈ scan "50%;off; Acme;gone;%%;REF_RECORD_URL_owner|Owner;%".toList,
      p ∈ scan looseMarks ∧ LeftOpen notedRecord p) ∧
    ∀ s', ((expand emptySetup notedRecord
        "50%;off; Acme;gone;%%;REF_RECORD_URL_owner|Owner;%".toList).perform s').1 =
      .ok "50%;off; Acme;gone;%%;REF_RECORD_URL_owner|Owner;%".toList := by
  have hunmarked : ∀ p ∈ scan looseMarks,
      ∀ new ∈ replacement emptySetup emptySetup.maxDepth notedRecord .fresh p, Unmarked new := by
    decide +kernel
  have hread :
      NeverMisread (replacement emptySetup emptySetup.maxDepth notedRecord .fresh) looseMarks := by
    decide +kernel
  have hscan : scan looseMarks =
      [wrap "firm".toList, wrap "REF_RECORD_URL_owner|Owner".toList] := by
    decide +kernel
  have hout : ((expand emptySetup notedRecord looseMarks).perform .fresh).1 =
      .ok "50%;off; Acme;gone;%%;REF_RECORD_URL_owner|Owner;%".toList := by
    unfold expand
    rw [expandAt_eq_ok_iff]
    refine ⟨?_, by decide +kernel⟩
    intro p hp
    rw [hscan] at hp
    rcases List.mem_pair.1 hp with rfl | rfl
    · exact ⟨_, rfl⟩
    · exact ⟨_, rfl⟩
  exact leftOpen_of_scan_expand emptySetup notedRecord .fresh looseMarks _ hunmarked hread
    (by decide +kernel) hout

/-- A field that shows nothing joins the literal text around it to a placeholder, which
stands in the filled text and gives way when that is filled again. -/
theorem stray_not_settled :
    let text := "%;fi%;gap;%rm;%".toList
    let R := replacement emptySetup emptySetup.maxDepth notedRecord .fresh
    let after := ((expand emptySetup notedRecord text).perform .fresh).2
    (∀ p ∈ scan text, ∀ new ∈ R p, Unmarked new) ∧
      ((expand emptySetup notedRecord text).perform .fresh).1 = .ok "%;firm;%".toList ∧
      scan "%;firm;%".toList = ["%;firm;%".toList] ∧
      ¬ LeftOpen notedRecord "%;firm;%".toList ∧
      ((expand emptySetup notedRecord "%;firm;%".toList).perform after).1 =
        .ok "Acme".toList := by
  refine ⟨by decide +kernel, ?_, by decide +kernel, ?_, ?_⟩
  · rw [expand_notedRecord (by decide +kernel)]
    exact congrArg Except.ok (by decide +kernel)
  · rintro ⟨field, text, h, -⟩
    have hfield : directiveOf "%;firm;%".toList = .field "firm".toList := rfl
    rw [hfield] at h
    exact Directive.noConfusion h
  · have hsteady := steady_expand emptySetup notedRecord "%;firm;%".toList
    have halike := (steady_expand emptySetup notedRecord "%;fi%;gap;%rm;%".toList).alike .fresh
    rw [hsteady.outcome _ .fresh halike, expand_notedRecord (by decide +kernel)]
    exact congrArg Except.ok (by decide +kernel)

end MailMerge.Filling
