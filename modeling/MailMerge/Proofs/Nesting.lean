import MailMerge.Proofs.History
import MailMerge.Proofs.Rendering
import MailMerge.Proofs.Wordings

/-!
# Lists inside of lists

The parts of a list are cut at every `-`, so the text that its items are made of
holds none. A directive that asks for a list needs two of them, one behind the
entity and one behind the key. So no item of a list asks for a list, whatever
the template, the markup and the data are, and the depth to which lists are
filled matters only as far as it is zero or not.

Main facts:

* `directiveOf_ne_related_of_mem_scan`: no item of a list asks for a list;
* `expandAt_itemTemplate`: the items of a list are filled alike at all depths;
* `expand_eq_at_depth_one`: a letter is filled alike at all depths but zero, and at
  depth zero a list shows nothing.
-/

namespace MailMerge

namespace Template

theorem no_hyphen_of_parse_eq_related
    {t entity key : Text} {parts : List Text}
    (h : Directive.parse t = .related entity key parts) :
    ∀ part ∈ parts, '-' ∉ part := by
  intro part hpart
  exact Directive.no_hyphen_of_mem_related h
    (List.mem_cons_of_mem _ (List.mem_cons_of_mem _ hpart))

end Template

namespace Filling

open Work Template

section Items

variable {parts : List Text}

theorem no_hyphen_itemTemplate
    (h : ∀ part ∈ parts, '-' ∉ part) :
    '-' ∉ itemTemplate parts := by
  intro hmem
  obtain ⟨part, hpart, hwrap⟩ := List.mem_flatMap.1 hmem
  unfold wrap opening closing at hwrap
  have hpart' := h part hpart
  simp [hpart'] at hwrap

/-- No item of a list asks for a list. -/
theorem directiveOf_ne_related_of_mem_scan
    (h : ∀ part ∈ parts, '-' ∉ part)
    {placeholder : Text}
    (hp : placeholder ∈ scan (itemTemplate parts))
    (entity key : Text) (inner : List Text) :
    directiveOf placeholder ≠ .related entity key inner := by
  intro hd
  have hplaceholder := mem_of_mem_directiveText (Directive.hyphen_mem_of_parse_eq_related hd)
  exact no_hyphen_itemTemplate h (Text.mem_of_mem_occurrences hp hplaceholder)

end Items

section Congruence

variable {renderOne renderOne' : Directive → Work StoreError (Option Text)}

theorem foldlM_fillPlaceholder_congr
    {ps : List Text}
    (h : ∀ p ∈ ps, renderOne (directiveOf p) = renderOne' (directiveOf p))
    (text : Text) :
    ps.foldlM (fillPlaceholder renderOne) text = ps.foldlM (fillPlaceholder renderOne') text := by
  induction ps generalizing text with
  | nil =>
      rfl
  | cons p ps ih =>
      have hp : fillPlaceholder renderOne text p = fillPlaceholder renderOne' text p := by
        have hrender := h p List.mem_cons_self
        unfold directiveOf at hrender
        simp only [fillPlaceholder, hrender]
      rw [List.foldlM_cons, List.foldlM_cons, hp]
      congr 1
      funext u
      exact ih (fun q hq => h q (List.mem_cons_of_mem _ hq)) u

/-- Only the directives that are found in a text matter for it. -/
theorem fillAll_congr
    {text : Text}
    (h : ∀ p ∈ scan text, renderOne (directiveOf p) = renderOne' (directiveOf p)) :
    fillAll renderOne text = fillAll renderOne' text :=
  foldlM_fillPlaceholder_congr h text

end Congruence

section Depths

variable (setup : Setup)

/-- How lists are filled matters for lists only. -/
theorem render_eq_of_not_related
    {list list' : Text → Text → List Text → Work StoreError Text}
    (record : Record)
    {directive : Directive}
    (h : ∀ entity key parts, directive = .related entity key parts →
      list entity key parts = list' entity key parts) :
    render setup list record directive = render setup list' record directive :=
  (fieldwise_eq rfl rfl).render record h

theorem expandAt_itemTemplate
    {parts : List Text}
    (h : ∀ part ∈ parts, '-' ∉ part)
    (depth : Nat)
    (record : Record) :
    expandAt setup depth record (itemTemplate parts) =
      expandAt setup 0 record (itemTemplate parts) := by
  rw [expandAt_eq, expandAt_eq]
  apply fillAll_congr
  intro p hp
  have hno := directiveOf_ne_related_of_mem_scan h hp
  cases depth with
  | zero =>
      rfl
  | succ depth =>
      apply render_eq_of_not_related
      intro entity key inner hd
      exact absurd hd (hno entity key inner)

/-- A list is filled by the same work at all depths but zero. -/
theorem expandAt_succ
    (depth : Nat)
    (record : Record)
    (text : Text) :
    expandAt setup (depth + 1) record text = expandAt setup 1 record text := by
  rw [expandAt_eq, expandAt_eq]
  apply fillAll_congr
  intro p hp
  apply render_eq_of_not_related
  intro entity key parts hd
  have hparts := no_hyphen_of_parse_eq_related hd
  unfold relatedList
  simp only [expandAt_itemTemplate setup hparts depth]

/-- The depth that a setup names is the one at which filling starts, and nothing else. -/
theorem expandAt_withDepth
    (m depth : Nat)
    (record : Record)
    (text : Text) :
    expandAt { setup with maxDepth := m } depth record text =
      expandAt setup depth record text := by
  have hrender : ∀ list record,
      render { setup with maxDepth := m } list record = render setup list record := by
    intro list record
    funext directive
    cases directive <;> rfl
  induction depth generalizing record text with
  | zero =>
      simp only [expandAt, hrender]
  | succ depth ih =>
      simp only [expandAt, hrender, ih]
      rfl

end Depths

/-- At all depths but zero a text is filled by the same work: with the same outcome, the
same calls and the same counters, in every session. At depth zero each placeholder
that asks for a list gives way to nothing, and no call is made for it. -/
theorem expand_eq_at_depth_one
    (setup : Setup)
    (record : Record)
    (text : Text) :
    (∀ m, 1 ≤ m → ∀ s,
      (expand { setup with maxDepth := m } record text).perform s =
        (expand { setup with maxDepth := 1 } record text).perform s) ∧
    expand { setup with maxDepth := 0 } record text =
      (scan text).foldlM (fillPlaceholder (renderAt setup 0 record)) text ∧
    (∀ placeholder entity key parts, directiveOf placeholder = .related entity key parts →
      ∀ current s,
        (fillPlaceholder (renderAt setup 0 record) current placeholder).perform s =
          (.ok (Text.replaceAll placeholder [] current),
            s.count fun c => c.addPlaceholder .related)) := by
  refine ⟨?_, ?_, ?_⟩
  · intro m hm s
    obtain ⟨depth, rfl⟩ := Nat.exists_eq_add_of_le' hm
    have hdeep := expandAt_withDepth setup (depth + 1) (depth + 1) record text
    have hone := expandAt_withDepth setup 1 1 record text
    unfold expand
    rw [hdeep, hone, expandAt_succ]
  · have hzero := expandAt_withDepth setup 0 0 record text
    unfold expand
    rw [hzero, expandAt_eq]
    rfl
  · intro placeholder entity key parts hd current s
    unfold directiveOf at hd
    unfold fillPlaceholder
    rw [hd]
    rfl

/-- A list of which one part tries to ask for a list. -/
def nestedList : Text :=
  "%;RELATED_deal-parent-stage-RELATED_deal;%".toList

theorem expand_nestedList_at_depth_three :
    1 ≤ 3 ∧
    (expand { setupOver (dealStore 2).toSource with maxDepth := 3 } (dealRecord 1)
        nestedList).perform .fresh =
      (expand { setupOver (dealStore 2).toSource with maxDepth := 1 } (dealRecord 1)
        nestedList).perform .fresh ∧
    directiveOf nestedList =
      .related "deal".toList "parent".toList ["stage".toList, "RELATED_deal".toList] ∧
    (fillPlaceholder (renderAt (setupOver (dealStore 2).toSource) 0 (dealRecord 1))
        nestedList nestedList).perform .fresh =
      (.ok (Text.replaceAll nestedList [] nestedList),
        Session.fresh.count fun c => c.addPlaceholder .related) := by
  obtain ⟨hdeep, -, hzero⟩ :=
    expand_eq_at_depth_one (setupOver (dealStore 2).toSource) (dealRecord 1) nestedList
  have hthree : 1 ≤ 3 := by decide
  have hd : directiveOf nestedList =
      .related "deal".toList "parent".toList ["stage".toList, "RELATED_deal".toList] := by
    decide +kernel
  exact ⟨hthree, hdeep 3 hthree .fresh, hd, hzero _ _ _ _ hd nestedList .fresh⟩

end Filling

end MailMerge
