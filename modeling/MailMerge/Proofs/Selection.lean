import MailMerge.Filling.Related
import MailMerge.Proofs.Layout
import Mathlib.Data.List.Induction
import Mathlib.Data.List.Nodup
import Mathlib.Data.List.TakeWhile

/-!
# Which columns are asked for

A part of a list asks for a column when it starts like a custom field. The column is what
stands in front of the first point of the part, so that parts which are different may ask
for one column. It is with the columns that repetition is looked for, not with the parts.

Columns are taken up part by part, and after any number of parts they are those that these
have asked for, each of them once, in the order in which they were first asked for. This
is kept by one more part, and it tells which list the columns are: in front of a column
stands what was asked for in front of the first part that asks for it.

Main facts:

* `asksFor_iff`: what a part asks for is cut off at its first point;
* `FirstAsked.concat`, `firstAsked_columnsOf`: one more part, and all parts of a list;
* `FirstAsked.unique`: there is one such list of columns;
* `columnsOf_eq_iff_firstAsked`: it is the list that is fetched, and it holds custom
  fields only.
-/

namespace MailMerge

/-- What stands before the first separator holds none, and is the whole text or ends at
a separator. -/
theorem Text.before_eq_iff
    {sep : Char}
    {s t : Text} :
    before sep t = s ↔ sep ∉ s ∧ (t = s ∨ ∃ rest, t = s ++ sep :: rest) := by
  constructor
  · rintro rfl
    have hcut : before sep t ++ t.dropWhile (· ≠ sep) = t := List.takeWhile_append_dropWhile
    refine ⟨not_mem_before sep t, ?_⟩
    rcases hrest : t.dropWhile (· ≠ sep) with _ | ⟨c, rest⟩
    · rw [hrest, List.append_nil] at hcut
      exact Or.inl hcut.symm
    · have hc : c = sep := by
        have hfirst := List.head?_dropWhile_not (· ≠ sep) t
        rw [hrest] at hfirst
        simpa using hfirst
      rw [hrest, hc] at hcut
      exact Or.inr ⟨rest, hcut.symm⟩
  · rintro ⟨h, rfl | ⟨rest, rfl⟩⟩
    · exact before_of_not_mem h
    · exact before_append_cons h rest

namespace Filling

open Template

section Parts

variable {part c d : Text} {parts columns front behind : List Text}

theorem isCustom_iff :
    isCustom part = true ↔ "ym_".toList <+: part ∨ "kc_".toList <+: part := by
  unfold isCustom
  rw [Bool.or_eq_true, Text.startsWith_iff_isPrefix, Text.startsWith_iff_isPrefix]

/-- What a path of custom fields starts with is custom. -/
theorem isCustom_before
    (h : isCustom part = true) :
    isCustom (Text.before '.' part) = true := by
  rw [isCustom_iff] at h ⊢
  unfold Text.before
  rcases h with ⟨rest, rfl⟩ | ⟨rest, rfl⟩
  · rw [List.takeWhile_append_of_pos (List.all_eq_true.1 (by decide))]
    exact Or.inl (List.prefix_append _ _)
  · rw [List.takeWhile_append_of_pos (List.all_eq_true.1 (by decide))]
    exact Or.inr (List.prefix_append _ _)

/-- A part that starts like a custom field asks for what stands in front of its first
point. -/
def AsksFor (part column : Text) : Prop :=
  ("ym_".toList <+: part ∨ "kc_".toList <+: part) ∧
    '.' ∉ column ∧ (part = column ∨ ∃ rest, part = column ++ '.' :: rest)

theorem asksFor_iff :
    AsksFor part c ↔ isCustom part = true ∧ Text.before '.' part = c := by
  rw [isCustom_iff, Text.before_eq_iff]
  rfl

instance (part column : Text) : Decidable (AsksFor part column) :=
  decidable_of_iff _ asksFor_iff.symm

theorem AsksFor.eq
    (hc : AsksFor part c)
    (hd : AsksFor part d) :
    d = c :=
  (asksFor_iff.1 hd).2.symm.trans (asksFor_iff.1 hc).2

/-- A part puts the column that it asks for behind the columns so far when it is new, and
changes nothing otherwise. -/
theorem addColumn_cases
    (columns : List Text)
    (part : Text) :
    (∃ c, AsksFor part c ∧ c ∉ columns ∧ addColumn columns part = columns ++ [c]) ∨
      ((∀ c, AsksFor part c → c ∈ columns) ∧ addColumn columns part = columns) := by
  by_cases h : isCustom part = true ∧ Text.before '.' part ∉ columns
  · exact Or.inl ⟨_, asksFor_iff.2 ⟨h.1, rfl⟩, h.2, if_pos h⟩
  · refine Or.inr ⟨?_, if_neg h⟩
    intro c hc
    obtain ⟨hcustom, rfl⟩ := asksFor_iff.1 hc
    by_contra hnew
    exact h ⟨hcustom, hnew⟩

/-- The columns that parts ask for, each of them once, in the order in which they are first
asked for: in front of a column stands what is asked for in front of a part that asks for
the column. Since no column stands there twice, no part in front of that part does. -/
structure FirstAsked (parts columns : List Text) : Prop where
  nodup : columns.Nodup
  mem_iff : ∀ c, c ∈ columns ↔ ∃ part ∈ parts, AsksFor part c
  in_order : ∀ front c behind, columns = front ++ c :: behind →
    ∃ earlier part later, parts = earlier ++ part :: later ∧ AsksFor part c ∧
      ∀ d, d ∈ front ↔ ∃ q ∈ earlier, AsksFor q d

theorem firstAsked_nil :
    FirstAsked [] [] where
  nodup := List.nodup_nil
  mem_iff := by simp
  in_order := by
    intro front c behind h
    simp at h

theorem exists_mem_concat_asksFor_iff :
    (∃ q ∈ parts ++ [part], AsksFor q c) ↔ (∃ q ∈ parts, AsksFor q c) ∨ AsksFor part c := by
  simp [or_and_right, exists_or]

/-- One more part keeps the columns those that were asked for. -/
theorem FirstAsked.concat
    (h : FirstAsked parts columns)
    (part : Text) :
    FirstAsked (parts ++ [part]) (addColumn columns part) := by
  -- what stands in front of an old column is as it was
  have hold : ∀ front c behind, columns = front ++ c :: behind →
      ∃ earlier q later, parts ++ [part] = earlier ++ q :: later ∧ AsksFor q c ∧
        ∀ d, d ∈ front ↔ ∃ q ∈ earlier, AsksFor q d := by
    intro front c behind hsplit
    obtain ⟨earlier, q, later, rfl, hq, hfront⟩ := h.in_order front c behind hsplit
    exact ⟨earlier, q, later ++ [part], by simp, hq, hfront⟩
  have hnodup := nodup_addColumn h.nodup part
  rcases addColumn_cases columns part with ⟨c, hc, -, hadd⟩ | ⟨hmem, hadd⟩
  · rw [hadd] at hnodup ⊢
    refine ⟨hnodup, ?_, ?_⟩
    · intro d
      rw [exists_mem_concat_asksFor_iff, ← h.mem_iff, List.mem_append, List.mem_singleton]
      refine or_congr_right ⟨?_, hc.eq⟩
      rintro rfl
      exact hc
    · intro front d behind hsplit
      rcases behind.eq_nil_or_concat with rfl | ⟨behind, last, rfl⟩
      · obtain ⟨rfl, hlast⟩ := List.append_inj' hsplit rfl
        obtain rfl := (List.cons.inj hlast).1
        exact ⟨parts, part, [], rfl, hc, h.mem_iff⟩
      · rw [List.concat_eq_append, ← List.cons_append, ← List.append_assoc] at hsplit
        exact hold front d behind (List.append_inj' hsplit rfl).1
  · rw [hadd] at hnodup ⊢
    refine ⟨hnodup, ?_, hold⟩
    intro d
    rw [exists_mem_concat_asksFor_iff, ← h.mem_iff, or_iff_left_of_imp (hmem d)]

theorem columnsOf_concat
    (parts : List Text)
    (part : Text) :
    columnsOf (parts ++ [part]) = addColumn (columnsOf parts) part := by
  unfold columnsOf
  rw [List.foldl_append]
  rfl

/-- Induction on the parts, from the last one. -/
theorem firstAsked_columnsOf
    (parts : List Text) :
    FirstAsked parts (columnsOf parts) := by
  induction parts using List.reverseRecOn with
  | nil =>
      exact firstAsked_nil
  | append_singleton parts part ih =>
      rw [columnsOf_concat]
      exact ih.concat part

/-- A column is fetched when a part is written with it that starts like a custom field. -/
theorem mem_columnsOf :
    c ∈ columnsOf parts ↔ ∃ q ∈ parts, isCustom q = true ∧ Text.before '.' q = c := by
  simp only [(firstAsked_columnsOf parts).mem_iff, asksFor_iff]

theorem isCustom_of_mem_columnsOf
    (h : c ∈ columnsOf parts) :
    isCustom c = true := by
  obtain ⟨q, -, hq, rfl⟩ := mem_columnsOf.1 h
  exact isCustom_before hq

theorem FirstAsked.not_mem_front
    (h : FirstAsked parts (front ++ behind))
    (hc : c ∈ behind) :
    c ∉ front :=
  fun hfront => List.disjoint_of_nodup_append h.nodup hfront hc

/-- What stands in front of a column was asked for by the parts in front of the first one
that asks for the column. -/
theorem FirstAsked.mem_front_iff
    (h : FirstAsked parts (front ++ c :: behind)) :
    d ∈ front ↔ ∃ q ∈ parts.takeWhile (fun q => ¬ AsksFor q c), AsksFor q d := by
  obtain ⟨earlier, part, later, rfl, hpart, hfront⟩ := h.in_order front c behind rfl
  have hfirst : ∀ q ∈ earlier, decide (¬ AsksFor q c) = true := by
    intro q hq
    refine decide_eq_true fun hc => ?_
    exact h.not_mem_front List.mem_cons_self ((hfront c).2 ⟨q, hq, hc⟩)
  rw [List.takeWhile_append_of_pos hfirst, List.takeWhile_cons_of_neg (by simpa using hpart),
    List.append_nil]
  exact hfront d

/-- Two such lists go on in the same way behind what they start with. -/
theorem FirstAsked.eq_of_common_front
    {xs ys : List Text}
    (hxs : FirstAsked parts (front ++ xs))
    (hys : FirstAsked parts (front ++ ys)) :
    xs = ys := by
  have hmem : ∀ c, c ∈ front ++ xs ↔ c ∈ front ++ ys :=
    fun c => (hxs.mem_iff c).trans (hys.mem_iff c).symm
  induction xs generalizing front ys with
  | nil =>
      rw [eq_comm, List.eq_nil_iff_forall_not_mem]
      intro y hy
      have hfront : y ∈ front := by simpa using (hmem y).2 (List.mem_append_right front hy)
      exact hys.not_mem_front hy hfront
  | cons x xs ih =>
      have hx : x ∉ front := hxs.not_mem_front List.mem_cons_self
      have hxys : x ∈ ys := (List.mem_append.1 ((hmem x).1 (by simp))).resolve_left hx
      obtain ⟨between, rest, rfl⟩ := List.append_of_mem hxys
      -- whatever came in between would be asked for in front of the first part for `x`
      have hbetween : between = [] := by
        rw [List.eq_nil_iff_forall_not_mem]
        intro y hy
        have hlonger : FirstAsked parts ((front ++ between) ++ x :: rest) := by
          rwa [List.append_assoc]
        have hfront : y ∈ front :=
          hxs.mem_front_iff.2 (hlonger.mem_front_iff.1 (List.mem_append_right front hy))
        exact hys.not_mem_front (List.mem_append_left _ hy) hfront
      subst hbetween
      rw [List.nil_append, List.append_cons] at hys
      rw [List.append_cons] at hxs
      rw [List.nil_append, ih hxs hys fun c => (hxs.mem_iff c).trans (hys.mem_iff c).symm]

theorem FirstAsked.unique
    {xs ys : List Text}
    (hxs : FirstAsked parts xs)
    (hys : FirstAsked parts ys) :
    xs = ys := by
  have hfront : FirstAsked parts ([] ++ xs) := hxs
  exact hfront.eq_of_common_front hys

end Parts

/-- The columns of a list are those that its parts ask for, each of them once, in the order
in which they are first asked for, and no other list is. Every one of them starts like a
custom field itself. -/
theorem columnsOf_eq_iff_firstAsked
    (parts : List Text) :
    (∀ columns, columnsOf parts = columns ↔ FirstAsked parts columns) ∧
    ∀ c ∈ columnsOf parts, "ym_".toList <+: c ∨ "kc_".toList <+: c := by
  constructor
  · intro columns
    constructor
    · rintro rfl
      exact firstAsked_columnsOf parts
    · exact (firstAsked_columnsOf parts).unique
  · exact fun c hc => isCustom_iff.1 (isCustom_of_mem_columnsOf hc)

/-- Of four parts that start like a custom field two ask for the owner, and one has its point
right behind the start. -/
theorem firstAsked_ownerParts :
    let parts := ["subject".toList, "ym_owner.ym_name".toList, "kc_room".toList,
      "ym_owner".toList, "ym_.x".toList]
    let columns := ["ym_owner".toList, "kc_room".toList, "ym_".toList]
    columnsOf parts = columns ∧
    FirstAsked parts columns ∧
    "kc_room".toList ∈ columnsOf parts ∧
    ("ym_".toList <+: "kc_room".toList ∨ "kc_".toList <+: "kc_room".toList) := by
  intro parts columns
  have hcolumns : columnsOf parts = columns := by decide +kernel
  have hroom : "kc_room".toList ∈ columnsOf parts := by decide +kernel
  obtain ⟨hfirst, hcustom⟩ := columnsOf_eq_iff_firstAsked parts
  exact ⟨hcolumns, (hfirst columns).1 hcolumns, hroom, hcustom _ hroom⟩

end Filling

end MailMerge
