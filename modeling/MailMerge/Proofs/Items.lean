import MailMerge.Proofs.Children
import MailMerge.Proofs.InPlace
import MailMerge.Proofs.Markup
import MailMerge.Proofs.Wordings

/-!
# The items of a list

The text of an item is made of the parts of its list, each between the marks of a
placeholder, and it is filled like any other text. The parts hold no character of a
mark, so the wrapped parts are found again side by side, and nothing else is found.
They give way apart from each other when their renderings are inert, repeated ones
too, and so an item is what its parts contribute, one after the other.

A part without characters is the exception. A list has one when its directive ends
with a hyphen or holds two of them in a row. Marks with nothing between them are no
placeholder, so they are not filled, and both of them stay in the item.

Main facts:

* `scan_itemTemplate`: the placeholders of an item;
* `scan_flatMap_wrap`: they are the wrapped texts, and ask for what these say without tags;
* `fillsApart_fillParts`: they give way apart from each other;
* `exists_part_of_mark`: where the marks in an item come from;
* `rendering_list_of_parts`: the list, item by item and part by part;
* `empty_part_leaves_marks`: a list that shows the marks of an empty part.
-/

namespace MailMerge.Filling

open Session Template Work

section Parts

/-- A part of a list is a piece of its directive. -/
theorem sublist_of_mem_part
    {p entity key part : Text} {parts : List Text}
    (h : directiveOf p = .related entity key parts)
    (hpart : part ∈ parts) :
    part.Sublist (directiveText p) :=
  Directive.sublist_of_mem_related h (List.mem_cons_of_mem _ (List.mem_cons_of_mem _ hpart))

theorem isInner_of_mem_part
    {text p entity key part : Text} {parts : List Text} {c : Char}
    (hp : p ∈ scan text)
    (h : directiveOf p = .related entity key parts)
    (hpart : part ∈ parts)
    (hc : c ∈ part) :
    isInner c = true :=
  isInner_of_mem_directiveText hp ((sublist_of_mem_part h hpart).subset hc)

theorem head?_itemTemplate
    (parts : List Text) :
    (itemTemplate parts).head? ≠ some ';' := by
  cases parts with
  | nil =>
      simp [itemTemplate]
  | cons part parts =>
      simp [itemTemplate, wrap, opening]

/-- Marks with nothing between them are no placeholder, nor do they open one. -/
theorem scan_wrap_nil_append
    {rest : Text}
    (hrest : rest.head? ≠ some ';') :
    scan (wrap [] ++ rest) = scan rest := by
  -- neither of the two `%` is followed by a mark with something inside
  have hsplit : wrap [] ++ rest = '%' :: ([';', ';'] ++ '%' :: rest) := rfl
  have hlast : placeholderWidth ('%' :: rest) = 0 := by
    apply findsOpenings_placeholderWidth
    rintro ⟨u, hu⟩
    exact hrest (by rw [← (List.cons.inj hu).2]; rfl)
  have hfirst : placeholderWidth ('%' :: ([';', ';'] ++ '%' :: rest)) = 0 := by
    simp [placeholderWidth, isInner]
  rw [hsplit, scan_cons_of_width_eq_zero hfirst, scan_append_of_no_percent (by decide),
    scan_cons_of_width_eq_zero hlast]

theorem scan_itemTemplate
    {parts : List Text}
    (h : ∀ part ∈ parts, ∀ c ∈ part, isInner c = true) :
    scan (itemTemplate parts) = (parts.filter (· ≠ [])).map wrap := by
  induction parts with
  | nil =>
      rfl
  | cons part parts ih =>
      have hrest := ih fun q hq => h q (List.mem_cons_of_mem _ hq)
      have hcut : itemTemplate (part :: parts) = wrap part ++ itemTemplate parts := by
        simp [itemTemplate]
      rw [hcut]
      by_cases hnil : part = []
      · subst hnil
        rw [scan_wrap_nil_append (head?_itemTemplate parts), hrest]
        simp
      · have hinside : IsInside part := ⟨hnil, h part List.mem_cons_self⟩
        rw [scan_wrap_append hinside, hrest]
        simp [hnil]

/-- Of wrapped texts without characters of a mark exactly those that are not empty are found
again, one by one and in order, however many empty ones stand between them. The directive
of each is its text without tags and without the blanks around it. -/
theorem scan_flatMap_wrap
    (parts : List Text)
    (hparts : ∀ part ∈ parts, '%' ∉ part ∧ ';' ∉ part) :
    scan (parts.flatMap wrap) = (parts.filter (· ≠ [])).map wrap ∧
    ∀ part ∈ parts, ∃ bare, WithoutTags part bare ∧
      directiveText (wrap part) = Text.trim bare := by
  have hinner : ∀ part ∈ parts, ∀ c ∈ part, isInner c = true :=
    fun part hpart => forall_isInner_iff.2 (hparts part hpart)
  constructor
  · exact scan_itemTemplate hinner
  · intro part hpart
    exact ⟨stripTags part, withoutTags_stripTags part, directiveText_wrap (hinner part hpart)⟩

/-- Two empty texts side by side, one at the end, and markup in the text between them. -/
theorem scan_flatMap_wrap_ownerParts :
    let marked := " <b>ym_owner</b>.ym_name <".toList
    let parts := ["ym_subject".toList, [], [], marked, []]
    (∀ part ∈ parts, '%' ∉ part ∧ ';' ∉ part) ∧
    scan "%;ym_subject;%%;;%%;;%%; <b>ym_owner</b>.ym_name <;%%;;%".toList =
      ["%;ym_subject;%".toList, wrap marked] ∧
    marked ∈ parts ∧
    directiveText (wrap marked) = "ym_owner.ym_name <".toList := by
  intro marked parts
  have hparts : ∀ part ∈ parts, '%' ∉ part ∧ ';' ∉ part := by decide
  have hmarked : marked ∈ parts := by decide
  obtain ⟨hscan, hdirectives⟩ := scan_flatMap_wrap parts hparts
  obtain ⟨bare, hbare, hdirective⟩ := hdirectives marked hmarked
  refine ⟨hparts, hscan, hmarked, ?_⟩
  rw [hdirective, ← withoutTags_iff.1 hbare]
  decide +kernel

/-- What stands in an item for a part, with each placeholder `p` given as `f p`. Marks with
nothing between them are no placeholder. -/
def standsFor (f : Text → Text) (part : Text) : Text :=
  if part = [] then wrap [] else f (wrap part)

/-- The text of the wrapped parts with each placeholder `p` given as `f p`. -/
def fillParts (f : Text → Text) (parts : List Text) : Text :=
  parts.flatMap (standsFor f)

variable {part : Text} {parts : List Text} {f g : Text → Text}

theorem standsFor_nil :
    standsFor f [] = wrap [] :=
  if_pos rfl

theorem standsFor_of_ne
    (hpart : part ≠ []) :
    standsFor f part = f (wrap part) :=
  if_neg hpart

theorem standsFor_id
    (part : Text) :
    standsFor id part = wrap part := by
  by_cases hnil : part = []
  · rw [hnil, standsFor_nil]
  · exact standsFor_of_ne hnil

theorem fillParts_cons
    (part : Text)
    (parts : List Text) :
    fillParts f (part :: parts) = standsFor f part ++ fillParts f parts :=
  List.flatMap_cons

theorem fillParts_id
    (parts : List Text) :
    fillParts id parts = itemTemplate parts :=
  congrArg parts.flatMap (funext standsFor_id)

theorem fillParts_congr
    (h : ∀ part ∈ parts, part ≠ [] → f (wrap part) = g (wrap part)) :
    fillParts f parts = fillParts g parts := by
  apply List.flatMap_congr
  intro part hpart
  by_cases hnil : part = []
  · rw [hnil, standsFor_nil, standsFor_nil]
  · rw [standsFor_of_ne hnil, standsFor_of_ne hnil, h part hpart hnil]

/-- A part that is not empty stands as its placeholder or has given way to an inert text. -/
def PartsSettled (f : Text → Text) (parts : List Text) : Prop :=
  ∀ part ∈ parts, part ≠ [] → Layout.Settled f (wrap part)

/-- Whatever stands for the first part, its marks or not, is settled. -/
theorem PartsSettled.head
    (h : PartsSettled f (part :: parts)) :
    standsFor f part = wrap part ∨ Inert (standsFor f part) := by
  by_cases hnil : part = []
  · rw [hnil]
    exact Or.inl standsFor_nil
  · rw [standsFor_of_ne hnil]
    exact h part List.mem_cons_self hnil

theorem PartsSettled.tail
    (h : PartsSettled f (part :: parts)) :
    PartsSettled f parts :=
  fun q hq => h q (List.mem_cons_of_mem _ hq)

/-- No seam inside of an item completes an opening mark. -/
theorem head?_fillParts
    (h : PartsSettled f parts) :
    (fillParts f parts).head? ≠ some ';' := by
  induction parts with
  | nil =>
      simp [fillParts]
  | cons part parts ih =>
      rw [fillParts_cons]
      exact Layout.head?_settled_append h.head (ih h.tail)

/-- To replace a placeholder everywhere in an item is to replace it part by part. -/
theorem replaceAll_fillParts
    (hparts : ∀ part ∈ parts, ∀ c ∈ part, isInner c = true)
    (h : PartsSettled f parts)
    {x : Text}
    (hx : IsInside x)
    (new : Text) :
    Text.replaceAll (wrap x) new (fillParts f parts) =
      fillParts (fun p => if f p = wrap x then new else f p) parts := by
  induction parts with
  | nil =>
      rfl
  | cons part parts ih =>
      have hrest := ih (fun q hq => hparts q (List.mem_cons_of_mem _ hq)) h.tail
      rw [fillParts_cons, fillParts_cons,
        Layout.replaceAll_settled_append hx (hparts part List.mem_cons_self) h.head
          (head?_fillParts h.tail), hrest]
      congr 1
      by_cases hnil : part = []
      · have hother : wrap [] ≠ wrap x := fun heq => hx.1 (wrap_injective heq).symm
        rw [hnil, standsFor_nil, standsFor_nil, if_neg hother]
      · rw [standsFor_of_ne hnil, standsFor_of_ne hnil]

theorem mem_scan_itemTemplate
    (hparts : ∀ part ∈ parts, ∀ c ∈ part, isInner c = true)
    {p : Text} :
    p ∈ scan (itemTemplate parts) ↔ ∃ part ∈ parts, part ≠ [] ∧ wrap part = p := by
  rw [scan_itemTemplate hparts]
  simp [and_assoc]

/-- The wrapped parts give way to inert texts apart from each other. -/
theorem fillsApart_fillParts
    (hparts : ∀ part ∈ parts, ∀ c ∈ part, isInner c = true)
    {R : Text → Option Text}
    (hR : ∀ part ∈ parts, part ≠ [] → ∀ new ∈ R (wrap part), Inert new) :
    FillsApart R (scan (itemTemplate parts)) fun f => fillParts f parts where
  congr := by
    intro f g h
    apply fillParts_congr
    intro part hpart hnil
    exact h _ ((mem_scan_itemTemplate hparts).2 ⟨part, hpart, hnil, rfl⟩)
  apart := by
    intro p hp q hq hRq
    obtain ⟨x, -, -, rfl⟩ := (mem_scan_itemTemplate hparts).1 hp
    obtain ⟨y, hy, hnil, rfl⟩ := (mem_scan_itemTemplate hparts).1 hq
    exact Layout.ne_wrap_of_inert (hR y hy hnil _ hRq) x rfl
  replace := by
    intro filled p left hps new hRp
    obtain ⟨x, hx, hnil, rfl⟩ := (mem_scan_itemTemplate hparts).1
      (show p ∈ scan (itemTemplate parts) by simp [hps])
    refine replaceAll_fillParts hparts ?_ ⟨hnil, hparts x hx⟩ new
    intro part hpart hpart'
    rcases filledSoFar_eq_or (R := R) filled (wrap part) with hstands | hgone
    · exact Or.inl hstands
    · exact Or.inr (hR part hpart hpart' _ hgone)

end Parts

section Marks

/-- A mark behind text without one lies in what follows. -/
theorem exists_append_of_closed
    {front rest a b : Text}
    (hfront : ¬ opening <:+: front)
    (hrest : rest.head? ≠ some ';')
    (h : front ++ rest = a ++ (opening ++ b)) :
    ∃ a', a = front ++ a' ∧ rest = a' ++ (opening ++ b) := by
  induction front generalizing a with
  | nil =>
      exact ⟨a, rfl, h⟩
  | cons c cs ih =>
      cases a with
      | nil =>
          exact absurd ⟨b, h.symm⟩ (not_opening_isPrefix_of_closed hfront hrest)
      | cons d a =>
          obtain ⟨rfl, htail⟩ := List.cons.inj h
          obtain ⟨a', rfl, ha'⟩ := ih (fun hcs => hfront (List.infix_cons hcs)) htail
          exact ⟨a', rfl, ha'⟩

/-- Behind the `%` that it starts with, a wrapped text holds no opening mark. -/
theorem not_opening_infix_tail_wrap
    {y : Text}
    (hy : ∀ c ∈ y, isInner c = true) :
    ¬ opening <:+: (';' :: y ++ [';']) ++ ['%'] := by
  rintro ⟨a, b, h⟩
  have hmiddle : ¬ opening <:+: ';' :: y ++ [';'] := by
    intro hmark
    exact percent_not_mem_middle hy (hmark.subset List.mem_cons_self)
  have hcut : (';' :: y ++ [';']) ++ ['%'] = a ++ (opening ++ b) := by
    rw [← h, List.append_assoc]
  obtain ⟨a', -, hlast⟩ := exists_append_of_closed hmiddle (by decide) hcut
  have hlength := congrArg List.length hlast
  simp only [List.length_append, opening, List.length_cons] at hlength
  omega

/-- A mark that is found in an item opens what stands there for a part, and that part is
empty or stands as it is. -/
theorem exists_part_of_mark
    {f : Text → Text}
    {parts : List Text}
    (hparts : ∀ part ∈ parts, ∀ c ∈ part, isInner c = true)
    (hf : PartsSettled f parts)
    {a b : Text}
    (h : fillParts f parts = a ++ (opening ++ b)) :
    ∃ before part behind, parts = before ++ part :: behind ∧ a = fillParts f before ∧
      (part = [] ∨ f (wrap part) = wrap part) := by
  induction parts generalizing a with
  | nil =>
      have hlength := congrArg List.length h
      simp [fillParts, opening] at hlength
  | cons part parts ih =>
      have hhead := head?_fillParts hf.tail
      -- the mark lies behind the part when what stands there for it holds none
      have hlater : ∀ a', a = standsFor f part ++ a' →
          fillParts f parts = a' ++ (opening ++ b) →
          ∃ before q behind, part :: parts = before ++ q :: behind ∧
            a = fillParts f before ∧ (q = [] ∨ f (wrap q) = wrap q) := by
        intro a' ha hrest
        obtain ⟨before, q, behind, hsplit, rfl, hq⟩ :=
          ih (fun q hq => hparts q (List.mem_cons_of_mem _ hq)) hf.tail hrest
        exact ⟨part :: before, q, behind, by rw [hsplit]; rfl, by rw [ha, fillParts_cons], hq⟩
      rw [fillParts_cons] at h
      rcases hf.head with hstands | hinert
      · have hfirst : part = [] ∨ f (wrap part) = wrap part := by
          by_cases hnil : part = []
          · exact Or.inl hnil
          · rw [standsFor_of_ne hnil] at hstands
            exact Or.inr hstands
        cases a with
        | nil =>
            exact ⟨[], part, parts, rfl, rfl, hfirst⟩
        | cons c a =>
            rw [hstands, wrap_eq, List.cons_append] at h
            obtain ⟨rfl, htail⟩ := List.cons.inj h
            obtain ⟨a', ha, hrest⟩ := exists_append_of_closed
              (not_opening_infix_tail_wrap (hparts part List.mem_cons_self)) hhead htail
            exact hlater a' (by rw [hstands, wrap_eq, ha]; rfl) hrest
      · obtain ⟨a', ha, hrest⟩ := exists_append_of_closed hinert.1 hhead h
        exact hlater a' ha hrest

end Marks

/-- What a part contributes to the item of a record: its rendering, or its placeholder
when that is left as it is. An empty part contributes its marks. -/
def contribution (setup : Setup) (depth : Nat) (s : Session) (record : Record) (part : Text) :
    Text :=
  if part = [] then wrap []
  else (replacement setup depth record s (wrap part)).getD (wrap part)

section Lists

variable {setup : Setup} {depth : Nat} {s : Session} {record parent : Record}
variable {parts : List Text}

/-- Whether all parts of an item that are not empty are rendered. -/
def PartsRendered (setup : Setup) (depth : Nat) (s : Session) (parts : List Text)
    (record : Record) : Prop :=
  ∀ part ∈ parts, part ≠ [] → ∃ new, rendering setup depth record s (wrap part) = .ok new

theorem flatMap_contribution
    (parts : List Text) :
    parts.flatMap (contribution setup depth s record) =
      fillParts (fun p => (replacement setup depth record s p).getD p) parts :=
  rfl

theorem partsSettled_replacement
    (hinert : ∀ part ∈ parts, part ≠ [] →
      ∀ new ∈ replacement setup depth record s (wrap part), Inert new) :
    PartsSettled (fun p => (replacement setup depth record s p).getD p) parts := by
  intro part hpart hnil
  rcases h : replacement setup depth record s (wrap part) with _ | new
  · exact Or.inl (by simp only [h, Option.getD_none])
  · exact Or.inr (by simpa only [h, Option.getD_some] using hinert part hpart hnil new h)

/-- An item is filled when its parts are rendered, and then it is what they contribute. -/
theorem expandAt_itemTemplate_eq_ok_iff
    (hparts : ∀ part ∈ parts, ∀ c ∈ part, isInner c = true)
    (hinert : ∀ part ∈ parts, part ≠ [] →
      ∀ new ∈ replacement setup depth record s (wrap part), Inert new)
    (out : Text) :
    ((expandAt setup depth record (itemTemplate parts)).perform s).1 = .ok out ↔
      PartsRendered setup depth s parts record ∧
        out = parts.flatMap (contribution setup depth s record) := by
  have hfill := (fillsApart_fillParts hparts hinert).foldl_put
  rw [fillParts_id] at hfill
  rw [expandAt_eq_ok_iff, hfill, flatMap_contribution]
  refine and_congr_left fun _ => ?_
  constructor
  · intro h part hpart hnil
    exact h _ ((mem_scan_itemTemplate hparts).2 ⟨part, hpart, hnil, rfl⟩)
  · intro h p hp
    obtain ⟨part, hpart, hnil, rfl⟩ := (mem_scan_itemTemplate hparts).1 hp
    exact h part hpart hnil

/-- A mark in an item whose parts are rendered opens an empty part or a link that is left
open. -/
theorem exists_part_of_mark_in_item
    (hparts : ∀ part ∈ parts, ∀ c ∈ part, isInner c = true)
    (hinert : ∀ part ∈ parts, part ≠ [] →
      ∀ new ∈ replacement setup depth record s (wrap part), Inert new)
    (hrendered : PartsRendered setup depth s parts record)
    {a b : Text}
    (h : parts.flatMap (contribution setup depth s record) = a ++ (opening ++ b)) :
    ∃ before part behind, parts = before ++ part :: behind ∧
      a = before.flatMap (contribution setup depth s record) ∧
      (part = [] ∨ LeftOpen record (wrap part)) := by
  obtain ⟨before, part, behind, rfl, ha, hpart⟩ :=
    exists_part_of_mark hparts (partsSettled_replacement hinert) h
  refine ⟨before, part, behind, rfl, ha, ?_⟩
  by_cases hnil : part = []
  · exact Or.inl hnil
  · have hmem : part ∈ before ++ part :: behind := by simp
    obtain ⟨new, hnew⟩ := hrendered part hmem hnil
    have hstands := hpart.resolve_left hnil
    have hinert' := hinert part hmem hnil
    rw [replacement_of_rendering hnew] at hstands hinert'
    cases new with
    | none =>
        exact Or.inr (rendering_eq_ok_none_iff.1 hnew)
    | some new =>
        exact absurd hstands (Layout.ne_wrap_of_inert (hinert' new rfl) part)

/-- Members that are what a function makes of those of another list. -/
theorem forall₂_iff_eq_map
    {α β : Type} {P : α → β → Prop} {Q : α → Prop} {g : α → β}
    {xs : List α}
    (h : ∀ x ∈ xs, ∀ y, P x y ↔ Q x ∧ y = g x)
    (ys : List β) :
    List.Forall₂ P xs ys ↔ (∀ x ∈ xs, Q x) ∧ ys = xs.map g := by
  induction xs generalizing ys with
  | nil =>
      simp
  | cons x xs ih =>
      have hhead := h x List.mem_cons_self
      have htail := ih fun z hz => h z (List.mem_cons_of_mem _ hz)
      cases ys with
      | nil =>
          simp
      | cons y ys =>
          rw [List.forall₂_cons, hhead, htail]
          simp [and_assoc, and_left_comm]

/-- A list is rendered when its items are filled. -/
theorem rendering_eq_ok_list_iff
    {p entity key : Text}
    {found : List Record}
    (hdirective : directiveOf p = .related entity key parts)
    (hfound : setup.source.search (queryUnder entity key parent.id (columnsOf parts)
      (s.overrideSeen (overrideName entity key))) = .ok found)
    (out : Text) :
    rendering setup (depth + 1) parent s p = .ok (some out) ↔
      ∃ items, List.Forall₂ (fun r item =>
        ((expandAt setup depth r (itemTemplate parts)).perform s).1 = .ok item) found items ∧
        out = listMarkup items := by
  have hsteady : ∀ r text, Steady setup.source.describe (expandAt setup depth r text) :=
    (inherited_steady setup.source).expandAt depth
  rw [← perform_relatedList_eq_ok_iff hsteady hfound]
  unfold rendering renderAt
  rw [hdirective]
  show ((some <$> relatedList setup (fun r t => expandAt setup depth r t) parent entity key
    parts).perform s).1 = _ ↔ _
  rw [← bind_pure_comp, bind_eq_ok_iff]
  simp

end Lists

/-- A list whose parts are rendered as inert texts, such as all texts without `%` and `;`,
is rendered exactly when every part that is not empty is, for every record of the list.
Then each item is what its parts contribute, one after the other, and a mark is found
in it only where an empty part or a link that is left open stands. -/
theorem rendering_list_of_parts
    (setup : Setup)
    (depth : Nat)
    (parent : Record)
    (s : Session)
    (text p entity key : Text)
    (parts : List Text)
    (found : List Record)
    (hp : p ∈ scan text)
    (hdirective : directiveOf p = .related entity key parts)
    (hfound : setup.source.search (queryUnder entity key parent.id (columnsOf parts)
      (s.overrideSeen (overrideName entity key))) = .ok found)
    (hinert : ∀ r ∈ found, ∀ part ∈ parts, part ≠ [] →
      ∀ new ∈ replacement setup depth r s (wrap part), Inert new) :
    (∀ out, rendering setup (depth + 1) parent s p = .ok (some out) ↔
      (∀ r ∈ found, PartsRendered setup depth s parts r) ∧
        out = listMarkup (found.map fun r => parts.flatMap (contribution setup depth s r))) ∧
    ((∀ r ∈ found, PartsRendered setup depth s parts r) →
      ∀ r ∈ found, ∀ a b, parts.flatMap (contribution setup depth s r) = a ++ (opening ++ b) →
        ∃ before part behind, parts = before ++ part :: behind ∧
          a = before.flatMap (contribution setup depth s r) ∧
          (part = [] ∨ LeftOpen r (wrap part))) := by
  have hparts : ∀ part ∈ parts, ∀ c ∈ part, isInner c = true :=
    fun part hpart c hc => isInner_of_mem_part hp hdirective hpart hc
  constructor
  · intro out
    have hitem := fun r hr => expandAt_itemTemplate_eq_ok_iff hparts (hinert r hr)
    simp only [rendering_eq_ok_list_iff hdirective hfound, forall₂_iff_eq_map hitem, and_assoc,
      exists_and_left, exists_eq_left]
  · intro hrendered r hr a b h
    exact exists_part_of_mark_in_item hparts (hinert r hr) (hrendered r hr) h

/-- A list of tasks that shows the subject twice, with an empty part and a link to an owner
in between. -/
def doubleTaskList : Text :=
  "%;RELATED_task-deal_id-ym_subject--REF_RECORD_URL_ym_owner|Owner-ym_subject;%".toList

/-- No task has an owner, so the link stands in every item, and so do the marks of the
empty part. -/
theorem rendering_doubleTaskList :
    rendering (setupOver (Store.afterAll taskChanges (.ofSeed taskSeed)).toSource) 1
        ownerRecord .fresh doubleTaskList =
      .ok (some ("<ul><li>Call back%;;%%;REF_RECORD_URL_ym_owner|Owner;%Call back</li>".toList ++
        "<li>Email%;;%%;REF_RECORD_URL_ym_owner|Owner;%Email</li></ul>".toList)) := by
  let store := Store.afterAll taskChanges (.ofSeed taskSeed)
  let parts := ["ym_subject".toList, [], "REF_RECORD_URL_ym_owner|Owner".toList,
    "ym_subject".toList]
  let found := store.search
    (usualQuery "task".toList "deal_id".toList ownerRecord.id (columnsOf parts))
  have hp : doubleTaskList ∈ scan doubleTaskList := by decide +kernel
  have hdirective : directiveOf doubleTaskList =
      .related "task".toList "deal_id".toList parts := by
    decide +kernel
  have hinert : ∀ r ∈ found, ∀ part ∈ parts, part ≠ [] →
      ∀ new ∈ replacement (setupOver store.toSource) 0 r .fresh (wrap part), Inert new := by
    decide +kernel
  have hrendered : ∀ r ∈ found, PartsRendered (setupOver store.toSource) 0 .fresh parts r :=
    fun r _ part _ _ => succeeds_renderAt rfl 0 r (directiveOf (wrap part)) .fresh
  have hlist := rendering_list_of_parts (setupOver store.toSource) 0 ownerRecord .fresh
    doubleTaskList doubleTaskList "task".toList "deal_id".toList parts found hp hdirective rfl
    hinert
  exact (hlist.1 _).2 ⟨hrendered, by decide +kernel⟩

/-- A list that ends with a hyphen has an empty part, whose marks show in each of its items
though neither the template nor a link that is left open holds such marks. -/
theorem empty_part_leaves_marks :
    let setup := setupOver (Store.afterAll taskChanges (.ofSeed taskSeed)).toSource
    let p := "%;RELATED_task-deal_id-ym_subject-;%".toList
    let parts := ["ym_subject".toList, []]
    let found := (Store.afterAll taskChanges (.ofSeed taskSeed)).search
      (usualQuery "task".toList "deal_id".toList ownerRecord.id (columnsOf parts))
    directiveOf p = .related "task".toList "deal_id".toList parts ∧
    (∀ r ∈ found, (replacement setup 0 r .fresh (wrap "ym_subject".toList)).any Unmarked = true) ∧
    rendering setup 1 ownerRecord .fresh p =
      .ok (some "<ul><li>Call back%;;%</li><li>Email%;;%</li></ul>".toList) ∧
    listMarkup (found.map fun r => parts.flatMap fun part =>
        if part = [] then [] else (replacement setup 0 r .fresh (wrap part)).getD (wrap part)) =
      "<ul><li>Call back</li><li>Email</li></ul>".toList := by
  intro setup p parts found
  exact ⟨by decide +kernel, by decide +kernel, by decide +kernel, by decide +kernel⟩

end MailMerge.Filling
