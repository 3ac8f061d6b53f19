import MailMerge.Proofs.Outcomes
import MailMerge.Proofs.Sections

/-!
# Templates by title

A shared template is meant by its title. The records that carry a title are those of the
entity of shared templates whose title field holds exactly this text; values of other
kinds, other entities and other fields play no part. One of them is a template, none and
several are told apart, and the number of several is told.

The name that a caller gives is a title once the blanks around it are gone. So a title
with blanks around it is never met, not even by itself.

Main facts:

* `perform_load_of_unique`: the letter of the one template with a title;
* `perform_load_eq_error_iff`: the failures of a title that none or several carry;
* `raw_by_name`: what a name that is not blank leads to;
* `blanks_hide_titles`: a title that no name leads to.
-/

namespace MailMerge

theorem Record.text?_project
    {r : Record} {columns : Columns} {field : Text}
    (h : columns.asks field = true) :
    (r.project columns).text? field = r.text? field := by
  unfold Record.text?
  rw [Record.get?_project, if_pos h]

namespace Filling

open Work Template

/-- What a letter shows of a stored text: the content of its first section with quotation
marks turned, and nothing when there is no section. A content that starts with an opening
mark is left out of account. -/
structure ShowsSection (stored : Option Text) (shown : Text) : Prop where
  content : ∀ t content, stored = some t → InSection t content → ¬ cdataOpening <+: content →
    shown = normalizeQuotes content
  absent : (∀ t content, stored = some t → ¬ InSection t content) → shown = []

theorem showsSection_cdata
    (stored : Option Text) :
    ShowsSection stored (normalizeQuotes (cdata (stored.getD []))) where
  content := by
    rintro t content rfl hsection hstart
    rw [Option.getD_some, cdata_of_inSection hsection, Text.dropMarks_of_not_isPrefix hstart]
  absent := by
    intro h
    cases stored with
    | none => rfl
    | some t =>
        rw [Option.getD_some, cdata_of_no_section fun content => h t content rfl]
        rfl

section Loads

variable (store : Store)

theorem perform_loadNamed_of_unique
    {title : Text} {r : Record}
    (h : store.sharedTitled title = [r])
    (s : Session) :
    ((loadNamed store.toSource title).perform s).1 =
      .ok ⟨cdata ((r.text? "subject".toList).getD []),
        cdata ((r.text? "body".toList).getD [])⟩ := by
  have hfound : store.toSource.search (titleQuery title) =
      .ok [r.project (titleQuery title).columns] := by
    show Except.ok (store.search (titleQuery title)) = _
    rw [store.search_titleQuery, h]
    rfl
  have hsubject : (r.project (titleQuery title).columns).text? "subject".toList =
      r.text? "subject".toList := Record.text?_project rfl
  have hbody : (r.project (titleQuery title).columns).text? "body".toList =
      r.text? "body".toList := Record.text?_project rfl
  unfold loadNamed
  simp only [perform_bind, perform_mapError, perform_search, hfound, hsubject, hbody]
  rfl

/-- The letter of the one template with a title. -/
theorem perform_load_of_unique
    {title : Text} {r : Record}
    (h : store.sharedTitled title = [r])
    (s : Session) :
    ((load store.toSource (.named title)).perform s).1 =
      .ok ⟨normalizeQuotes (cdata ((r.text? "subject".toList).getD [])),
        normalizeQuotes (cdata ((r.text? "body".toList).getD []))⟩ := by
  have hraw := perform_loadNamed_of_unique store h s
  unfold load
  rw [perform_bind_pure, hraw]
  rfl

/-- A title that none or several templates carry is a failure. -/
theorem perform_load_eq_error_iff
    {title : Text} {s : Session} {e : TemplateError} :
    ((load store.toSource (.named title)).perform s).1 = .error e ↔
      (store.sharedTitled title = [] ∧ e = .notFound title) ∨
        (2 ≤ (store.sharedTitled title).length ∧
          e = .ambiguous title (store.sharedTitled title).length) := by
  rw [load_eq_error_iff, ← List.length_eq_zero_iff, store.length_sharedTitled]
  constructor
  · rintro (_ | hnone | hseveral)
    · exact .inl ⟨hnone, rfl⟩
    · exact .inr ⟨hseveral, rfl⟩
  · rintro (⟨hnone, rfl⟩ | ⟨hseveral, rfl⟩)
    · exact .absent hnone
    · exact .several hseveral

end Loads

theorem select_of_not_blank
    {name : Text}
    (h : ∃ c ∈ name, Text.isBlank c = false) :
    TemplateSource.select (some name) none = .named (Text.trim name) := by
  obtain ⟨c, hc, hblank⟩ := h
  have htrim : Text.trim name ≠ [] := by
    intro hnil
    rw [Text.trim_eq_nil_iff.1 hnil c hc] at hblank
    cases hblank
  exact TemplateSource.select_eq_named_iff.2 ⟨htrim, rfl⟩

/-- What a name that is not blank leads to is told by the shared templates whose title is
the name without the blanks around it, whatever else the store holds: one of them is
shown, none is told as not found, and several are told with their number. The template is
shown with the contents of the first sections of its two texts. -/
theorem raw_by_name
    {setup : Setup} {store : Store}
    (hsource : setup.source = store.toSource)
    {name : Text}
    (hname : ∃ c ∈ name, Text.isBlank c = false)
    (s : Session) :
    let title := Text.trim name
    let found := store.sharedTitled title
    let outcome := ((raw setup (.select (some name) none)).perform s).1
    ((∃ letter, outcome = .ok letter) ↔ ∃ r, found = [r]) ∧
    (outcome = .error (.notFound title) ↔ found = []) ∧
    (∀ count, outcome = .error (.ambiguous title count) ↔
      2 ≤ found.length ∧ count = found.length) ∧
    ∀ letter r, outcome = .ok letter → found = [r] →
      ShowsSection (r.text? "subject".toList) letter.subject ∧
        ShowsSection (r.text? "body".toList) letter.body := by
  intro title found outcome
  have houtcome : outcome = ((load store.toSource (.named title)).perform s).1 := by
    show ((raw setup (.select (some name) none)).perform s).1 = _
    rw [select_of_not_blank hname, raw, hsource]
  have herror : ∀ e, outcome = .error e ↔ (found = [] ∧ e = .notFound title) ∨
      (2 ≤ found.length ∧ e = .ambiguous title found.length) := by
    intro e
    rw [houtcome]
    exact perform_load_eq_error_iff store
  have hshown : ∀ r, found = [r] → outcome =
      .ok ⟨normalizeQuotes (cdata ((r.text? "subject".toList).getD [])),
        normalizeQuotes (cdata ((r.text? "body".toList).getD []))⟩ := by
    intro r hr
    rw [houtcome]
    exact perform_load_of_unique store hr s
  refine ⟨?_, ?_, ?_, ?_⟩
  · constructor
    · rintro ⟨letter, hletter⟩
      rcases hfound : found with _ | ⟨r, _ | ⟨q, rs⟩⟩
      · exact absurd (hletter.symm.trans ((herror _).2 (.inl ⟨hfound, rfl⟩))) (by simp)
      · exact ⟨r, rfl⟩
      · have hseveral : 2 ≤ found.length := by simp [hfound]
        exact absurd (hletter.symm.trans ((herror _).2 (.inr ⟨hseveral, rfl⟩))) (by simp)
    · rintro ⟨r, hr⟩
      exact ⟨_, hshown r hr⟩
  · rw [herror]
    simp
  · intro count
    rw [herror]
    simp
  · intro letter r hletter hr
    obtain rfl := Except.ok.inj (hletter.symm.trans (hshown r hr))
    exact ⟨showsSection_cdata _, showsSection_cdata _⟩

/-- A template among records that differ from it in the entity, in the letters of the
title and in the kind of its value. -/
def titleStore : Store :=
  .ofSeed ⟨[⟨"note".toList, ⟨1⟩, Keyed.ofList [("title".toList, .text "Deal".toList)]⟩,
    ⟨templateEntity, ⟨2⟩, Keyed.ofList [("title".toList, .text "deal".toList)]⟩,
    ⟨templateEntity, ⟨3⟩, Keyed.ofList [("title".toList, .text "Deal".toList),
      ("subject".toList, .text "<x><![CDATA[Hi &quot;%;name;%&quot;]]><![CDATA[no]]>".toList),
      ("body".toList, .integer 7)]⟩,
    ⟨templateEntity, ⟨4⟩, Keyed.ofList [("title".toList, .integer 7)]⟩], []⟩

theorem raw_by_name_deal :
    (∃ c ∈ " Deal\n".toList, Text.isBlank c = false) ∧
      ∃ letter, ((raw (setupOver titleStore.toSource)
          (.select (some " Deal\n".toList) none)).perform .fresh).1 = .ok letter ∧
        letter.subject = "Hi '%;name;%'".toList ∧ letter.body = [] := by
  have hname : ∃ c ∈ " Deal\n".toList, Text.isBlank c = false :=
    ⟨'D', by decide, by decide⟩
  have hsource : (setupOver titleStore.toSource).source = titleStore.toSource := rfl
  obtain ⟨hshown, -, -, hletter⟩ := raw_by_name hsource hname .fresh
  have hfound : ∃ r, titleStore.sharedTitled (Text.trim " Deal\n".toList) = [r] :=
    List.length_eq_one_iff.1 (by decide +kernel)
  obtain ⟨letter, hok⟩ := hshown.2 hfound
  obtain ⟨r, hr⟩ := hfound
  obtain ⟨hsubject, hbody⟩ := hletter letter r hok hr
  have htexts : ∀ q ∈ titleStore.sharedTitled (Text.trim " Deal\n".toList),
      q.text? "body".toList = none ∧ q.text? "subject".toList =
        some "<x><![CDATA[Hi &quot;%;name;%&quot;]]><![CDATA[no]]>".toList := by
    decide +kernel
  obtain ⟨hnone, hsome⟩ := htexts r (by rw [hr]; exact List.mem_singleton_self r)
  refine ⟨hname, letter, hok, ?_, ?_⟩
  · have hsection : InSection "<x><![CDATA[Hi &quot;%;name;%&quot;]]><![CDATA[no]]>".toList
        "Hi &quot;%;name;%&quot;".toList :=
      ⟨"<x>".toList, "<![CDATA[no]]>".toList, by decide +kernel, by decide +kernel,
        by decide +kernel⟩
    rw [hsubject.content _ _ hsome hsection (by decide +kernel)]
    decide +kernel
  · refine hbody.absent fun t content ht => ?_
    rw [hnone] at ht
    cases ht

/-- A template whose title has a blank in front is not what its own title leads to. -/
theorem blanks_hide_titles :
    ¬ ∀ (store : Store) (name : Text) (s : Session), (∃ c ∈ name, Text.isBlank c = false) →
      ((∃ letter, ((raw (setupOver store.toSource)
          (.select (some name) none)).perform s).1 = .ok letter) ↔
        ∃ r, store.sharedTitled name = [r]) := by
  intro h
  let store : Store := .ofSeed
    ⟨[⟨templateEntity, ⟨1⟩, Keyed.ofList [("title".toList, .text " Deal".toList)]⟩], []⟩
  have hone : ∃ r, store.sharedTitled " Deal".toList = [r] :=
    List.length_eq_one_iff.1 (by decide +kernel)
  obtain ⟨letter, hletter⟩ :=
    (h store " Deal".toList .fresh ⟨'D', by decide, by decide⟩).2 hone
  have herror : ((raw (setupOver store.toSource)
      (.select (some " Deal".toList) none)).perform .fresh).1 =
        .error (.notFound "Deal".toList) := by
    decide +kernel
  rw [herror] at hletter
  cases hletter

end Filling

end MailMerge
