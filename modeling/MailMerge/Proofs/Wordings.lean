import MailMerge.Proofs.Layout
import MailMerge.Template.Directive

/-!
# How directives are worded

Three words tell directives apart. None of them starts with another, so a text starts
with one of them at most, and that word settles what the text asks for.

A list is worded with hyphens between its entity, its key and its parts, behind the word
and an underscore. The underscore may be left out, unless what follows starts with one
itself: then that one would be taken for it. Since none of the pieces holds a hyphen, a
wording can be read back in one way only, empty parts included. In a link the field ends
at the first bar and the text starts behind the last one, whatever stands between.

Main facts:

* `eq_of_words`: a text starts with one word at most;
* `kind_parse_eq_related_iff`: the texts that ask for a list, in good form or not;
* `parse_eq_related_iff`: the wordings of a list;
* `sublist_of_mem_related`, `no_hyphen_of_mem_related`: the pieces of a list;
* `parse_inverts_wordings`: what every wording is read as, and which texts have none.
-/

namespace MailMerge

namespace Text

/-- A mark of one character that may be missing, unless it stands in front of what is
behind it as well. -/
theorem getD_dropMark?_eq_iff
    {c : Char}
    {rest t : Text} :
    (dropMark? [c] rest).getD rest = t ↔ rest = c :: t ∨ (rest = t ∧ t.head? ≠ some c) := by
  cases rest with
  | nil =>
      constructor
      · rintro rfl
        exact Or.inr ⟨rfl, by simp [dropMark?]⟩
      · rintro (h | ⟨rfl, -⟩)
        · cases h
        · rfl
  | cons d ds =>
      by_cases hd : c = d
      · subst hd
        constructor
        · rintro rfl
          exact Or.inl (by simp [dropMark?])
        · rintro (h | ⟨rfl, hhead⟩)
          · simpa [dropMark?] using h
          · exact absurd rfl hhead
      · have hmark : dropMark? [c] (d :: ds) = none := by simp [dropMark?, hd]
        rw [hmark, Option.getD_none]
        constructor
        · rintro rfl
          exact Or.inr ⟨rfl, fun hhead => hd (Option.some.inj hhead).symm⟩
        · rintro (h | ⟨h, -⟩)
          · exact absurd (List.cons.inj h).1.symm hd
          · exact h

end Text

namespace Template.Directive

section Words

variable {t : Text}

/-- The words that tell directives apart. -/
def words : List Text :=
  [referenceLinkWord, recordLinkWord, relatedWord]

/-- None of the words starts with another, so a text starts with one of them at most. -/
theorem eq_of_words
    {v w : Text}
    (hv : v ∈ words)
    (hw : w ∈ words)
    (hvt : v <+: t)
    (hwt : w <+: t) :
    v = w := by
  have hapart : ∀ v ∈ words, ∀ w ∈ words, v <+: w → v = w := by decide
  rcases List.prefix_or_prefix_of_prefix hvt hwt with h | h
  · exact hapart v hv w hw h
  · exact (hapart w hw v hv h).symm

theorem parse_of_referenceLinkWord
    (h : referenceLinkWord <+: t) :
    parse t =
      referenceLink ((Text.dropMark? (referenceLinkWord ++ ['_']) (Text.before '|' t)).getD [])
        (Text.behindLast '|' t) := by
  unfold parse
  rw [if_pos (Text.startsWith_iff_isPrefix.2 h)]

theorem parse_of_recordLinkWord
    (h : recordLinkWord <+: t) :
    parse t = recordLink (Text.behindLast '|' t) := by
  have hother : ¬ referenceLinkWord <+: t := fun href =>
    absurd (eq_of_words (by decide) (by decide) href h) (by decide)
  unfold parse
  rw [if_neg fun hstart => hother (Text.startsWith_iff_isPrefix.1 hstart),
    if_pos (Text.startsWith_iff_isPrefix.2 h)]

theorem parse_relatedWord_append
    (rest : Text) :
    parse (relatedWord ++ rest) =
      ofParts (Text.fields '-' ((Text.dropMark? ['_'] rest).getD rest)) := by
  have href : Text.startsWith referenceLinkWord (relatedWord ++ rest) = false := rfl
  have hrec : Text.startsWith recordLinkWord (relatedWord ++ rest) = false := rfl
  unfold parse
  rw [href, hrec, Text.dropMark?_append]
  rfl

theorem parse_of_no_word
    (h : ∀ word ∈ words, ¬ word <+: t) :
    parse t = field t := by
  have hstart : ∀ word ∈ words, Text.startsWith word t = false := by
    intro word hword
    rw [Bool.eq_false_iff]
    exact fun hstart => h word hword (Text.startsWith_iff_isPrefix.1 hstart)
  have hrelated := hstart relatedWord (by decide)
  exact parse_eq_field (hstart _ (by decide)) (hstart _ (by decide))
    (Option.not_isSome_iff_eq_none.1 (Bool.eq_false_iff.1 hrelated))

theorem kind_ofParts
    (ts : List Text) :
    (ofParts ts).kind = .related := by
  unfold ofParts
  split
  · split <;> rfl
  · rfl

/-- A text asks for a list exactly when it starts with the word for one. -/
theorem kind_parse_eq_related_iff :
    (parse t).kind = .related ↔ relatedWord <+: t := by
  constructor
  · intro h
    by_cases href : referenceLinkWord <+: t
    · rw [parse_of_referenceLinkWord href] at h
      cases h
    · by_cases hrec : recordLinkWord <+: t
      · rw [parse_of_recordLinkWord hrec] at h
        cases h
      · by_cases hrelated : relatedWord <+: t
        · exact hrelated
        · rw [parse_of_no_word (by simp [words, href, hrec, hrelated])] at h
          cases h
  · rintro ⟨rest, rfl⟩
    rw [parse_relatedWord_append, kind_ofParts]

/-- A text is a path of fields exactly when it starts with none of the words. -/
theorem parse_eq_field_iff
    {path : Text} :
    parse t = field path ↔ path = t ∧ ∀ word ∈ words, ¬ word <+: t := by
  constructor
  · intro h
    have hno : ∀ word ∈ words, ¬ word <+: t := by
      simp only [words, List.mem_cons, List.not_mem_nil, or_false]
      rintro word (rfl | rfl | rfl) hword
      · rw [parse_of_referenceLinkWord hword] at h
        cases h
      · rw [parse_of_recordLinkWord hword] at h
        cases h
      · have hkind := kind_parse_eq_related_iff.2 hword
        rw [h] at hkind
        cases hkind
    rw [parse_of_no_word hno] at h
    exact ⟨(field.inj h).symm, hno⟩
  · rintro ⟨rfl, h⟩
    exact parse_of_no_word h

end Words

section Lists

variable {t entity key : Text} {parts : List Text}

/-- Pieces of text with hyphens between them. -/
def hyphenated (pieces : List Text) : Text :=
  ['-'].intercalate pieces

/-- What a list can be worded with: an entity, a key and parts without hyphens, of which
the first two are not empty. -/
structure Listable (entity key : Text) (parts : List Text) : Prop where
  entity_ne_nil : entity ≠ []
  key_ne_nil : key ≠ []
  noHyphen : ∀ piece ∈ entity :: key :: parts, '-' ∉ piece

/-- The wordings of a list: behind the word and an underscore, or behind the word alone when
what follows does not start with an underscore. -/
inductive ListWording (entity key : Text) (parts : List Text) : Text → Prop where
  | underscored :
      ListWording entity key parts (relatedWord ++ '_' :: hyphenated (entity :: key :: parts))
  | bare (h : (hyphenated (entity :: key :: parts)).head? ≠ some '_') :
      ListWording entity key parts (relatedWord ++ hyphenated (entity :: key :: parts))

theorem ListWording.relatedWord_isPrefix
    (h : ListWording entity key parts t) :
    relatedWord <+: t := by
  cases h with
  | underscored => exact List.prefix_append _ _
  | bare h => exact List.prefix_append _ _

theorem listWording_append_iff
    {rest : Text} :
    ListWording entity key parts (relatedWord ++ rest) ↔
      (Text.dropMark? ['_'] rest).getD rest = hyphenated (entity :: key :: parts) := by
  rw [Text.getD_dropMark?_eq_iff]
  constructor
  · generalize htext : relatedWord ++ rest = text
    rintro (_ | h)
    · exact Or.inl (List.append_cancel_left htext)
    · exact Or.inr ⟨List.append_cancel_left htext, h⟩
  · rintro (rfl | ⟨rfl, h⟩)
    · exact .underscored
    · exact .bare h

theorem ofParts_eq_related_iff
    {ts : List Text} :
    ofParts ts = related entity key parts ↔
      ts = entity :: key :: parts ∧ entity ≠ [] ∧ key ≠ [] := by
  constructor
  · intro h
    unfold ofParts at h
    split at h
    · split at h
      · cases h
      · next hfull =>
        cases h
        exact ⟨rfl, not_or.1 hfull⟩
    · cases h
  · rintro ⟨rfl, hentity, hkey⟩
    exact ofParts_cons_cons hentity hkey parts

/-- A text is read as a list exactly when it is one of the wordings of that list. -/
theorem parse_eq_related_iff :
    parse t = related entity key parts ↔
      Listable entity key parts ∧ ListWording entity key parts t := by
  have hword : parse t = related entity key parts → relatedWord <+: t := by
    intro h
    rw [← kind_parse_eq_related_iff, h]
    rfl
  by_cases ht : relatedWord <+: t
  · -- the pieces of what follows the word are the list, and the other way round
    obtain ⟨rest, rfl⟩ := ht
    rw [parse_relatedWord_append, ofParts_eq_related_iff,
      Text.fields_eq_iff (List.cons_ne_nil _ _), listWording_append_iff]
    constructor
    · rintro ⟨⟨hrest, hhyphen⟩, hentity, hkey⟩
      exact ⟨⟨hentity, hkey, hhyphen⟩, hrest⟩
    · rintro ⟨⟨hentity, hkey, hhyphen⟩, hrest⟩
      exact ⟨⟨hrest, hhyphen⟩, hentity, hkey⟩
  · constructor
    · exact fun h => absurd (hword h) ht
    · exact fun h => absurd h.2.relatedWord_isPrefix ht

/-- A text that asks for a list ends with what the list is worded with. -/
theorem exists_front_of_parse_eq_related
    (h : parse t = related entity key parts) :
    ∃ front, t = front ++ hyphenated (entity :: key :: parts) := by
  cases (parse_eq_related_iff.1 h).2 with
  | underscored => exact ⟨relatedWord ++ ['_'], by rw [List.append_assoc]; rfl⟩
  | bare h => exact ⟨relatedWord, rfl⟩

/-- What a list is asked for with is a piece of the directive. -/
theorem sublist_of_mem_related
    (h : parse t = related entity key parts)
    {piece : Text}
    (hpiece : piece ∈ entity :: key :: parts) :
    piece.Sublist t := by
  have hfields : Text.fields '-' (hyphenated (entity :: key :: parts)) = entity :: key :: parts :=
    Text.fields_intercalate (List.cons_ne_nil _ _) (parse_eq_related_iff.1 h).1.noHyphen
  obtain ⟨front, rfl⟩ := exists_front_of_parse_eq_related h
  rw [← hfields] at hpiece
  exact (Text.sublist_of_mem_fields hpiece).trans (List.sublist_append_right front _)

/-- What a list is asked for with stands between hyphens, and so holds none. -/
theorem no_hyphen_of_mem_related
    (h : parse t = related entity key parts)
    {piece : Text}
    (hpiece : piece ∈ entity :: key :: parts) :
    '-' ∉ piece :=
  (parse_eq_related_iff.1 h).1.noHyphen piece hpiece

/-- A list is asked for with a hyphen at least, the one behind the entity. -/
theorem hyphen_mem_of_parse_eq_related
    (h : parse t = related entity key parts) :
    '-' ∈ t := by
  obtain ⟨front, rfl⟩ := exists_front_of_parse_eq_related h
  unfold hyphenated
  rw [List.intercalate_cons_cons]
  simp

/-- A text that asks for a list and is no wording of one is malformed. -/
theorem parse_eq_malformedRelated_iff :
    parse t = malformedRelated ↔
      relatedWord <+: t ∧ ∀ entity key parts, parse t ≠ related entity key parts := by
  rw [← kind_parse_eq_related_iff]
  cases parse t <;> simp [kind]

end Lists

section Links

variable {field text : Text}

theorem parse_referenceLink
    (hfield : '|' ∉ field)
    (htext : '|' ∉ text)
    (between : Text)
    (hbetween : between = [] ∨ between.head? = some '|') :
    parse (referenceLinkWord ++ '_' :: field ++ between ++ '|' :: text) =
      referenceLink field text := by
  have hword : referenceLinkWord <+: referenceLinkWord ++ '_' :: field ++ between ++ '|' :: text :=
    ⟨'_' :: field ++ between ++ '|' :: text, by simp⟩
  have hfront : '|' ∉ referenceLinkWord ++ '_' :: field := by
    have hnone : '|' ∉ referenceLinkWord := by decide
    simp [hnone, hfield]
  have hbefore : Text.before '|' (referenceLinkWord ++ '_' :: field ++ between ++ '|' :: text) =
      referenceLinkWord ++ ['_'] ++ field := by
    rcases hbetween with rfl | hhead
    · rw [List.append_nil, Text.before_append_cons hfront]
      simp
    · obtain ⟨x, rfl⟩ := List.head?_eq_some_iff.1 hhead
      rw [List.append_assoc, List.cons_append, Text.before_append_cons hfront]
      simp
  rw [parse_of_referenceLinkWord hword, hbefore, Text.dropMark?_append,
    Text.behindLast_append_cons htext]
  rfl

theorem parse_recordLink
    (htext : '|' ∉ text)
    (front : Text) :
    parse (recordLinkWord ++ front ++ '|' :: text) = recordLink text := by
  have hword : recordLinkWord <+: recordLinkWord ++ front ++ '|' :: text :=
    ⟨front ++ '|' :: text, by simp⟩
  rw [parse_of_recordLinkWord hword, Text.behindLast_append_cons htext]

end Links

/-- A list is read back from each of its wordings, and nothing else is read as a list: a
text that starts with the word and is no wording is malformed. A link is read back from
its field and its text, with anything or nothing between two bars, and a link to the
record at hand from its text, whatever stands before the last bar. A text that starts with
none of the words is read as the path that it is, and no other is read as a path. -/
theorem parse_inverts_wordings :
    (∀ t entity key parts,
      parse t = related entity key parts ↔
        Listable entity key parts ∧ ListWording entity key parts t) ∧
    (∀ t,
      parse t = malformedRelated ↔
        relatedWord <+: t ∧ ∀ entity key parts, Listable entity key parts →
          ¬ ListWording entity key parts t) ∧
    (∀ field text, '|' ∉ field → '|' ∉ text →
      parse (referenceLinkWord ++ '_' :: field ++ '|' :: text) = referenceLink field text ∧
      ∀ x, parse (referenceLinkWord ++ '_' :: field ++ '|' :: x ++ '|' :: text) =
        referenceLink field text) ∧
    (∀ front text, '|' ∉ text →
      parse (recordLinkWord ++ front ++ '|' :: text) = recordLink text) ∧
    (∀ t path,
      parse t = field path ↔ path = t ∧ ∀ word ∈ words, ¬ word <+: t) := by
  refine ⟨fun t entity key parts => parse_eq_related_iff, ?_, ?_, ?_, ?_⟩
  · intro t
    rw [parse_eq_malformedRelated_iff]
    simp only [ne_eq, parse_eq_related_iff, not_and]
  · intro field text hfield htext
    constructor
    · simpa using parse_referenceLink hfield htext [] (Or.inl rfl)
    · intro x
      simpa using parse_referenceLink hfield htext ('|' :: x) (Or.inr rfl)
  · exact fun front text htext => parse_recordLink htext front
  · exact fun t path => parse_eq_field_iff

/-- An entity that starts with an underscore, an empty part, and a field that is worded like
a directive. -/
theorem parse_underscoredTaskList :
    let parts := ["ym_subject".toList, [], "ym_owner.ym_name".toList]
    Listable "_task".toList "deal_id".toList parts ∧
    ListWording "_task".toList "deal_id".toList parts
      "RELATED__task-deal_id-ym_subject--ym_owner.ym_name".toList ∧
    parse "RELATED__task-deal_id-ym_subject--ym_owner.ym_name".toList =
      related "_task".toList "deal_id".toList parts ∧
    '|' ∉ "RECORD_URL".toList ∧
    '|' ∉ "Open".toList ∧
    parse "REF_RECORD_URL_RECORD_URL|a|b|Open".toList =
      referenceLink "RECORD_URL".toList "Open".toList ∧
    parse "RECORD_URL_RELATED|x|Open".toList = recordLink "Open".toList ∧
    (∀ word ∈ words, ¬ word <+: "RELATE".toList) ∧
    parse "RELATE".toList = field "RELATE".toList := by
  intro parts
  have hlistable : Listable "_task".toList "deal_id".toList parts :=
    ⟨by decide, by decide, by decide⟩
  have hwords : ListWording "_task".toList "deal_id".toList parts
      "RELATED__task-deal_id-ym_subject--ym_owner.ym_name".toList := .underscored
  have hfield : '|' ∉ "RECORD_URL".toList := by decide
  have htext : '|' ∉ "Open".toList := by decide
  have hnone : ∀ word ∈ words, ¬ word <+: "RELATE".toList := by decide
  obtain ⟨hlist, -, hreference, hrecord, hpath⟩ := parse_inverts_wordings
  exact ⟨hlistable, hwords, (hlist _ _ _ _).2 ⟨hlistable, hwords⟩, hfield, htext,
    (hreference _ _ hfield htext).2 "a|b".toList, hrecord "_RELATED|x".toList _ htext, hnone,
    (hpath _ _).2 ⟨rfl, hnone⟩⟩

end Template.Directive

end MailMerge
