import MailMerge.Proofs.Layout
import MailMerge.Template.StoredText
import Mathlib.Data.List.Infix

/-!
# Sections of stored text

The text of a template is looked for between two marks: in front of it stands no other
opening mark, and inside of it no closing one. What a search for a mark finds first is
settled by the mark alone when no end of the mark starts it again, as is so for both
marks of a section: then an occurrence cannot lie across the seam between a text and the
mark behind it, whatever pieces of the mark the text ends with.

What is taken out of the section is its content, except that opening marks at the start
of the content are taken for the mark of the section and dropped with it.

Main facts:

* `splitAtMark_eq_some_iff`: where the search for a mark ends;
* `exists_replicate_dropMarks`: what dropping marks takes off;
* `cdata_of_inSection`, `cdata_of_no_section`: the text of a section, and of none;
* `cdata_enclosed`: what is put between the marks comes out again, up to opening marks at
  its start;
* `opening_inside_is_lost`: a content of which an opening mark is dropped.
-/

namespace MailMerge

namespace Text

/-- No end of a mark but the mark itself starts the mark again. -/
def Unbordered (mark : Text) : Prop :=
  ∀ v ∈ mark.tail.tails, v ≠ [] → ¬ v <+: mark

instance (mark : Text) : Decidable (Unbordered mark) :=
  List.decidableBAll _ mark.tail.tails

section Search

variable {mark front rest t : Text}

theorem dropMark?_eq_none_iff :
    dropMark? mark t = none ↔ ¬ mark <+: t := by
  rw [← Text.startsWith_iff_isPrefix]
  unfold startsWith
  simp

/-- An unbordered mark behind a text is not met earlier than where it stands. -/
theorem Unbordered.not_isPrefix_append
    (hmark : Unbordered mark)
    {u : Text}
    (hu : u ≠ [])
    (hfront : ¬ mark <+: u) :
    ¬ mark <+: u ++ (mark ++ rest) := by
  intro h
  rcases Nat.le_total mark.length u.length with hlength | hlength
  · exact hfront (List.prefix_of_prefix_length_le h (List.prefix_append _ _) hlength)
  · -- the mark would start in `u` and end in its own beginning
    obtain ⟨v, rfl⟩ := List.prefix_of_prefix_length_le (List.prefix_append u _) h hlength
    have hv : v ≠ [] := by
      rintro rfl
      rw [List.append_nil] at hfront
      exact hfront List.prefix_rfl
    have hend : v <+: (u ++ v) ++ rest := (List.prefix_append_right_inj u).1 h
    have hself : v <+: u ++ v :=
      List.prefix_of_prefix_length_le hend (List.prefix_append _ _) (by simp)
    have htail : v ∈ (u ++ v).tail.tails := by
      rw [List.mem_tails, List.tail_append_of_ne_nil hu]
      exact List.suffix_append _ _
    exact hmark v htail hv hself

theorem splitAtMark_mark_append
    (hne : mark ≠ []) :
    splitAtMark mark (mark ++ rest) = some ([], rest) := by
  obtain ⟨m, ms, rfl⟩ := List.exists_cons_of_ne_nil hne
  have hdrop : dropMark? (m :: ms) (m :: (ms ++ rest)) = some rest :=
    dropMark?_append (m :: ms) rest
  rw [List.cons_append]
  unfold splitAtMark
  rw [hdrop]

theorem splitAtMark_cons_of_not_isPrefix
    {c : Char} {cs : Text}
    (h : ¬ mark <+: c :: cs) :
    splitAtMark mark (c :: cs) =
      (splitAtMark mark cs).map fun found => (c :: found.1, found.2) := by
  rw [splitAtMark, dropMark?_eq_none_iff.2 h]

/-- The search ends at the first mark: induction on what stands before it. -/
theorem splitAtMark_append_mark
    (hne : mark ≠ [])
    (hmark : Unbordered mark)
    (hfront : ¬ mark <:+: front) :
    splitAtMark mark (front ++ (mark ++ rest)) = some (front, rest) := by
  induction front with
  | nil =>
      exact splitAtMark_mark_append hne
  | cons c front ih =>
      have hhead : ¬ mark <+: c :: (front ++ (mark ++ rest)) :=
        hmark.not_isPrefix_append (List.cons_ne_nil c front) fun h => hfront h.isInfix
      rw [List.cons_append, splitAtMark_cons_of_not_isPrefix hhead,
        ih fun h => hfront (List.infix_cons h)]
      rfl

/-- What stands before the mark that is found holds no mark. -/
theorem not_infix_of_splitAtMark
    (hne : mark ≠ [])
    (h : splitAtMark mark t = some (front, rest)) :
    ¬ mark <:+: front := by
  induction t generalizing front with
  | nil =>
      obtain ⟨_, _, hfound⟩ := Option.map_eq_some_iff.1 h
      cases hfound
      exact fun hinfix => hne (List.eq_nil_of_infix_nil hinfix)
  | cons c cs ih =>
      by_cases hhead : mark <+: c :: cs
      · obtain ⟨r, hr⟩ := hhead
        rw [← hr, splitAtMark_mark_append hne] at h
        obtain ⟨rfl, -⟩ := Prod.mk.inj (Option.some.inj h)
        exact fun hinfix => hne (List.eq_nil_of_infix_nil hinfix)
      · rw [splitAtMark_cons_of_not_isPrefix hhead] at h
        obtain ⟨⟨before, r⟩, hcs, hfound⟩ := Option.map_eq_some_iff.1 h
        obtain ⟨rfl, rfl⟩ := Prod.mk.inj hfound
        intro hinfix
        rcases List.infix_cons_iff.1 hinfix with hstart | hlater
        · -- a mark at the head of what stands before would stand at the head of the text
          refine hhead (hstart.trans ?_)
          rw [splitAtMark_append hcs, List.append_assoc]
          exact (List.prefix_cons_inj c).2 (List.prefix_append _ _)
        · exact ih hcs hlater

theorem splitAtMark_eq_some_iff
    (hne : mark ≠ [])
    (hmark : Unbordered mark) :
    splitAtMark mark t = some (front, rest) ↔ t = front ++ mark ++ rest ∧ ¬ mark <:+: front := by
  constructor
  · intro h
    exact ⟨splitAtMark_append h, not_infix_of_splitAtMark hne h⟩
  · rintro ⟨rfl, hfront⟩
    rw [List.append_assoc]
    exact splitAtMark_append_mark hne hmark hfront

end Search

section Drops

variable {mark : Text}

theorem dropMarksFrom_eq_dropMarks_drop
    (mark : Text) (skip : Nat) (t : Text) :
    dropMarksFrom mark skip t = dropMarks mark (t.drop skip) := by
  induction t generalizing skip with
  | nil =>
      cases skip <;> rfl
  | cons c cs ih =>
      cases skip with
      | zero => rfl
      | succ n => simpa [dropMarksFrom] using ih n

theorem dropMarks_of_not_isPrefix
    {t : Text}
    (h : ¬ mark <+: t) :
    dropMarks mark t = t := by
  cases t with
  | nil => rfl
  | cons c cs =>
      have hstart : ¬ startsWith mark (c :: cs) = true := by
        rwa [Text.startsWith_iff_isPrefix]
      simp only [dropMarks, dropMarksFrom, hstart, Bool.false_eq_true, if_false]

theorem dropMarks_mark_append
    (hne : mark ≠ [])
    (t : Text) :
    dropMarks mark (mark ++ t) = dropMarks mark t := by
  obtain ⟨m, ms, rfl⟩ := List.exists_cons_of_ne_nil hne
  have hstart : startsWith (m :: ms) (m :: (ms ++ t)) = true :=
    Text.startsWith_iff_isPrefix.2 (List.prefix_append (m :: ms) t)
  rw [List.cons_append, dropMarks, dropMarksFrom, if_pos hstart,
    dropMarksFrom_eq_dropMarks_drop]
  simp

/-- The copies of a mark at the start of a text are dropped, and nothing else: induction
on the length of the text. -/
theorem exists_replicate_dropMarks
    (hne : mark ≠ [])
    (t : Text) :
    (∃ n, t = (List.replicate n mark).flatten ++ dropMarks mark t) ∧
      ¬ mark <+: dropMarks mark t := by
  induction hlength : t.length using Nat.strongRecOn generalizing t with
  | ind length ih =>
      by_cases hstart : mark <+: t
      · obtain ⟨u, rfl⟩ := hstart
        have hshorter : u.length < length := by
          have hpos := List.length_pos_iff.2 hne
          rw [List.length_append] at hlength
          omega
        obtain ⟨⟨n, hn⟩, hrest⟩ := ih u.length hshorter u rfl
        rw [dropMarks_mark_append hne]
        refine ⟨⟨n + 1, ?_⟩, hrest⟩
        rw [List.replicate_succ, List.flatten_cons, List.append_assoc, ← hn]
      · rw [dropMarks_of_not_isPrefix hstart]
        exact ⟨⟨0, rfl⟩, hstart⟩

end Drops

end Text

namespace Template

open Text

theorem cdataOpening_ne_nil :
    cdataOpening ≠ [] := by
  decide

theorem cdataClosing_ne_nil :
    cdataClosing ≠ [] := by
  decide

theorem unbordered_cdataOpening :
    Unbordered cdataOpening := by
  decide

theorem unbordered_cdataClosing :
    Unbordered cdataClosing := by
  decide

/-- A text has a content in its first section: the section is opened nowhere before, and
the content ends with the first closing mark. -/
def InSection (t content : Text) : Prop :=
  ∃ front behind, t = front ++ cdataOpening ++ content ++ cdataClosing ++ behind ∧
    ¬ cdataOpening <:+: front ∧ ¬ cdataClosing <:+: content

section Sections

variable {t content : Text}

/-- The first section of a text is where the two searches end. -/
theorem inSection_iff :
    InSection t content ↔
      ∃ front rest behind, splitAtMark cdataOpening t = some (front, rest) ∧
        splitAtMark cdataClosing rest = some (content, behind) := by
  simp only [splitAtMark_eq_some_iff cdataOpening_ne_nil unbordered_cdataOpening,
    splitAtMark_eq_some_iff cdataClosing_ne_nil unbordered_cdataClosing]
  constructor
  · rintro ⟨front, behind, rfl, hfront, hcontent⟩
    exact ⟨front, content ++ cdataClosing ++ behind, behind, ⟨by simp, hfront⟩, rfl, hcontent⟩
  · rintro ⟨front, rest, behind, ⟨rfl, hfront⟩, rfl, hcontent⟩
    exact ⟨front, behind, by simp, hfront, hcontent⟩

theorem cdata_of_inSection
    (h : InSection t content) :
    cdata t = dropMarks cdataOpening content := by
  obtain ⟨front, rest, behind, hopen, hclose⟩ := inSection_iff.1 h
  unfold cdata
  simp only [hopen, hclose]

theorem cdata_of_no_section
    (h : ∀ content, ¬ InSection t content) :
    cdata t = [] := by
  rcases hopen : splitAtMark cdataOpening t with _ | ⟨front, rest⟩
  · exact cdata_eq_nil_of_no_section hopen
  · rcases hclose : splitAtMark cdataClosing rest with _ | ⟨content, behind⟩
    · exact cdata_eq_nil_of_open_section hopen hclose
    · exact absurd (inSection_iff.2 ⟨front, rest, behind, hopen, hclose⟩) (h content)

end Sections

/-- What is put between the marks of a section comes out again but for the opening marks
that it starts with: those are lost, however many there are, and nothing else is. So a
content comes out as it was put in exactly when it does not start with an opening mark,
whatever pieces of the marks it starts or ends with and whatever stands around the
section. -/
theorem cdata_enclosed
    (front content behind : Text)
    (hfront : ¬ cdataOpening <:+: front)
    (hcontent : ¬ cdataClosing <:+: content) :
    let out := cdata (front ++ cdataOpening ++ content ++ cdataClosing ++ behind)
    (∃ n, content = (List.replicate n cdataOpening).flatten ++ out) ∧
      ¬ cdataOpening <+: out ∧ (out = content ↔ ¬ cdataOpening <+: content) := by
  intro out
  have hout : out = dropMarks cdataOpening content :=
    cdata_of_inSection ⟨front, behind, rfl, hfront, hcontent⟩
  obtain ⟨hlost, hrest⟩ := exists_replicate_dropMarks cdataOpening_ne_nil content
  rw [← hout] at hlost hrest
  refine ⟨hlost, hrest, ?_⟩
  constructor
  · intro h
    rwa [← h]
  · intro h
    rw [hout, dropMarks_of_not_isPrefix h]

/-- Pieces of the marks around a section and at both ends of its content. -/
theorem cdata_enclosed_pieces :
    let front := "<d><![CDATA<".toList
    let content := "<![CDATA [<![CDATA[x]]y]]".toList
    let behind := "]]></d><![CDATA[z]]>".toList
    ¬ cdataOpening <:+: front ∧ ¬ cdataClosing <:+: content ∧
      cdata (front ++ cdataOpening ++ content ++ cdataClosing ++ behind) = content := by
  intro front content behind
  have hfront : ¬ cdataOpening <:+: front := by
    decide +kernel
  have hcontent : ¬ cdataClosing <:+: content := by
    decide +kernel
  have hstart : ¬ cdataOpening <+: content := by
    decide +kernel
  obtain ⟨-, -, hsame⟩ := cdata_enclosed front content behind hfront hcontent
  exact ⟨hfront, hcontent, hsame.2 hstart⟩

/-- A content that starts with an opening mark does not come out as it was put in. -/
theorem opening_inside_is_lost :
    ¬ ∀ front content behind, ¬ cdataOpening <:+: front → ¬ cdataClosing <:+: content →
      cdata (front ++ cdataOpening ++ content ++ cdataClosing ++ behind) = content := by
  intro h
  have hsame := h [] "<![CDATA[x".toList [] (by decide +kernel) (by decide +kernel)
  exact absurd hsame (by decide +kernel)

end Template

end MailMerge
