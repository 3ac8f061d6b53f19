import MailMerge.Text.Pieces

/-!
# Placeholders

A placeholder is `%;`, then at least one character other than `%` and `;`, then
`;%`. Placeholders are taken from left to right without overlap. What one of
them asks for is its directive: the text between the marks, without markup tags
and without the blanks around it.

Main facts:

* `forall_isInner_iff`: what may stand between the marks holds no character of a mark;
* `placeholderWidth_wrap`: a text of that shape, with anything behind it,
  starts with a placeholder of exactly its length;
* `mem_of_mem_directiveText`: a directive is made of characters of its placeholder.
-/

namespace MailMerge.Template

/-- The mark that opens a placeholder. -/
def opening : Text := ['%', ';']

/-- The mark that closes a placeholder. -/
def closing : Text := [';', '%']

/-- Whether a character may stand between the marks of a placeholder. -/
def isInner (c : Char) : Bool :=
  c ≠ '%' ∧ c ≠ ';'

/-- The length of the placeholder at the head of a text, or zero. -/
def placeholderWidth : Text → Nat
  | '%' :: ';' :: rest =>
    let inner := rest.takeWhile isInner
    match inner, rest.dropWhile isInner with
    | _ :: _, ';' :: '%' :: _ => inner.length + 4
    | _, _ => 0
  | _ => 0

/-- The placeholders of a text in order, repeated ones included. -/
def scan (t : Text) : List Text :=
  Text.occurrences placeholderWidth t

/-- The length of the markup tag at the head of a text, or zero. A tag runs from `<`
to the next `>`. -/
def tagWidth : Text → Nat
  | '<' :: rest =>
    match rest.dropWhile (· ≠ '>') with
    | [] => 0
    | _ :: _ => (rest.takeWhile (· ≠ '>')).length + 2
  | _ => 0

/-- The text without its markup tags. -/
def stripTags (t : Text) : Text :=
  Text.replaceWith tagWidth (fun _ => []) t

/-- The directive of a placeholder: its text without the marks, without markup tags
and without the blanks around it. -/
def directiveText (placeholder : Text) : Text :=
  Text.trim (stripTags (Text.removeAll closing (Text.removeAll opening placeholder)))

/-- The placeholder of a directive. -/
def wrap (directive : Text) : Text :=
  opening ++ directive ++ closing

/-- The characters that may stand between marks are those of which no mark is made. -/
theorem forall_isInner_iff {t : Text} :
    (∀ c ∈ t, isInner c = true) ↔ '%' ∉ t ∧ ';' ∉ t := by
  constructor
  · intro h
    exact ⟨fun hmem => absurd (h '%' hmem) (by decide),
      fun hmem => absurd (h ';' hmem) (by decide)⟩
  · rintro ⟨hpercent, hsemicolon⟩ c hc
    exact decide_eq_true ⟨fun h => hpercent (h ▸ hc), fun h => hsemicolon (h ▸ hc)⟩

theorem takeWhile_isInner_append {inner : Text} (hin : ∀ c ∈ inner, isInner c = true)
    (rest : Text) : (inner ++ ';' :: rest).takeWhile isInner = inner := by
  have hstop : isInner ';' = false := rfl
  rw [List.takeWhile_append_of_pos hin]
  simp [hstop]

theorem dropWhile_isInner_append {inner : Text} (hin : ∀ c ∈ inner, isInner c = true)
    (rest : Text) : (inner ++ ';' :: rest).dropWhile isInner = ';' :: rest := by
  have hstop : isInner ';' = false := rfl
  rw [List.dropWhile_append_of_pos hin]
  simp [hstop]

theorem placeholderWidth_wrap {inner : Text} (hne : inner ≠ [])
    (hin : ∀ c ∈ inner, isInner c = true) (rest : Text) :
    placeholderWidth (wrap inner ++ rest) = (wrap inner).length := by
  have hw : wrap inner ++ rest = '%' :: ';' :: (inner ++ ';' :: '%' :: rest) := by
    simp [wrap, opening, closing]
  rw [hw]
  unfold placeholderWidth
  simp only [takeWhile_isInner_append hin, dropWhile_isInner_append hin]
  cases inner with
  | nil => exact absurd rfl hne
  | cons c cs => simp [wrap, opening, closing]

theorem mem_of_mem_directiveText {placeholder : Text} {c : Char}
    (h : c ∈ directiveText placeholder) : c ∈ placeholder := by
  have htags := Text.mem_of_mem_replaceWith_nil (Text.mem_of_mem_trim h)
  exact Text.mem_of_mem_replaceWith_nil (Text.mem_of_mem_replaceWith_nil htags)

end MailMerge.Template
