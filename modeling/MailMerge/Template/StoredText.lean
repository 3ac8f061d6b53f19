import MailMerge.Text.Pieces

/-!
# Stored text

Templates are stored inside of markup. The text of a template is what stands in
the first CDATA section, and a quotation mark that was escaped for the markup
becomes an apostrophe.

Main facts:

* `cdata_eq_nil_of_no_section`: without a section there is no text;
* `cdata_eq_nil_of_open_section`: a section that does not close has none either.
-/

namespace MailMerge.Template

/-- The mark that opens a CDATA section. -/
def cdataOpening : Text := "<![CDATA[".toList

/-- The mark that closes a CDATA section. -/
def cdataClosing : Text := "]]>".toList

/-- The text of the first CDATA section, without further opening marks at its start;
nothing when there is no section. -/
def cdata (t : Text) : Text :=
  match Text.splitAtMark cdataOpening t with
  | none => []
  | some (_, rest) =>
    match Text.splitAtMark cdataClosing rest with
    | none => []
    | some (body, _) => Text.dropMarks cdataOpening body

/-- The text with each escaped quotation mark turned into an apostrophe. -/
def normalizeQuotes (t : Text) : Text :=
  Text.replaceAll "&quot;".toList ['\x27'] t

theorem cdata_eq_nil_of_no_section {t : Text} (h : Text.splitAtMark cdataOpening t = none) :
    cdata t = [] := by
  simp [cdata, h]

theorem cdata_eq_nil_of_open_section {t front rest : Text}
    (h : Text.splitAtMark cdataOpening t = some (front, rest))
    (hr : Text.splitAtMark cdataClosing rest = none) : cdata t = [] := by
  simp [cdata, h, hr]

end MailMerge.Template
