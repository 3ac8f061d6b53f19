import MailMerge.Text.Pieces

/-!
# Tokens of the caller

A caller may leave tokens of its own in a text and give a value for each of
them. A token stands in the text as `&;token;&`, or with the ampersands escaped.
Tokens are replaced one after the other, the plain spelling before the escaped
one.

Main facts:

* `substitute_nil`: without tokens nothing changes;
* `substitute_append`: the values of a longer list are filled in after those of
  its beginning.
-/

namespace MailMerge.Template

/-- The plain spelling of a token. -/
def plainToken (token : Text) : Text :=
  "&;".toList ++ token ++ ";&".toList

/-- The spelling of a token with its ampersands escaped. -/
def escapedToken (token : Text) : Text :=
  "&amp;;".toList ++ token ++ ";&amp;".toList

/-- The text with one token replaced by its value, first in the plain spelling. -/
def substituteOne (t : Text) (entry : Text × Text) : Text :=
  Text.replaceAll (escapedToken entry.1) entry.2 (Text.replaceAll (plainToken entry.1) entry.2 t)

/-- The text with the tokens replaced by their values, one after the other. -/
def substitute (entries : List (Text × Text)) (t : Text) : Text :=
  entries.foldl substituteOne t

theorem substitute_nil (t : Text) : substitute [] t = t := rfl

theorem substitute_append (xs ys : List (Text × Text)) (t : Text) :
    substitute (xs ++ ys) t = substitute ys (substitute xs t) := by
  simp [substitute, List.foldl_append]

end MailMerge.Template
