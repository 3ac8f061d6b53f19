import MailMerge.Settings.Value
import MailMerge.Text.Pieces

/-!
# Settings in the environment

Variables of the environment are settings: two low lines in a name lead into a
table, as in `SERVER__PORT`. What kind of value a variable has is guessed from
its text: a truth value, an integer, a number, or a text. Only the origins that
are allowed are a list, with commas between them.

Main facts:

* `guess_ne_table`: no variable is a table;
* `eq_listPath_of_guess_eq_list`: only the origins that are allowed are a list.
-/

namespace MailMerge

/-- The variables of the environment. -/
abbrev Environment := Dict Text Text

namespace Environment

/-- The path of names that the name of a variable spells. -/
def spelledPath (name : Text) : Text :=
  Text.replaceAll "__".toList ".".toList (Text.lower name)

/-- The path whose value is a list. -/
def listPath : Text := "server.cors_origins".toList

/-- The value that a variable has at a path. -/
def guess (path value : Text) : Setting :=
  if Text.sameLetters value "true".toList then .truth true
  else if Text.sameLetters value "false".toList then .truth false
  else
    match Setting.readInteger? Setting.leastInteger Setting.greatestInteger value with
    | some n => .integer n
    | none =>
      match Extended.read? value with
      | some x => .real x
      | none =>
        if path = listPath then .list ((Text.fields ',' value).map .text) else .text value

/-- The settings of an environment, by the paths that their names spell. -/
def settings (env : Environment) : List (Text × Setting) :=
  env.members.map fun (name, value) => (spelledPath name, guess (spelledPath name) value)

theorem guess_ne_table (path value : Text) (es : List (Text × Setting)) :
    guess path value ≠ .table es := by
  unfold guess
  repeat' split
  all_goals exact Setting.noConfusion

theorem eq_listPath_of_guess_eq_list {path value : Text} {items : List Setting}
    (h : guess path value = .list items) : path = listPath := by
  unfold guess at h
  repeat' split at h
  all_goals first | assumption | cases h

end Environment

end MailMerge
