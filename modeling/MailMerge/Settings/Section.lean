import MailMerge.Settings.Path

/-!
# Sections of settings

Settings of one kind form a section, which is a table of named settings or the
list of its settings in their order. The settings at the end of a list may be
left off when something stands for them; what stands behind them is passed over.

A setting may be *open*, which means that there need be none. In a table it is
left out, in a list nothing stands in its place.

Main facts:

* `withDefault_eq_ok_iff`, `required_eq_ok_iff`: what a setting is when it can be read;
* `read_of_optional`: an open setting that is there has been read from a value.
-/

namespace MailMerge

/-- Why there are no settings. -/
inductive SettingsFault where
  /-- A file is not well-formed. -/
  | file (path : Text)
  /-- A setting has a value of the wrong kind, or has none. -/
  | value (name : String)
deriving DecidableEq, Repr

/-- A section: its settings by name, or in their order. -/
inductive Section where
  | named (entries : List (Text × Setting))
  | ordered (items : List Setting)

namespace Section

/-- A section of which nothing is there. -/
def absent : Section := named []

/-- The section of a name. -/
def ofEntries (es : List (Text × Setting)) (name : String) : Except SettingsFault Section :=
  match Setting.get? name.toList es with
  | none => .ok absent
  | some (.table entries) => .ok (named entries)
  | some (.list items) => .ok (ordered items)
  | some _ => .error (.value name)

/-- The setting with a name and a place in the order. -/
def given? (s : Section) (position : Nat) (name : String) : Option Setting :=
  match s with
  | named entries => Setting.get? name.toList entries
  | ordered items => items[position]?

variable {α : Type}

/-- What a setting is read as. -/
def taken (read : Setting → Option α) (name : String) (s : Setting) : Except SettingsFault α :=
  match read s with
  | some a => .ok a
  | none => .error (.value name)

/-- A setting for which something stands when it is not given. -/
def withDefault (s : Section) (position : Nat) (name : String) (read : Setting → Option α)
    (a : α) : Except SettingsFault α :=
  match s.given? position name with
  | none => .ok a
  | some v => taken read name v

/-- A setting that has to be given. -/
def required (s : Section) (position : Nat) (name : String) (read : Setting → Option α) :
    Except SettingsFault α :=
  match s.given? position name with
  | none => .error (.value name)
  | some v => taken read name v

/-- An open setting. -/
def optional (s : Section) (position : Nat) (name : String) (read : Setting → Option α) :
    Except SettingsFault (Option α) :=
  match s, s.given? position name with
  | named _, none => .ok none
  | ordered _, none => .error (.value name)
  | _, some .nothing => .ok none
  | _, some v => some <$> taken read name v

variable {s : Section} {position : Nat} {name : String} {read : Setting → Option α} {a b : α}

theorem taken_eq_ok_iff {v : Setting} : taken read name v = .ok a ↔ read v = some a := by
  unfold taken
  cases read v <;> simp

theorem withDefault_eq_ok_iff :
    s.withDefault position name read b = .ok a ↔
      (s.given? position name = none ∧ b = a) ∨
        ∃ v, s.given? position name = some v ∧ read v = some a := by
  unfold withDefault
  cases s.given? position name <;> simp [taken_eq_ok_iff]

theorem required_eq_ok_iff :
    s.required position name read = .ok a ↔
      ∃ v, s.given? position name = some v ∧ read v = some a := by
  unfold required
  cases s.given? position name <;> simp [taken_eq_ok_iff]

/-- An open setting that is there has been read from a value. -/
theorem read_of_optional (h : s.optional position name read = .ok (some a)) :
    ∃ v, s.given? position name = some v ∧ read v = some a := by
  unfold optional at h
  split at h
  · cases h
  · cases h
  · cases h
  · next v _ hgiven =>
    cases htaken : taken read name v with
    | error e => rw [htaken] at h; cases h
    | ok b =>
      rw [htaken] at h
      cases h
      exact ⟨v, hgiven, taken_eq_ok_iff.1 htaken⟩

end Section

end MailMerge
