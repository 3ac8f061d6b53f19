import MailMerge.Settings.EnvironmentFile
import MailMerge.Settings.Files
import MailMerge.Settings.Section
import MailMerge.Toml.Document

/-!
# Settings

The service is set up by defaults, by two files and by the environment, each laid
over those before it: a file for every mode, a file for the mode in which the
service runs, and the variables of the environment. A file of variables is added
to the environment first, so that it may choose the mode.

Main facts:

* `fits_of_load`: whatever the files and the variables hold, the numbers among the
  settings that they give fit their words.
-/

namespace MailMerge

/-- The settings of the service. -/
structure Settings where
  host : Text
  port : Nat
  corsOrigins : List Text
  seedPath : Option Text
  baseUrl : Text
  /-- The hours that dates are shifted by; the local zone decides when it is not set. -/
  offsetHours : Option Int
  maxDepth : Nat
  logFormat : Text
deriving DecidableEq, Repr

namespace Settings

/-- The settings that stand unless others are given. -/
def defaults : List (Text × Setting) :=
  [("server".toList, .table [("host".toList, .text "0.0.0.0".toList),
      ("port".toList, .integer 8081)]),
    ("render".toList, .table [("base_url".toList, .text "http://localhost/".toList),
      ("max_expansion_depth".toList, .integer 8)]),
    ("logging".toList, .table [("format".toList, .text "pretty".toList)])]

/-- The settings that entries spell. -/
def ofEntries (es : List (Text × Setting)) : Except SettingsFault Settings := do
  let server ← Section.ofEntries es "server"
  let store ← Section.ofEntries es "store"
  let render ← Section.ofEntries es "render"
  let logging ← Section.ofEntries es "logging"
  return { host := ← server.withDefault 0 "host" Setting.asText? "0.0.0.0".toList
           port := ← server.withDefault 1 "port" (Setting.asNatural? 0xffff) 8081
           corsOrigins := ← server.withDefault 2 "cors_origins" Setting.asTexts? []
           seedPath := ← store.optional 0 "seed_path" Setting.asText?
           baseUrl := ← render.required 0 "base_url" Setting.asText?
           offsetHours := ← render.optional 1 "utc_offset_hours" Setting.asInteger32?
           maxDepth := ← render.withDefault 2 "max_expansion_depth"
             (Setting.asNatural? 0xffffffffffffffff) 8
           logFormat := ← logging.withDefault 0 "format" Setting.asText? "pretty".toList }

/-- The ending of the names of settings files. -/
def fileEnding : Text := ".toml".toList

/-- The text of the settings file with a path, to which its ending may be put. A file
that is there by that path itself is passed over when it has another ending. -/
def file? (files : Files) (path : Text) : Option Text :=
  match files.read? path with
  | some text => if Files.hasEnding fileEnding path then some text else none
  | none => (Files.withEnding fileEnding path).bind files.read?

/-- Entries with those of a settings file laid over them, if there is such a file. -/
def withFile (files : Files) (path : Text) (es : List (Text × Setting)) :
    Except SettingsFault (List (Text × Setting)) :=
  match file? files path with
  | none => .ok es
  | some text =>
    match Toml.read? (Text.withoutOrderMark text) with
    | some new => .ok (Setting.layOver es new)
    | none => .error (.file path)

/-- The mode in which the service runs unless another one is given. -/
def defaultMode : Text := "development".toList

/-- The settings that files and an environment give. -/
def load (files : Files) (env : Environment) : Except SettingsFault Settings := do
  let env := ((files.read? ".env".toList).map (EnvironmentFile.load env)).getD env
  let mode := (env.get? "RUN_MODE".toList).getD defaultMode
  let es ← withFile files "config/default".toList defaults
  let es ← withFile files ("config/".toList ++ mode) es
  ofEntries (Setting.layOver es env.settings)

/-- The address that the service listens to. -/
def address (s : Settings) : Text :=
  s.host ++ ':' :: Text.natural s.port

/-- Whether the log is a row of documents. -/
def logsJson (s : Settings) : Bool :=
  Text.sameLetters s.logFormat "json".toList

/-- Numbers that fit their words: 16 bits for a port, 64 for a depth, and 32 with a sign
for hours. -/
structure Fits (s : Settings) : Prop where
  port : s.port ≤ 0xffff
  maxDepth : s.maxDepth ≤ 0xffffffffffffffff
  offsetHours : ∀ n ∈ s.offsetHours, -0x80000000 ≤ n ∧ n < 0x80000000

theorem exists_of_bind {ε α β : Type} {x : Except ε α} {f : α → Except ε β} {b : β}
    (h : x >>= f = .ok b) : ∃ a, x = .ok a ∧ f a = .ok b := by
  cases x with
  | error e => cases h
  | ok a => exact ⟨a, rfl, h⟩

/-- A natural number with a default keeps the bound that its default keeps. -/
theorem le_of_withDefault {group : Section} {position bound n default : Nat} {name : String}
    (hdefault : default ≤ bound)
    (h : group.withDefault position name (Setting.asNatural? bound) default = .ok n) :
    n ≤ bound := by
  rcases Section.withDefault_eq_ok_iff.1 h with ⟨-, rfl⟩ | ⟨v, -, hread⟩
  · exact hdefault
  · exact Setting.le_of_asNatural? hread

theorem fits_of_ofEntries {es : List (Text × Setting)} {s : Settings}
    (h : ofEntries es = .ok s) : s.Fits := by
  obtain ⟨server, -, h⟩ := exists_of_bind h
  obtain ⟨store, -, h⟩ := exists_of_bind h
  obtain ⟨render, -, h⟩ := exists_of_bind h
  obtain ⟨logging, -, h⟩ := exists_of_bind h
  obtain ⟨host, -, h⟩ := exists_of_bind h
  obtain ⟨port, hport, h⟩ := exists_of_bind h
  obtain ⟨origins, -, h⟩ := exists_of_bind h
  obtain ⟨seedPath, -, h⟩ := exists_of_bind h
  obtain ⟨baseUrl, -, h⟩ := exists_of_bind h
  obtain ⟨offsetHours, hoffset, h⟩ := exists_of_bind h
  obtain ⟨maxDepth, hdepth, h⟩ := exists_of_bind h
  obtain ⟨logFormat, -, h⟩ := exists_of_bind h
  cases h
  refine ⟨le_of_withDefault (by decide) hport, le_of_withDefault (by decide) hdepth, ?_⟩
  rintro n rfl
  obtain ⟨v, -, hread⟩ := Section.read_of_optional hoffset
  exact Setting.mem_of_asInteger32? hread

theorem fits_of_load {files : Files} {env : Environment} {s : Settings}
    (h : load files env = .ok s) : s.Fits := by
  obtain ⟨es, -, h⟩ := exists_of_bind h
  obtain ⟨es', -, h⟩ := exists_of_bind h
  exact fits_of_ofEntries h

end Settings

end MailMerge
