import MailMerge.Filling.Session

/-!
# The page of counters

The counters of the service are shown as a page of text. They come in families,
ordered by name; a family has a line that explains it, a line that tells its
kind, and one line for each of its counters. Of the times that letters took only
their number is shown.
-/

namespace MailMerge.Web.Metrics

/-- One number on the page: what is put behind the family's name, and the number. -/
structure Sample where
  label : Text
  value : Nat
deriving DecidableEq, Repr

/-- A family of numbers. -/
structure Family where
  name : Text
  explanation : Text
  kind : Text
  samples : List Sample
deriving DecidableEq, Repr

namespace Family

/-- The lines that tell what a family is. -/
def headings (f : Family) : List Text :=
  ["# HELP ".toList ++ f.name ++ ' ' :: f.explanation, "# TYPE ".toList ++ f.name ++ ' ' :: f.kind]

/-- The lines of a family. -/
def lines (f : Family) : List Text :=
  f.headings ++ f.samples.map fun s => f.name ++ s.label ++ ' ' :: Text.natural s.value

end Family

/-- A family of counters with one counter for each value of a label. -/
def labelled (name explanation label : String) (values : List (String × Nat)) : Family :=
  ⟨name.toList, explanation.toList, "counter".toList,
    values.map fun (value, n) =>
      ⟨'\x7b' :: label.toList ++ '=' :: '\x22' :: value.toList ++ ['\x22', '\x7d'], n⟩⟩

/-- A family of one counter. -/
def single (name explanation : String) (n : Nat) : Family :=
  ⟨name.toList, explanation.toList, "counter".toList, [⟨[], n⟩]⟩

/-- The families of counters. -/
def families (c : Counters) : List Family :=
  [single "templator_option_cache_hits_total" "Option label lookups served from cache" c.cacheHits,
    single "templator_option_cache_misses_total"
      "Option label lookups that required a metadata fetch" c.cacheMisses,
    labelled "templator_placeholders_resolved_total" "Total number of placeholders resolved"
      "directive" [("field", c.fields), ("record_url", c.recordLinks),
        ("ref_record_url", c.referenceLinks), ("related", c.relatedLists)],
    single "templator_placeholders_unresolved_total"
      "Total number of placeholders left unresolved" c.unresolved,
    ⟨"templator_render_duration_seconds".toList, "Template render duration in seconds".toList,
      "histogram".toList, [⟨"_count".toList, c.durations⟩]⟩,
    labelled "templator_renders_total" "Total number of template renders"
      "outcome" [("failed", c.failed), ("success", c.succeeded)]]

/-- The page of counters. -/
def page (c : Counters) : Text :=
  (families c).flatMap fun f => f.lines.flatMap (· ++ ['\n'])

end MailMerge.Web.Metrics
