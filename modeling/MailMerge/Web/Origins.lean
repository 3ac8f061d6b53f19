import MailMerge.Text.Basic

/-!
# Origins

Pages of other origins may use the service: pages of any origin, or those of the
origins listed in the settings. A listed origin that cannot stand in a header is
left out. The star, which stands for any origin, must not be listed.

Main facts:

* `ofList?_eq_none_iff`: a list is refused exactly when it has the star;
* `allowed_listed_eq_some_iff`: a page is told its own origin, and only if that is listed;
* `eq_any_of_allowed_star`: the star is told only where pages of any origin may use the
  service.
-/

namespace MailMerge.Web

/-- The origins whose pages may use the service. -/
inductive Origins where
  | any
  | listed (origins : List Text)
deriving DecidableEq, Repr

namespace Origins

/-- The sign for any origin. -/
def star : Text := ['*']

/-- Whether a text can stand in a header. -/
def fitsHeader (t : Text) : Bool :=
  t.all fun c => (32 ≤ c.toNat && c.toNat ≠ 127) || c = '\t'

/-- The origins of a list; none when the star is listed. -/
def ofList? (origins : List Text) : Option Origins :=
  let usable := origins.filter fitsHeader
  if usable.isEmpty then some any
  else if star ∈ usable then none
  else some (listed usable)

/-- What a page of an origin is told about who may use the service. -/
def allowed (o : Origins) (origin : Option Text) : Option Text :=
  match o with
  | any => some star
  | listed origins => origin.filter (· ∈ origins)

theorem ofList?_eq_none_iff {origins : List Text} :
    ofList? origins = none ↔ star ∈ origins := by
  have husable : star ∈ origins.filter fitsHeader ↔ star ∈ origins := by
    rw [List.mem_filter]
    exact and_iff_left (by decide)
  rw [← husable]
  unfold ofList?
  dsimp only
  split
  · next hempty =>
    rw [List.isEmpty_iff] at hempty
    simp [hempty]
  · split
    · next hstar => exact iff_of_true rfl hstar
    · next hstar => exact iff_of_false nofun hstar

theorem allowed_listed_eq_some_iff {origins : List Text} {origin : Option Text} {told : Text} :
    (listed origins).allowed origin = some told ↔ origin = some told ∧ told ∈ origins := by
  simp [allowed, Option.filter_eq_some_iff]

theorem eq_any_of_allowed_star {origins : List Text} {o : Origins} {origin : Option Text}
    (h : ofList? origins = some o) (htold : o.allowed origin = some star) : o = any := by
  unfold ofList? at h
  dsimp only at h
  split at h
  · exact (Option.some.inj h).symm
  · split at h
    · cases h
    · next hstar =>
      cases h
      exact absurd (allowed_listed_eq_some_iff.1 htold).2 hstar

end Origins

end MailMerge.Web
