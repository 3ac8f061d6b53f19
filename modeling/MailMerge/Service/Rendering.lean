import MailMerge.Service.Failure
import MailMerge.Service.Request

/-!
# Letters on request

A request is answered in a session of its own, in which its queries take the
place of the usual ones. Values for tokens make sense only together with a
record. Without a record the template is shown as it stands.

Main facts:

* `letter_without_record`: tokens without a record are refused before anything
  is asked for.
-/

namespace MailMerge.Service

/-- The queries of a request, put in the place of the usual ones. -/
def withFilters (s : Session) (filters : Dict Text Query) : Session :=
  { s with overrides := filters.members.foldl (fun d m => d.set m.1 m.2) s.overrides }

/-- The letter that a request asks for. -/
def letter (setup : Filling.Setup) (r : Request) : Work Failure Letter := do
  Work.update fun s => withFilters s r.filters
  match r.record with
  | some target =>
    if r.tokens.members.isEmpty then
      Work.mapError .template (Filling.fill setup r.source target)
    else
      Work.mapError .template (Filling.fillWith setup r.source target r.tokens)
  | none =>
    if r.tokens.members.isEmpty then
      Work.mapError .template (Filling.raw setup r.source)
    else
      Work.fail (.invalid "substitutions require a record".toList)

/-- The letter that a request asks for, or why there is none, and the session in which
it was made. -/
def answer (setup : Filling.Setup) (r : Request) : Except Failure Letter × Session :=
  (letter setup r).perform .fresh

theorem letter_without_record {setup : Filling.Setup} {r : Request} (hr : r.record = none)
    (ht : r.tokens.members ≠ []) :
    (answer setup r).1 = .error (.invalid "substitutions require a record".toList)
      ∧ (answer setup r).2.calls = [] := by
  have h : r.tokens.members.isEmpty = false := by simpa using ht
  simp [answer, letter, withFilters, hr, h, Session.fresh]

end MailMerge.Service
