import MailMerge.Web.Site
import Mathlib.Data.List.Nodup

/-!
# What failures tell in production

A failure of the service is told by an outcome, a code and a wording. What is known inside
only stands in the wording: how the settings are wrong, what the service did, what the
source of the records answered. Three kinds of failure have such a wording, and in
production it is replaced by one that is the same for all of them. Everything else about
the response is decided by the code. So two failures of these kinds are told apart in
production by their codes and by nothing else.

The wording of any other failure is about the request, and is told in production as it is
told elsewhere.

Which failures are hidden and which code a failure has is decided in two different places.
They fit together: the code alone says whether a failure is hidden, and what its outcome
is.

Main facts:

* `status_eq_of_code_eq`, `internal_iff_of_code_eq`: what a code says of a failure;
* `account_eq_iff`: a response shows the outcome, the code and the wording;
* `explain_of_internal`, `explain_of_not_internal`: what is shown in production;
* `explain_in_production`: what two responses have in common.
-/

namespace MailMerge

namespace Service.Failure

/-- The failures whose wording tells how the service works inside: its settings are wrong,
it fails itself, or its source fails in another way than by not having a record. -/
inductive Internal : Failure → Prop
  | configuration (reason : Text) : Internal (.configuration reason)
  | internal (reason : Text) : Internal (.internal reason)
  | store (e : StoreError) (h : ∀ entity id, e ≠ .notFound entity id) :
      Internal (.template (.store e))

theorem isInternal_iff
    (f : Failure) :
    f.isInternal = true ↔ Internal f := by
  have hstore : ∀ e : StoreError,
      (template (.store e)).isInternal = true ↔ ∀ entity id, e ≠ .notFound entity id := by
    intro e
    have hnot : (template (.store e)).isInternal = !e.isNotFound := rfl
    rw [hnot, Bool.not_eq_true', ← Bool.not_eq_true, StoreError.isNotFound_iff]
    simp only [not_exists, ne_eq]
  constructor
  · intro h
    cases f with
    | configuration reason => exact .configuration reason
    | invalid reason => cases h
    | notFound reason => cases h
    | internal reason => exact .internal reason
    | template e =>
        cases e with
        | notFound name => cases h
        | ambiguous name count => cases h
        | noSource => cases h
        | store e => exact .store e ((hstore e).1 h)
  · intro h
    cases h with
    | configuration reason => rfl
    | internal reason => rfl
    | store e h => exact (hstore e).2 h

/-- The kinds of failure: whether the wording is internal, the outcome and the code. -/
def kinds : List (Bool × Status × Text) :=
  [(true, .internalError, "CONFIG_ERROR".toList),
    (true, .internalError, "INTERNAL_ERROR".toList),
    (true, .badGateway, "STORE_ERROR".toList),
    (false, .badRequest, "VALIDATION_ERROR".toList),
    (false, .notFound, "NOT_FOUND".toList),
    (false, .notFound, "TEMPLATE_NOT_FOUND".toList),
    (false, .conflict, "TEMPLATE_AMBIGUOUS".toList),
    (false, .badRequest, "TEMPLATE_SOURCE_MISSING".toList),
    (false, .notFound, "RECORD_NOT_FOUND".toList)]

/-- No two kinds of failure have one code. -/
theorem nodup_codes :
    (kinds.map fun kind => kind.2.2).Nodup := by
  decide

/-- What a failure is taken for where it is hidden fits what it is told as. -/
theorem kind_mem
    (f : Failure) :
    (f.isInternal, f.outcome) ∈ kinds := by
  cases f with
  | configuration reason => exact of_decide_eq_true rfl
  | invalid reason => exact of_decide_eq_true rfl
  | notFound reason => exact of_decide_eq_true rfl
  | internal reason => exact of_decide_eq_true rfl
  | template e =>
      cases e with
      | notFound name => exact of_decide_eq_true rfl
      | ambiguous name count => exact of_decide_eq_true rfl
      | noSource => exact of_decide_eq_true rfl
      | store e => cases e <;> exact of_decide_eq_true rfl

section Codes

variable {f g : Failure}

theorem kind_eq_of_code_eq
    (h : f.code = g.code) :
    (f.isInternal, f.outcome) = (g.isInternal, g.outcome) :=
  List.inj_on_of_nodup_map nodup_codes (kind_mem f) (kind_mem g) h

theorem status_eq_of_code_eq
    (h : f.code = g.code) :
    f.status = g.status :=
  congrArg (fun kind => kind.2.1) (kind_eq_of_code_eq h)

/-- The code says whether a failure is internal. -/
theorem internal_iff_of_code_eq
    (h : f.code = g.code) :
    Internal f ↔ Internal g := by
  have hsame : f.isInternal = g.isInternal := congrArg Prod.fst (kind_eq_of_code_eq h)
  rw [← isInternal_iff, ← isInternal_iff, hsame]

end Codes

/-- The modes in which the service runs in production. -/
def InProduction (mode : Option Text) : Prop :=
  mode = some "production".toList ∨ mode = some "prod".toList

theorem isProduction_iff
    (mode : Option Text) :
    isProduction mode = true ↔ InProduction mode := by
  unfold isProduction
  rw [Bool.or_eq_true, decide_eq_true_iff, decide_eq_true_iff]
  rfl

end Service.Failure

namespace Web.Site

open Service Service.Failure

/-- The response that tells of a failure its outcome, its code and a wording. -/
def account (status : Status) (code wording : Text) : Response :=
  .ofJson status <| .ofMembers
    [("error", .ofMembers [("code", .text code), ("message", .text wording)])]

section Responses

variable {f g : Failure} {mode : Option Text} {status status' : Status}
variable {code code' wording wording' : Text}

theorem account_eq_iff :
    account status code wording = account status' code' wording' ↔
      status = status' ∧ code = code' ∧ wording = wording' := by
  simp [account, Response.ofJson, Json.ofMembers]

theorem explain_eq_account
    (mode : Option Text)
    (f : Failure) :
    explain mode f = account f.status f.code (f.shown mode) :=
  rfl

theorem explain_of_internal
    (hmode : InProduction mode)
    (hf : Internal f) :
    explain mode f = account f.status f.code "Internal server error".toList := by
  rw [← isProduction_iff] at hmode
  rw [← isInternal_iff] at hf
  rw [explain_eq_account, shown_of_hidden hf hmode]

theorem explain_of_not_internal
    (hf : ¬ Internal f)
    (mode : Option Text) :
    explain mode f = account f.status f.code f.message := by
  rw [← isInternal_iff, Bool.not_eq_true] at hf
  rw [explain_eq_account, shown_of_not_internal hf]

theorem explain_outside_production
    (hmode : ¬ InProduction mode)
    (f : Failure) :
    explain mode f = account f.status f.code f.message := by
  rw [← isProduction_iff, Bool.not_eq_true] at hmode
  rw [explain_eq_account, shown_of_not_production hmode]

end Responses

/-- In production the response to an internal failure, whatever its wording says, is the
response to every failure with the same code, and to no other. The response to a failure
that is not internal tells the wording of the failure, as it does outside of production. -/
theorem explain_in_production
    {mode : Option Text}
    (hmode : mode = some "production".toList ∨ mode = some "prod".toList) :
    (∀ f g, Internal f → (explain mode f = explain mode g ↔ f.code = g.code)) ∧
    ∀ f, ¬ Internal f →
      explain mode f = account f.status f.code f.message ∧
      ∀ other, other ≠ some "production".toList → other ≠ some "prod".toList →
        explain mode f = explain other f := by
  constructor
  · intro f g hf
    constructor
    · intro h
      rw [explain_eq_account, explain_eq_account, account_eq_iff] at h
      exact h.2.1
    · intro hcode
      have hg : Internal g := (internal_iff_of_code_eq hcode).1 hf
      rw [explain_of_internal hmode hf, explain_of_internal hmode hg, account_eq_iff]
      exact ⟨status_eq_of_code_eq hcode, hcode, rfl⟩
  · intro f hf
    have hown := explain_of_not_internal hf mode
    refine ⟨hown, ?_⟩
    intro other hproduction hprod
    rw [hown, explain_outside_production fun h => h.elim hproduction hprod]

/-- Two failures of a source with different wordings, and a record that is not there. -/
theorem explain_in_prod :
    let mode := some "prod".toList
    let refused : Failure := .template (.store (.unavailable "10.0.0.7 refused".toList))
    let unread : Failure := .template (.store (.unreadable "/srv/records".toList))
    let missing : Failure := .template (.store (.notFound "deal".toList ⟨1⟩))
    (mode = some "production".toList ∨ mode = some "prod".toList) ∧
    Internal refused ∧ Internal unread ∧ refused.message ≠ unread.message ∧
    explain mode refused = explain mode unread ∧
    ¬ Internal missing ∧
    explain mode missing = account .notFound "RECORD_NOT_FOUND".toList
      ("Template error: Record not found: deal" ++
        "(00000000-0000-0000-0000-000000000001)").toList ∧
    explain mode missing = explain none missing := by
  intro mode refused unread missing
  have hmode : mode = some "production".toList ∨ mode = some "prod".toList := Or.inr rfl
  have hrefused : Internal refused := .store _ nofun
  have hunread : Internal unread := .store _ nofun
  have hmissing : ¬ Internal missing := by
    rw [← isInternal_iff]
    decide
  obtain ⟨hhidden, hshown⟩ := explain_in_production hmode
  have hsame := (hhidden refused unread hrefused).2 rfl
  obtain ⟨hown, helsewhere⟩ := hshown missing hmissing
  exact ⟨hmode, hrefused, hunread, by decide, hsame, hmissing, hown, helsewhere none nofun nofun⟩

end Web.Site

end MailMerge
