import MailMerge.Filling.Letter
import MailMerge.Service.Status

/-!
# Failures of the service

Why the service does not give what it was asked for. A failure has an outcome and
a code, which tell programs what went wrong, and a wording for people. The
wording of a failure inside the service is kept from callers when the service
runs in production.

Main facts:

* `shown_of_not_internal`: a wording that is not internal is shown in every mode;
* `shown_of_not_production`: outside production every wording is shown;
* `shown_of_hidden`: what is shown in place of a wording.
-/

namespace MailMerge.Service

/-- Why the service does not give what it was asked for. -/
inductive Failure where
  /-- The settings are wrong. -/
  | configuration (reason : Text)
  /-- The request asks for something impossible. -/
  | invalid (reason : Text)
  /-- Something that was asked for does not exist. -/
  | notFound (reason : Text)
  /-- The service itself failed. -/
  | internal (reason : Text)
  /-- The letter could not be made. -/
  | template (e : Filling.TemplateError)
deriving DecidableEq

namespace Failure

/-- The wording of a failure. -/
def message : Failure → Text
  | configuration reason => "Configuration error: ".toList ++ reason
  | invalid reason => "Validation error: ".toList ++ reason
  | notFound reason => "Not found: ".toList ++ reason
  | internal reason => "Internal error: ".toList ++ reason
  | template e => "Template error: ".toList ++ e.message

/-- The outcome that a failure stands for, with its code. -/
def outcome : Failure → Status × Text
  | configuration _ => (.internalError, "CONFIG_ERROR".toList)
  | invalid _ => (.badRequest, "VALIDATION_ERROR".toList)
  | notFound _ => (.notFound, "NOT_FOUND".toList)
  | internal _ => (.internalError, "INTERNAL_ERROR".toList)
  | template (.notFound _) => (.notFound, "TEMPLATE_NOT_FOUND".toList)
  | template (.ambiguous _ _) => (.conflict, "TEMPLATE_AMBIGUOUS".toList)
  | template .noSource => (.badRequest, "TEMPLATE_SOURCE_MISSING".toList)
  | template (.store (.notFound _ _)) => (.notFound, "RECORD_NOT_FOUND".toList)
  | template (.store _) => (.badGateway, "STORE_ERROR".toList)

/-- The outcome that a failure stands for. -/
def status (f : Failure) : Status :=
  f.outcome.1

/-- The code of a failure. -/
def code (f : Failure) : Text :=
  f.outcome.2

/-- Whether the wording of a failure tells how the service works inside. -/
def isInternal : Failure → Bool
  | configuration _ => true
  | internal _ => true
  | template (.store e) => !e.isNotFound
  | _ => false

/-- Whether a mode is the one in which the service runs in production. -/
def isProduction (mode : Option Text) : Bool :=
  mode = some "production".toList || mode = some "prod".toList

/-- The wording that callers see when the service runs in a mode. -/
def shown (f : Failure) (mode : Option Text) : Text :=
  if f.isInternal && isProduction mode then "Internal server error".toList else f.message

theorem shown_of_not_internal {f : Failure} (h : f.isInternal = false) (mode : Option Text) :
    f.shown mode = f.message := by
  simp [shown, h]

theorem shown_of_not_production {mode : Option Text} (h : isProduction mode = false)
    (f : Failure) : f.shown mode = f.message := by
  simp [shown, h]

theorem shown_of_hidden {f : Failure} {mode : Option Text} (hf : f.isInternal = true)
    (hmode : isProduction mode = true) : f.shown mode = "Internal server error".toList := by
  simp only [shown, hf, hmode, Bool.and_self, if_true]

end Failure

end MailMerge.Service
