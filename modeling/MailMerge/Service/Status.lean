/-!
# Outcomes of requests

How a request over the network ended, and the number that says so.

Main facts:

* `number_injective`: different outcomes have different numbers.
-/

namespace MailMerge.Service

/-- How a request ended. -/
inductive Status where
  | ok
  | badRequest
  | notFound
  | methodNotAllowed
  | conflict
  | unsupportedMediaType
  | unprocessable
  | internalError
  | badGateway
deriving DecidableEq, Repr

namespace Status

/-- The number of an outcome. -/
def number : Status → Nat
  | ok => 200
  | badRequest => 400
  | notFound => 404
  | methodNotAllowed => 405
  | conflict => 409
  | unsupportedMediaType => 415
  | unprocessable => 422
  | internalError => 500
  | badGateway => 502

theorem number_injective {a b : Status} (h : a.number = b.number) : a = b := by
  cases a <;> cases b <;> first | rfl | (exact absurd h (by decide))

end Status

end MailMerge.Service
