import MailMerge.Service.Rendering
import MailMerge.Store.Memory
import MailMerge.Web.MediaType
import MailMerge.Web.Message
import MailMerge.Web.Metrics
import MailMerge.Web.Origins

/-!
# The site

The service answers requests over the network under three paths: one tells
whether it is healthy, one shows its counters, and one makes letters. A letter is
asked for by a document. Pages of other origins may ask what they are allowed to
do under every path.

Main facts:

* `counters_respond`: nothing but a letter that is asked for is counted.
-/

namespace MailMerge.Web

/-- A service with its records and settings. -/
structure Site where
  store : Store
  origins : Origins
  baseAddress : Text
  offsetHours : Int
  maxDepth : Nat
  /-- The mode in which the service runs. -/
  mode : Option Text

/-- The paths of the service. -/
inductive Route where
  | health
  | metrics
  | render
deriving DecidableEq, Repr

namespace Route

/-- The route of a target. -/
def ofTarget? (target : Text) : Option Route :=
  let path := pathOf target
  if path = "/health".toList then some health
  else if path = "/metrics".toList then some metrics
  else if path = "/api/v1/render".toList then some render
  else none

/-- The methods of a route. -/
def methods : Route → List Text
  | health => ["GET".toList, "HEAD".toList]
  | metrics => ["GET".toList, "HEAD".toList]
  | render => ["POST".toList]

/-- The header that lists the methods of a route. -/
def allow (route : Route) : Text :=
  [','].intercalate route.methods

end Route

/-- The version of the service. -/
def version : String := "1.0.0"

namespace Site

/-- What letters are filled with. -/
def setup (site : Site) : Filling.Setup :=
  ⟨site.store.toSource, Link.path, site.baseAddress, site.offsetHours, site.maxDepth⟩

/-- The response that tells why a request failed. -/
def explain (mode : Option Text) (f : Service.Failure) : Response :=
  .ofJson f.status <| .ofMembers
    [("error", .ofMembers [("code", .text f.code), ("message", .text (f.shown mode))])]

/-- The response that tells that a service is healthy. -/
def healthy (site : Site) (uptimeSeconds : Nat) : Response :=
  .ofJson .ok <| .ofMembers [("status", .word "healthy"), ("version", .word version),
    ("uptime_seconds", .integer uptimeSeconds),
    ("store", .ofMembers [("backend", .word "memory"),
      ("records", .integer site.store.recordCount)])]

/-- The response that shows counters. -/
def shown (totals : Counters) : Response :=
  .ofText .ok "text/plain; version=0.0.4; charset=utf-8" (Metrics.page totals)

/-- A response that refuses the body of a request. -/
def refuse (status : Service.Status) (reason : String) : Response :=
  .ofText status "text/plain; charset=utf-8" reason.toList

/-- The request for a letter that a message carries, or the response that refuses it. -/
def requestOf (r : Request) : Except Response Service.Request :=
  if ((header? r.headers "content-type".toList).bind MediaType.read?).any MediaType.isJson then
    match Json.Decode.ofText Json.request r.body with
    | .ok request => .ok request
    | .error .malformed => .error (refuse .badRequest "The body is not a document")
    | .error .mismatch => .error (refuse .unprocessable "The body is not a request for a letter")
  else .error (refuse .unsupportedMediaType "A document is expected")

/-- The letter that a message asks for, with what was counted on the way. -/
def letter (site : Site) (r : Request) : Response × Counters :=
  match requestOf r with
  | .error response => (response, .zero)
  | .ok request =>
    match Service.answer site.setup request with
    | (.ok l, s) => (.ofJson .ok (.ofLetter l), s.counters)
    | (.error f, s) => (explain site.mode f, s.counters)

/-- The response of a route to a method that it knows. -/
def serveRoute (site : Site) (uptimeSeconds : Nat) (totals : Counters) (r : Request) :
    Route → Response × Counters
  | .health => (site.healthy uptimeSeconds, .zero)
  | .metrics => (shown totals, .zero)
  | .render => site.letter r

/-- The response to a request, with what was counted on the way. -/
def serve (site : Site) (uptimeSeconds : Nat) (totals : Counters) (r : Request) :
    Response × Counters :=
  match Route.ofTarget? r.target with
  | none => (.bare .notFound, .zero)
  | some route =>
    if r.method ∈ route.methods then
      let (response, counters) := site.serveRoute uptimeSeconds totals r route
      (if r.method = "HEAD".toList then response.withoutBody else response, counters)
    else ((Response.bare .methodNotAllowed).withHeader "allow" route.allow, .zero)

/-- The response to a page that asks what it is allowed to do. -/
def permissions (r : Request) : Response :=
  let response := Response.bare .ok
    |>.withHeader "access-control-allow-methods" Origins.star
    |>.withHeader "access-control-allow-headers" Origins.star
  match Route.ofTarget? r.target with
  | none => response
  | some route => response.withHeader "allow" route.allow

/-- The response to a request, with what was counted on the way: every response tells
pages of the request's origin whether they may use the service. `totals` is what
was counted before. -/
def respond (site : Site) (uptimeSeconds : Nat) (totals : Counters) (r : Request) :
    Response × Counters :=
  let (response, counters) :=
    if r.method = "OPTIONS".toList then (permissions r, .zero)
    else site.serve uptimeSeconds totals r
  match site.origins.allowed (header? r.headers "origin".toList) with
  | some origin => (response.withHeader "access-control-allow-origin" origin, counters)
  | none => (response, counters)

section Requests

variable (site : Site) (uptimeSeconds : Nat) (totals : Counters) (r : Request)

theorem counters_serve :
    (site.serve uptimeSeconds totals r).2 =
      if Route.ofTarget? r.target = some .render ∧ r.method = "POST".toList
      then (site.letter r).2 else .zero := by
  unfold serve
  cases Route.ofTarget? r.target with
  | none => rfl
  | some route =>
    cases route with
    | health => dsimp only; split <;> rfl
    | metrics => dsimp only; split <;> rfl
    | render =>
      simp only [Route.methods, List.mem_singleton, true_and]
      split <;> rfl

theorem counters_respond :
    (site.respond uptimeSeconds totals r).2 =
      if Route.ofTarget? r.target = some .render ∧ r.method = "POST".toList
      then (site.letter r).2 else .zero := by
  have hanswer :
      (if r.method = "OPTIONS".toList then (permissions r, Counters.zero)
        else site.serve uptimeSeconds totals r).2 =
      if Route.ofTarget? r.target = some .render ∧ r.method = "POST".toList
      then (site.letter r).2 else .zero := by
    split
    · next hoptions =>
      rw [if_neg]
      rintro ⟨-, hpost⟩
      exact absurd (hoptions.symm.trans hpost) (by decide)
    · exact counters_serve site uptimeSeconds totals r
  rw [← hanswer]
  unfold respond
  -- what a page is told of its origin stands in a header
  dsimp only
  split <;> rfl

end Requests

end Site

end MailMerge.Web
