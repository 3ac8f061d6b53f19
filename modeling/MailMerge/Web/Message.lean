import MailMerge.Json.Written
import MailMerge.Service.Status

/-!
# Messages

A request over the network has a method, a path, headers and a body. A response
has an outcome, headers and a body, which is a document or a plain text.

Main facts:

* `header?_append`: of several headers of a name the first one counts;
* `not_mem_pathOf`: no query and no fragment is left in a path.
-/

namespace MailMerge.Web

/-- The headers of a message. -/
abbrev Headers := List (Text × Text)

/-- The first header of a name, in letters of any case. -/
def header? (headers : Headers) (name : Text) : Option Text :=
  (headers.find? fun h => Text.sameLetters h.1 name).map Prod.snd

/-- Whether a character may stand in a scheme. -/
def isSchemeChar (c : Char) : Bool :=
  c.isAlphanum || c ∈ ['+', '-', '.']

/-- The path in the target of a request, which may have the scheme and the address of the
host in front, and a query and a fragment behind. -/
def pathOf (target : Text) : Text :=
  let plain (t : Text) : Text := Text.before '#' (Text.before '?' t)
  match target.head?, Text.splitAtMark "://".toList target with
  | some '/', _ => plain target
  | _, some (scheme, rest) =>
    if scheme.all isSchemeChar then
      let path := plain (rest.dropWhile fun c => c ∉ ['/', '?', '#'])
      if path.isEmpty then ['/'] else path
    else plain target
  | _, none => plain target

/-- A request over the network. -/
structure Request where
  method : Text
  /-- What the request is for: a path, with what may stand around it. -/
  target : Text
  headers : Headers
  body : Text
deriving DecidableEq

/-- What a response carries. -/
inductive Body where
  | empty
  | document (j : Json)
  | plain (t : Text)

/-- The answer to a request. -/
structure Response where
  status : Service.Status
  headers : Headers
  body : Body

namespace Response

/-- A response without a body. -/
def bare (status : Service.Status) : Response :=
  ⟨status, [], .empty⟩

/-- A response that carries a document. -/
def ofJson (status : Service.Status) (j : Json) : Response :=
  ⟨status, [("content-type".toList, "application/json".toList)], .document j⟩

/-- A response that carries a text of a media type. -/
def ofText (status : Service.Status) (mediaType : String) (t : Text) : Response :=
  ⟨status, [("content-type".toList, mediaType.toList)], .plain t⟩

/-- The response with one more header. -/
def withHeader (r : Response) (name : String) (value : Text) : Response :=
  { r with headers := r.headers ++ [(name.toList, value)] }

/-- The response without what it carries. -/
def withoutBody (r : Response) : Response :=
  { r with body := .empty }

end Response

theorem header?_append (front back : Headers) (name : Text) :
    header? (front ++ back) name = (header? front name).or (header? back name) := by
  unfold header?
  rw [List.find?_append, Option.map_or]

theorem not_mem_before_before (t : Text) :
    '?' ∉ Text.before '#' (Text.before '?' t) ∧ '#' ∉ Text.before '#' (Text.before '?' t) :=
  ⟨fun h => Text.not_mem_before '?' t ((List.takeWhile_sublist _).mem h),
    Text.not_mem_before '#' _⟩

theorem not_mem_pathOf (target : Text) : '?' ∉ pathOf target ∧ '#' ∉ pathOf target := by
  unfold pathOf
  dsimp only
  split
  · exact not_mem_before_before _
  · split
    · split
      · decide
      · exact not_mem_before_before _
    · exact not_mem_before_before _
  · exact not_mem_before_before _

end MailMerge.Web
