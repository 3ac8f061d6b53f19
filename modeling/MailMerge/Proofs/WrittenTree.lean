import MailMerge.Proofs.WrittenTokens

/-!
# Trees of written documents

The tokens of a written document are put together again to its tree: no list and no
object in it is torn, and nothing stands behind it. The reader keeps what is open in
frames, so the facts here are about any frames around a document: behind its tokens
the reader goes on as behind its tree.

Main facts:

* `Json.build_tokens`: the tokens of a document, inside of any frames;
* `Json.read_write`: a written document is read as its tree.
-/

namespace MailMerge.Json

open Node

mutual

/-- The tree of a document. -/
def node : Json → Node
  | null => .null
  | bool b => .bool b
  | integer n => .number (numberOf n)
  | text t => .string t true
  | array items => .array (nodes items) .closed
  | object members => .object (memberNodes members) .closed

/-- The trees of the items of a list. -/
def nodes : List Json → List Node
  | [] => []
  | item :: rest => node item :: nodes rest

/-- The trees of the members of an object. -/
def memberNodes : List (Text × Json) → List (Key × Node)
  | [] => []
  | (name, value) :: rest => (⟨name, true⟩, node value) :: memberNodes rest

end

theorem nodes_cons
    (item : Json)
    (items : List Json) :
    nodes (item :: items) = node item :: nodes items :=
  rfl

theorem memberNodes_cons
    (name : Text)
    (value : Json)
    (members : List (Text × Json)) :
    memberNodes ((name, value) :: members) =
      (⟨name, true⟩, node value) :: memberNodes members :=
  rfl

section Steps

variable {frames : List Frame} {rest : List Token}

theorem build_firstItem
    (item : Json)
    (items : List Json) :
    build (.reading frames .firstItem) (tokensOfItems (item :: items) ++ rest) =
      build (.reading frames .value) (tokensOfItems (item :: items) ++ rest) := by
  cases items with
  | nil =>
      cases item <;> rfl
  | cons next items =>
      cases item <;> rfl

theorem build_nextItem
    (done : List Node)
    (v : Node) :
    build (Progress.value (.items done :: frames) v) (.comma :: rest) =
      build (.reading (.items (v :: done) :: frames) .value) rest :=
  rfl

theorem build_closeBracket
    (done : List Node) :
    build (.reading (.items done :: frames) .more) (.closeBracket :: rest) =
      build (Progress.value frames (.array done.reverse .closed)) rest :=
  rfl

theorem build_firstName
    (member : Text × Json)
    (members : List (Text × Json)) :
    build (.reading frames .firstKey) (tokensOfMembers (member :: members) ++ rest) =
      build (.reading frames .key) (tokensOfMembers (member :: members) ++ rest) := by
  cases members <;> rfl

theorem build_name
    (name : Text)
    (done : List (Key × Node)) :
    build (.reading (.members done :: frames) .key) (.string name true :: .colon :: rest) =
      build (.reading (.member done ⟨name, true⟩ :: frames) .value) rest :=
  rfl

theorem build_nextName
    (done : List (Key × Node))
    (key : Key)
    (v : Node) :
    build (Progress.value (.member done key :: frames) v) (.comma :: rest) =
      build (.reading (.members ((key, v) :: done) :: frames) .key) rest :=
  rfl

theorem build_closeBrace
    (done : List (Key × Node)) :
    build (.reading (.members done :: frames) .more) (.closeBrace :: rest) =
      build (Progress.value frames (.object done.reverse .closed)) rest :=
  rfl

end Steps

mutual

/-- Behind the tokens of a document the reader goes on as behind its tree. -/
theorem build_tokens
    (j : Json)
    (frames : List Frame)
    (rest : List Token) :
    build (.reading frames .value) (j.tokens ++ rest) =
      build (Progress.value frames j.node) rest := by
  cases j with
  | null =>
      rfl
  | bool b =>
      rfl
  | integer n =>
      rfl
  | text t =>
      rfl
  | array items =>
      match items with
      | [] =>
          rfl
      | item :: items =>
          rw [tokens, List.append_assoc, List.cons_append]
          change build (.reading (.items [] :: frames) .firstItem) _ = _
          rw [build_firstItem, build_tokensOfItems (item :: items) (List.cons_ne_nil _ _),
            List.singleton_append, build_closeBracket, List.append_nil, List.reverse_reverse]
          rfl
  | object members =>
      match members with
      | [] =>
          rfl
      | member :: members =>
          rw [tokens, List.append_assoc, List.cons_append]
          change build (.reading (.members [] :: frames) .firstKey) _ = _
          rw [build_firstName, build_tokensOfMembers (member :: members) (List.cons_ne_nil _ _),
            List.singleton_append, build_closeBrace, List.append_nil, List.reverse_reverse]
          rfl

theorem build_tokensOfItems
    (items : List Json)
    (hitems : items ≠ [])
    (done : List Node)
    (frames : List Frame)
    (rest : List Token) :
    build (.reading (.items done :: frames) .value) (tokensOfItems items ++ rest) =
      build (.reading (.items ((nodes items).reverse ++ done) :: frames) .more) rest := by
  match items with
  | [] =>
      exact absurd rfl hitems
  | [item] =>
      exact build_tokens item (.items done :: frames) rest
  | item :: next :: items =>
      rw [tokensOfItems_cons_cons, List.append_assoc, List.cons_append, build_tokens item,
        build_nextItem, build_tokensOfItems (next :: items) (List.cons_ne_nil _ _),
        nodes_cons item, List.reverse_cons, List.append_assoc, List.singleton_append]

theorem build_tokensOfMembers
    (members : List (Text × Json))
    (hmembers : members ≠ [])
    (done : List (Key × Node))
    (frames : List Frame)
    (rest : List Token) :
    build (.reading (.members done :: frames) .key) (tokensOfMembers members ++ rest) =
      build (.reading (.members ((memberNodes members).reverse ++ done) :: frames) .more) rest := by
  match members with
  | [] =>
      exact absurd rfl hmembers
  | [(name, value)] =>
      exact build_tokens value (.member done ⟨name, true⟩ :: frames) rest
  | (name, value) :: next :: members =>
      rw [tokensOfMembers_cons_cons]
      simp only [List.append_assoc, List.cons_append]
      rw [build_name, build_tokens value, build_nextName,
        build_tokensOfMembers (next :: members) (List.cons_ne_nil _ _), memberNodes_cons name value,
        List.reverse_cons, List.append_assoc, List.singleton_append]

end

/-- A written document is read as its tree, and nothing is left. -/
theorem read_write
    (j : Json) :
    Node.read (write j) = (j.node, []) := by
  have hbuild := build_tokens j [] []
  rw [List.append_nil] at hbuild
  unfold Node.read
  rw [tokens_write, hbuild]
  rfl

end MailMerge.Json
