import MailMerge.Json.Token

/-!
# Documents as trees

The tokens of a document form a tree. A document that is no well-formed document
still has a tree, as far as it goes: a list or an object that is not closed is
torn, and a value that is missing is broken. Whoever takes a tree apart from left
to right thereby meets the first fault where the document has it.

Main facts:

* `sound_of_usable`: what can be kept for later has no fault inside.
-/

namespace MailMerge.Json

/-- The name of a member, and whether it is a text. -/
structure Key where
  text : Text
  whole : Bool
deriving DecidableEq, Repr

/-- How a list or an object ends. -/
inductive Ending where
  | closed
  /-- Something is wrong behind the last item or member. -/
  | torn
  /-- A value stands where the first name of an object should. -/
  | nameless
deriving DecidableEq, Repr

/-- A document, as far as it is well-formed. -/
inductive Node where
  | broken
  | null
  | bool (b : Bool)
  | number (n : Option Number)
  | string (t : Text) (whole : Bool)
  | array (items : List Node) (ending : Ending)
  | object (members : List (Key × Node)) (ending : Ending)

namespace Node

instance : Inhabited Node := ⟨broken⟩

mutual

/-- Whether there is no fault inside. -/
def sound : Node → Bool
  | broken => false
  | null => true
  | bool _ => true
  | number _ => true
  | string _ _ => true
  | array items ending => ending = .closed && soundItems items
  | object members ending => ending = .closed && soundMembers members

/-- Whether there is no fault inside of any item. -/
def soundItems : List Node → Bool
  | [] => true
  | item :: rest => sound item && soundItems rest

/-- Whether there is no fault inside of any member. -/
def soundMembers : List (Key × Node) → Bool
  | [] => true
  | (_, value) :: rest => sound value && soundMembers rest

end

/-- The number of lists and objects that may stand inside of one another in a value
that is kept for later. -/
def depthLimit : Nat := 127

mutual

/-- Whether a value can be kept for later: there is no fault inside, its strings are
texts, its numbers are not too large, and it does not reach too deep, `depth` lists
and objects being around it. -/
def usable (depth : Nat) : Node → Bool
  | broken => false
  | null => true
  | bool _ => true
  | number n => n.isSome
  | string _ whole => whole
  | array items ending =>
    depth + 1 ≤ depthLimit && ending = .closed && usableItems (depth + 1) items
  | object members ending =>
    depth + 1 ≤ depthLimit && ending = .closed && usableMembers (depth + 1) members

/-- Whether all items can be kept for later. -/
def usableItems (depth : Nat) : List Node → Bool
  | [] => true
  | item :: rest => usable depth item && usableItems depth rest

/-- Whether all members can be kept for later. -/
def usableMembers (depth : Nat) : List (Key × Node) → Bool
  | [] => true
  | (key, value) :: rest => key.whole && usable depth value && usableMembers depth rest

end

/-- A list or an object that is being read, with what it holds so far in reverse. -/
inductive Frame where
  | items (done : List Node)
  | members (done : List (Key × Node))
  | member (done : List (Key × Node)) (key : Key)

/-- What may come next. -/
inductive Expected where
  | value
  | firstItem
  | firstKey
  | key
  | colon
  | more
deriving DecidableEq, Repr

/-- A list or an object with an ending; a member whose value is missing has a broken one. -/
def Frame.finish (ending : Ending) : Frame → Node
  | .items done => array done.reverse ending
  | .members done => object done.reverse ending
  | .member done key => object ((key, broken) :: done).reverse ending

/-- A list or an object with one more value. -/
def Frame.push (value : Node) : Frame → Frame
  | .items done => .items (value :: done)
  | .members done => .members done
  | .member done key => .members ((key, value) :: done)

/-- The document when nothing more can be read: what is open is torn. -/
def tear (innermost : Node) : List Frame → Node
  | [] => innermost
  | frame :: frames => tear ((frame.push innermost).finish .torn) frames

/-- The document when a fault stands in the innermost of the open lists and objects. -/
def fail (ending : Ending) : List Frame → Node
  | [] => broken
  | frame :: frames => tear (frame.finish ending) frames

/-- The value of a token that is a value by itself. -/
def ofToken? : Token → Option Node
  | .null => some null
  | .bool b => some (bool b)
  | .number n => some (number n)
  | .string t whole => some (string t whole)
  | _ => none

/-- Whether a token starts a value that can be told from a string. -/
def startsOtherValue : Token → Bool
  | .openBracket => true
  | .openBrace => true
  | .null => true
  | .bool _ => true
  | .number n => n.isSome
  | _ => false

/-- How far a document has been read: some lists and objects are open and something may
come next, or the document is there, or nothing more can be read of it. -/
inductive Progress where
  | reading (frames : List Frame) (expected : Expected)
  | finished (document : Node)
  | failed (document : Node)

namespace Progress

/-- Goes on behind a value. -/
def value (frames : List Frame) (v : Node) : Progress :=
  match frames with
  | [] => finished v
  | frame :: frames => reading (frame.push v :: frames) .more

/-- Goes on behind the end of the innermost list or object. -/
def close : List Frame → Progress
  | [] => failed broken
  | frame :: frames => value frames (frame.finish .closed)

/-- Nothing more can be read. -/
def fail (frames : List Frame) (ending : Ending) : Progress :=
  failed (Node.fail ending frames)

/-- Goes on at the token that a value starts with. -/
def start (frames : List Frame) (token : Token) : Progress :=
  match token with
  | .openBracket => reading (.items [] :: frames) .firstItem
  | .openBrace => reading (.members [] :: frames) .firstKey
  | token =>
    match ofToken? token with
    | some v => value frames v
    | none => fail frames .torn

/-- Goes on at the name of a member. -/
def name (frames : List Frame) (token : Token) : Progress :=
  match frames, token with
  | .members done :: frames, .string t whole => reading (.member done ⟨t, whole⟩ :: frames) .colon
  | frames, _ => fail frames .torn

/-- Goes on behind a value inside of a list or an object. -/
def more (frames : List Frame) (token : Token) : Progress :=
  match frames, token with
  | .items _ :: _, .comma => reading frames .value
  | .items _ :: _, .closeBracket => close frames
  | .members _ :: _, .comma => reading frames .key
  | .members _ :: _, .closeBrace => close frames
  | _, _ => fail frames .torn

/-- Takes in one token. -/
def step (frames : List Frame) (expected : Expected) (token : Token) : Progress :=
  match expected with
  | .value => start frames token
  | .firstItem => if token = .closeBracket then close frames else start frames token
  | .firstKey =>
    if token = .closeBrace then close frames
    else if startsOtherValue token then fail frames .nameless
    else name frames token
  | .key => name frames token
  | .colon => if token = .colon then reading frames .value else fail frames .torn
  | .more => more frames token

end Progress

/-- Reads on through tokens; gives the document and the tokens behind it. -/
def build : Progress → List Token → Node × List Token
  | .finished document, rest => (document, rest)
  | .failed document, _ => (document, [])
  | .reading frames _, [] => (fail .torn frames, [])
  | .reading frames expected, token :: rest => build (Progress.step frames expected token) rest

/-- The document at the start of a text, and the tokens behind it. -/
def read (t : Text) : Node × List Token :=
  build (.reading [] .value) (Token.tokens t)

mutual

theorem sound_of_usable {depth : Nat} {node : Node} (h : usable depth node = true) :
    sound node = true := by
  cases node with
  | broken => simp [usable] at h
  | null => rfl
  | bool b => rfl
  | number n => rfl
  | string t whole => rfl
  | array items ending =>
    simp only [usable, Bool.and_eq_true] at h
    simp only [sound, Bool.and_eq_true]
    exact ⟨h.1.2, soundItems_of_usable h.2⟩
  | object members ending =>
    simp only [usable, Bool.and_eq_true] at h
    simp only [sound, Bool.and_eq_true]
    exact ⟨h.1.2, soundMembers_of_usable h.2⟩

theorem soundItems_of_usable {depth : Nat} {items : List Node}
    (h : usableItems depth items = true) : soundItems items = true := by
  match items with
  | [] => rfl
  | item :: rest =>
    simp only [usableItems, Bool.and_eq_true] at h
    simp only [soundItems, Bool.and_eq_true]
    exact ⟨sound_of_usable h.1, soundItems_of_usable h.2⟩

theorem soundMembers_of_usable {depth : Nat} {members : List (Key × Node)}
    (h : usableMembers depth members = true) : soundMembers members = true := by
  match members with
  | [] => rfl
  | (_, value) :: rest =>
    simp only [usableMembers, Bool.and_eq_true] at h
    simp only [soundMembers, Bool.and_eq_true]
    exact ⟨sound_of_usable h.1.2, soundMembers_of_usable h.2⟩

end

end Node

end MailMerge.Json
