import MailMerge.Json.Node
import MailMerge.Json.Written

/-!
# Documents passed on

A document that has been read is written again without blanks, its members in the
order in which they were. Where the document has a fault nothing is written.
-/

namespace MailMerge.Json.Node

mutual

/-- The text of a document. -/
def compact : Node → Text
  | broken => []
  | null => "null".toList
  | bool b => Json.write (.bool b)
  | number n => (n.map Number.text).getD []
  | string t _ => quote t
  | array items _ => '[' :: compactItems items ++ [']']
  | object members _ => '\x7b' :: compactMembers members ++ ['\x7d']

/-- The items of a list with commas between them. -/
def compactItems : List Node → Text
  | [] => []
  | [item] => compact item
  | item :: rest => compact item ++ ',' :: compactItems rest

/-- The members of an object with commas between them. -/
def compactMembers : List (Key × Node) → Text
  | [] => []
  | [(key, value)] => quote key.text ++ ':' :: compact value
  | (key, value) :: rest =>
    quote key.text ++ ':' :: compact value ++ ',' :: compactMembers rest

end

end MailMerge.Json.Node
