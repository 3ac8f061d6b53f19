import MailMerge.Uuid

/-!
# Addresses of records

A record has an address under the base address of the system that it lives in:
either as a path of entity and identifier, or as the query of an entry page.

Main facts:

* `path_append_slash`: a slash at the end of the base address is of no account.
-/

namespace MailMerge.Link

/-- The address of a record as a path, with a single slash behind the base. -/
def path (base entity : Text) (id : Uuid) : Text :=
  Text.dropEndWhile (· = '/') base ++ '/' :: entity ++ '/' :: id.text

/-- The address of a record as a query of the entry page. -/
def entryPage (base entity : Text) (id : Uuid) : Text :=
  base ++ "main.aspx?etn=".toList ++ entity ++ "&id=".toList ++ id.text
    ++ "&pagetype=entityrecord".toList

/-- A link with a text, with a blank on either side. -/
def anchor (address text : Text) : Text :=
  " <a href=\"".toList ++ address ++ "\">".toList ++ text ++ "</a> ".toList

theorem path_append_slash (base entity : Text) (id : Uuid) :
    path (base ++ ['/']) entity id = path base entity id := by
  simp [path, Text.dropEndWhile]

end MailMerge.Link
