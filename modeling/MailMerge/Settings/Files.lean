import MailMerge.Keyed
import MailMerge.Text.Basic

/-!
# Files below a directory

Texts are kept in files below one directory, each under the path of names that
leads to it. A path may have superfluous slashes, a point for the directory at
hand and two points for the one above; it does not lead out of the outermost
directory and back. A directory is there when a file is below it.

Main facts:

* `isDirectory_of_walk?`: a path does not lead to a directory that is not there;
* `exists_of_read?`: what is read is the text of a file in such a directory.
-/

namespace MailMerge

/-- Texts by the paths of their files. -/
abbrev Files := Dict Text Text

namespace Files

/-- Whether a part of a path stays in the directory at hand. -/
def stays (part : Text) : Bool :=
  part = [] || part = ['.']

/-- Whether a part of a path leads to the directory above. -/
def leadsUp (part : Text) : Bool :=
  part = ['.', '.']

/-- The names on a path. -/
def names (path : Text) : List Text :=
  (Text.fields '/' path).filter fun part => !stays part

/-- Whether there is a directory. -/
def isDirectory (files : Files) (directory : List Text) : Bool :=
  directory.isEmpty || files.members.any fun (path, _) =>
    directory.isPrefixOf (names path) && directory ≠ names path

/-- The directory to which parts of a path lead from another one. -/
def walk? (files : Files) : List Text → List Text → Option (List Text)
  | directory, [] => some directory
  | directory, part :: rest =>
    if stays part then walk? files directory rest
    else if leadsUp part then
      if directory.isEmpty then none else walk? files directory.dropLast rest
    else if isDirectory files (directory ++ [part]) then walk? files (directory ++ [part]) rest
    else none

/-- The text of the file to which a path leads; none when it does not lead to a file. -/
def read? (files : Files) (path : Text) : Option Text := do
  let parts := Text.fields '/' path
  let last ← parts.getLast?
  if stays last || leadsUp last then none
  else
    let directory ← walk? files [] parts.dropLast
    let found ← files.members.find? fun (path, _) => names path = directory ++ [last]
    return found.2

/-- The parts of a path up to its last name; none when it ends at the directory above
another one. -/
def trimmed? (path : Text) : Option (List Text × Text) := do
  let parts := ((Text.fields '/' path).reverse.dropWhile stays).reverse
  let last ← parts.getLast?
  if leadsUp last then none else some (parts.dropLast, last)

/-- The path with an ending put to its last name. -/
def withEnding (ending path : Text) : Option Text :=
  (trimmed? path).map fun (front, last) => ['/'].intercalate (front ++ [last ++ ending])

/-- Whether the last name on a path has an ending and something in front of it. -/
def hasEnding (ending path : Text) : Bool :=
  let last := Text.behindLast '/' path
  ending.isSuffixOf last && last ≠ ending

/-- The directory above another one is there as well. -/
theorem isDirectory_dropLast {files : Files} {directory : List Text}
    (h : isDirectory files directory = true) : isDirectory files directory.dropLast = true := by
  simp only [isDirectory, Bool.or_eq_true, List.any_eq_true, Bool.and_eq_true,
    List.isPrefixOf_iff_prefix, decide_eq_true_eq] at h ⊢
  rcases h with hempty | ⟨file, hfile, hprefix, hne⟩
  · rw [List.isEmpty_iff] at hempty
    subst hempty
    exact .inl rfl
  · by_cases hnil : directory = []
    · subst hnil
      exact .inl rfl
    · refine .inr ⟨file, hfile, (List.dropLast_prefix _).trans hprefix, ?_⟩
      intro hsame
      have hle := hprefix.length_le
      rw [← hsame, List.length_dropLast] at hle
      have hpos := List.length_pos_iff.2 hnil
      omega

theorem isDirectory_of_walk? {files : Files} {parts start found : List Text}
    (hstart : isDirectory files start = true) (h : walk? files start parts = some found) :
    isDirectory files found = true := by
  induction parts generalizing start with
  | nil =>
    cases h
    exact hstart
  | cons part rest ih =>
    rw [walk?] at h
    split at h
    · exact ih hstart h
    · split at h
      · split at h
        · cases h
        · exact ih (isDirectory_dropLast hstart) h
      · split at h
        · next hin => exact ih hin h
        · cases h

/-- What is read is the text of a file that stands in a directory which is there. -/
theorem exists_of_read? {files : Files} {path text : Text} (h : read? files path = some text) :
    ∃ file ∈ files.members, file.2 = text ∧
      ∃ directory last, names file.1 = directory ++ [last] ∧
        isDirectory files directory = true := by
  simp only [read?, bind, Option.bind_eq_some_iff] at h
  obtain ⟨last, -, h⟩ := h
  split at h
  · cases h
  · simp only [Option.bind_eq_some_iff] at h
    obtain ⟨directory, hwalk, file, hfile, htext⟩ := h
    refine ⟨file, List.mem_of_find?_eq_some hfile, Option.some.inj htext, directory, last,
      of_decide_eq_true (List.find?_some hfile :), isDirectory_of_walk? rfl hwalk⟩

end Files

end MailMerge
