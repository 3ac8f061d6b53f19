import MailMerge.Text.Basic

/-!
# Occurrences from left to right

Many rules of this library look for occurrences of something in a text, take
them from left to right without overlap, and do something with them: replace
them, drop them, list them. What an occurrence is, is given by a function
`width`: the number of characters of the occurrence that starts at the head
of a text, or zero when none starts there.

`pieces width t` cuts a text into single characters and occurrences.

Main facts:

* `content_pieces`: the pieces put together are the text again;
* `pieces_cons_of_width_eq_zero`, `pieces_of_width_eq_succ`: what the head of
  the text decides;
* `alongPieces`: induction from the head of the text.
-/

namespace MailMerge.Text

/-- A piece of a text: a character that stands alone, or an occurrence. -/
inductive Piece where
  | single (c : Char)
  | found (t : Text)
deriving DecidableEq, Repr

namespace Piece

/-- The characters of a piece. -/
def content : Piece → Text
  | single c => [c]
  | found t => t

/-- The occurrence in a piece, if it is one. -/
def found? : Piece → Option Text
  | single _ => none
  | found t => some t

end Piece

/-- The pieces of a text after the next `skip` characters, which belong to an
occurrence that has been listed already. -/
def piecesFrom (width : Text → Nat) : Nat → Text → List Piece
  | _, [] => []
  | skip + 1, _ :: cs => piecesFrom width skip cs
  | 0, c :: cs =>
    match width (c :: cs) with
    | 0 => .single c :: piecesFrom width 0 cs
    | n + 1 => .found ((c :: cs).take (n + 1)) :: piecesFrom width n cs

/-- The pieces of a text: occurrences are taken from left to right and do not
overlap. -/
def pieces (width : Text → Nat) (t : Text) : List Piece :=
  piecesFrom width 0 t

/-- The occurrences in a text, from left to right. -/
def occurrences (width : Text → Nat) (t : Text) : List Text :=
  (pieces width t).filterMap Piece.found?

/-- The text with every occurrence replaced by what `f` makes of it. -/
def replaceWith (width : Text → Nat) (f : Text → Text) (t : Text) : Text :=
  (pieces width t).flatMap fun
    | .single c => [c]
    | .found s => f s

/-- The width of a mark at the head of a text: its length, or zero when the
text does not start with it. -/
def markWidth (mark t : Text) : Nat :=
  if startsWith mark t then mark.length else 0

/-- The text with every occurrence of a mark replaced. -/
def replaceAll (mark new t : Text) : Text :=
  replaceWith (markWidth mark) (fun _ => new) t

/-- The text without the occurrences of a mark. -/
def removeAll (mark t : Text) : Text :=
  replaceAll mark [] t

theorem piecesFrom_eq_pieces_drop (width : Text → Nat) (skip : Nat) (t : Text) :
    piecesFrom width skip t = pieces width (t.drop skip) := by
  induction t generalizing skip with
  | nil => cases skip <;> rfl
  | cons c cs ih =>
    cases skip with
    | zero => rfl
    | succ n => simpa [piecesFrom] using ih n

@[simp] theorem pieces_nil (width : Text → Nat) : pieces width [] = [] := rfl

theorem pieces_cons_of_width_eq_zero {width : Text → Nat} {c : Char} {cs : Text}
    (h : width (c :: cs) = 0) : pieces width (c :: cs) = .single c :: pieces width cs := by
  simp [pieces, piecesFrom, h]

theorem pieces_of_width_eq_succ {width : Text → Nat} {c : Char} {cs : Text} {n : Nat}
    (h : width (c :: cs) = n + 1) :
    pieces width (c :: cs) = .found ((c :: cs).take (n + 1)) :: pieces width (cs.drop n) := by
  rw [pieces, piecesFrom, h]
  simp [piecesFrom_eq_pieces_drop]

/-- Induction along the pieces of a text: a text is empty, or starts with a character that
stands alone, or with an occurrence. -/
@[elab_as_elim]
theorem alongPieces {P : Text → Prop} (width : Text → Nat) (nil : P [])
    (single : ∀ c cs, width (c :: cs) = 0 → P cs → P (c :: cs))
    (found : ∀ c cs n, width (c :: cs) = n + 1 → P (cs.drop n) → P (c :: cs)) (t : Text) :
    P t := by
  induction h : t.length using Nat.strongRecOn generalizing t with
  | ind length ih =>
    cases t with
    | nil => exact nil
    | cons c cs =>
      rcases hw : width (c :: cs) with _ | n
      · exact single c cs hw (ih cs.length (by rw [← h, List.length_cons]; omega) cs rfl)
      · exact found c cs n hw (ih (cs.drop n).length
          (by rw [← h, List.length_cons, List.length_drop]; omega) (cs.drop n) rfl)

theorem content_pieces (width : Text → Nat) (t : Text) :
    (pieces width t).flatMap Piece.content = t := by
  induction t using alongPieces width with
  | nil => rfl
  | single c cs hw ih =>
    rw [pieces_cons_of_width_eq_zero hw, List.flatMap_cons, ih]
    rfl
  | found c cs n hw ih =>
    rw [pieces_of_width_eq_succ hw, List.flatMap_cons, ih]
    exact List.take_append_drop (n + 1) (c :: cs)

/-- To replace every occurrence by itself changes nothing. -/
theorem replaceWith_id (width : Text → Nat) (t : Text) : replaceWith width id t = t := by
  unfold replaceWith
  have hcontent : (fun | .single c => [c] | .found s => id s) = Piece.content := by
    funext piece
    cases piece <;> rfl
  rw [hcontent, content_pieces]

theorem replaceWith_cons_of_width_eq_zero {width : Text → Nat} {c : Char} {cs : Text}
    (h : width (c :: cs) = 0) (f : Text → Text) :
    replaceWith width f (c :: cs) = c :: replaceWith width f cs := by
  unfold replaceWith
  rw [pieces_cons_of_width_eq_zero h]
  rfl

theorem replaceWith_of_width_eq_succ {width : Text → Nat} {c : Char} {cs : Text} {n : Nat}
    (h : width (c :: cs) = n + 1) (f : Text → Text) :
    replaceWith width f (c :: cs) =
      f ((c :: cs).take (n + 1)) ++ replaceWith width f (cs.drop n) := by
  unfold replaceWith
  rw [pieces_of_width_eq_succ h]
  rfl

theorem mem_of_mem_content {width : Text → Nat} {t : Text} {piece : Piece} {c : Char}
    (h : piece ∈ pieces width t) (hc : c ∈ piece.content) : c ∈ t := by
  rw [← content_pieces width t]
  exact List.mem_flatMap.2 ⟨piece, h, hc⟩

theorem found_mem_pieces_iff {width : Text → Nat} {t s : Text} :
    .found s ∈ pieces width t ↔ s ∈ occurrences width t := by
  unfold occurrences
  rw [List.mem_filterMap]
  constructor
  · intro h
    exact ⟨_, h, rfl⟩
  · rintro ⟨piece, hpiece, hs⟩
    cases piece with
    | single c => exact absurd hs (by simp [Piece.found?])
    | found u => rwa [← Option.some.inj hs]

theorem mem_of_mem_occurrences {width : Text → Nat} {t s : Text} {c : Char}
    (h : s ∈ occurrences width t) (hc : c ∈ s) : c ∈ t :=
  mem_of_mem_content (found_mem_pieces_iff.2 h) hc

/-- An occurrence is what the width says of some end of the text. -/
theorem exists_width_of_found_mem_pieces {width : Text → Nat} {t s : Text}
    (h : .found s ∈ pieces width t) : ∃ u n, width u = n + 1 ∧ s = u.take (n + 1) := by
  induction t using alongPieces width with
  | nil => exact absurd h List.not_mem_nil
  | single c cs hw ih =>
    rw [pieces_cons_of_width_eq_zero hw] at h
    rcases List.mem_cons.1 h with h | h
    · exact Piece.noConfusion h
    · exact ih h
  | found c cs n hw ih =>
    rw [pieces_of_width_eq_succ hw] at h
    rcases List.mem_cons.1 h with h | h
    · exact ⟨c :: cs, n, hw, Piece.found.inj h⟩
    · exact ih h

/-- To drop occurrences puts nothing into a text. -/
theorem mem_of_mem_replaceWith_nil {width : Text → Nat} {t : Text} {c : Char}
    (h : c ∈ replaceWith width (fun _ => []) t) : c ∈ t := by
  obtain ⟨piece, hpiece, hc⟩ := List.mem_flatMap.1 h
  cases piece with
  | single d => exact mem_of_mem_content hpiece hc
  | found u => exact absurd hc List.not_mem_nil

end MailMerge.Text
