/-!
# Texts

A text is a list of characters. This module holds the character classes and
the small operations that the rest of the library is built from: blanks in
the sense of the Unicode property White_Space, trimming, comparison up to the
case of ASCII letters, and cutting at a mark.

Main facts:

* `dropMark?_append`: a mark in front of a text can be taken off again;
* `append_of_dropMark?`: what is taken off was there;
* `splitAtMark_append`: cutting at a mark loses nothing;
* `intercalate_fields`: the fields, with the separator between them, are the
  text again;
* `fields_eq_iff`: the fields of a text are told by how it is made of them;
* `before_append_cons`, `behindLast_append_cons`: what a separator cuts off;
* `trim_trim`: what is trimmed has no blanks left at its ends.
-/

namespace MailMerge

/-- A text is a list of characters. -/
abbrev Text := List Char

namespace Text

/-- Two texts are equal when their characters are. -/
instance lawfulBEq : LawfulBEq Text := inferInstance

/-- The code points with the Unicode property White_Space. -/
def isBlank (c : Char) : Bool :=
  let n := c.toNat
  (9 ≤ n && n ≤ 13) || n == 32 || n == 0x85 || n == 0xa0 || n == 0x1680
    || (0x2000 ≤ n && n ≤ 0x200a) || n == 0x2028 || n == 0x2029 || n == 0x202f
    || n == 0x205f || n == 0x3000

/-- A text of blanks only; the empty text is blank. -/
def blank (t : Text) : Bool :=
  t.all isBlank

/-- The text without the blanks at its start. -/
def trimStart (t : Text) : Text :=
  t.dropWhile isBlank

/-- The text without the characters of a class at its end. -/
def dropEndWhile (p : Char → Bool) (t : Text) : Text :=
  (t.reverse.dropWhile p).reverse

/-- The text without the blanks at its end. -/
def trimEnd (t : Text) : Text :=
  dropEndWhile isBlank t

/-- The text without the blanks at both ends. -/
def trim (t : Text) : Text :=
  trimEnd (trimStart t)

/-- The text with its ASCII capitals turned into small letters. -/
def lower (t : Text) : Text :=
  t.map Char.toLower

/-- Equality of texts up to the case of ASCII letters. -/
def sameLetters (a b : Text) : Bool :=
  lower a == lower b

/-- What follows a mark, if the text starts with it. -/
def dropMark? : Text → Text → Option Text
  | [], t => some t
  | _ :: _, [] => none
  | m :: ms, c :: cs => if m = c then dropMark? ms cs else none

/-- Whether a text starts with a mark. -/
def startsWith (mark t : Text) : Bool :=
  (dropMark? mark t).isSome

/-- The text without a byte order mark at its start. -/
def withoutOrderMark (t : Text) : Text :=
  (dropMark? ['\ufeff'] t).getD t

/-- A text cut at the first occurrence of a mark: what stands before it and
what stands behind it. -/
def splitAtMark (mark : Text) : Text → Option (Text × Text)
  | [] => (dropMark? mark []).map fun rest => ([], rest)
  | c :: cs =>
    match dropMark? mark (c :: cs) with
    | some rest => some ([], rest)
    | none => (splitAtMark mark cs).map fun (before, rest) => (c :: before, rest)

/-- The text after all copies of a mark that it starts with, while `skip`
characters of the copy at hand are still to be passed over. -/
def dropMarksFrom (mark : Text) : Nat → Text → Text
  | _, [] => []
  | skip + 1, _ :: cs => dropMarksFrom mark skip cs
  | 0, c :: cs =>
    if startsWith mark (c :: cs) then dropMarksFrom mark (mark.length - 1) cs else c :: cs

/-- The text after all copies of a non-empty mark that it starts with. -/
def dropMarks (mark t : Text) : Text :=
  dropMarksFrom mark 0 t

/-- What stands before the first `sep`, or the whole text when there is none. -/
def before (sep : Char) (t : Text) : Text :=
  t.takeWhile (· ≠ sep)

/-- What stands behind the last `sep`, or the whole text when there is none. -/
def behindLast (sep : Char) (t : Text) : Text :=
  (t.reverse.takeWhile (· ≠ sep)).reverse

/-- The fields of a text between separators; there is one more field than there
are separators. -/
def fields (sep : Char) : Text → List Text
  | [] => [[]]
  | c :: cs =>
    if c = sep then [] :: fields sep cs
    else
      match fields sep cs with
      | [] => [[c]]
      | f :: fs => (c :: f) :: fs

/-- The value of a decimal digit. -/
def digit? (c : Char) : Option Nat :=
  if '0' ≤ c ∧ c ≤ '9' then some (c.toNat - 48) else none

/-- Whether a character is a decimal digit. -/
def isDigit (c : Char) : Bool :=
  (digit? c).isSome

/-- The number that decimal digits stand for; other characters are passed over. -/
def digitsValue (t : Text) : Nat :=
  (t.filterMap digit?).foldl (fun n d => 10 * n + d) 0

/-- The decimal digit of a number below ten. -/
def digitChar (d : Nat) : Char :=
  Char.ofNat (48 + d)

/-- The last `width` decimal digits of a number, with zeros in front. -/
def padded : Nat → Nat → Text
  | 0, _ => []
  | width + 1, n => padded width (n / 10) ++ [digitChar (n % 10)]

/-- A number in decimal digits. -/
def natural (n : Nat) : Text :=
  if n < 10 then [digitChar n] else natural (n / 10) ++ [digitChar (n % 10)]

/-- An integer in decimal digits, with a minus sign when it is negative. -/
def integer : Int → Text
  | .ofNat n => natural n
  | .negSucc n => '-' :: natural (n + 1)

theorem fields_ne_nil (sep : Char) (t : Text) : fields sep t ≠ [] := by
  cases t with
  | nil => simp [fields]
  | cons c cs =>
    unfold fields
    split
    · simp
    · split <;> simp

theorem intercalate_fields (sep : Char) (t : Text) : [sep].intercalate (fields sep t) = t := by
  induction t with
  | nil => rfl
  | cons c cs ih =>
    by_cases h : c = sep
    · subst h
      simp only [fields, if_true]
      rcases hf : fields c cs with _ | ⟨f, fs⟩
      · exact absurd hf (fields_ne_nil c cs)
      · rw [hf] at ih
        rw [← ih]
        cases fs <;> simp [List.intercalate, List.intersperse]
    · simp only [fields, h, if_false]
      rcases hf : fields sep cs with _ | ⟨f, fs⟩
      · exact absurd hf (fields_ne_nil sep cs)
      · rw [hf] at ih
        rw [← ih]
        cases fs <;> simp [List.intercalate, List.intersperse]

theorem not_mem_of_mem_fields {sep : Char} {t f : Text} (h : f ∈ fields sep t) : sep ∉ f := by
  induction t generalizing f with
  | nil =>
    rw [fields, List.mem_singleton] at h
    simp [h]
  | cons c cs ih =>
    unfold fields at h
    split at h
    · rcases List.mem_cons.1 h with rfl | h
      · exact List.not_mem_nil
      · exact ih h
    · next hc =>
      rcases hfs : fields sep cs with _ | ⟨g, gs⟩
      · exact absurd hfs (fields_ne_nil sep cs)
      · rw [hfs] at h ih
        rcases List.mem_cons.1 h with rfl | h
        · rw [List.mem_cons, not_or]
          exact ⟨fun hsep => hc hsep.symm, ih List.mem_cons_self⟩
        · exact ih (List.mem_cons_of_mem _ h)

/-- The first field is what stands before the first separator. -/
theorem head?_fields (sep : Char) (t : Text) : (fields sep t).head? = some (before sep t) := by
  induction t with
  | nil => rfl
  | cons c cs ih =>
    by_cases hc : c = sep
    · simp [fields, before, hc]
    · rcases hfs : fields sep cs with _ | ⟨g, gs⟩
      · exact absurd hfs (fields_ne_nil sep cs)
      · rw [hfs] at ih
        have hg : g = before sep cs := Option.some.inj ih
        simp [fields, before, hc, hfs, hg]

theorem sublist_of_mem_fields {sep : Char} {t f : Text} (h : f ∈ fields sep t) : f.Sublist t := by
  induction t generalizing f with
  | nil =>
    rw [fields, List.mem_singleton] at h
    exact h ▸ List.nil_sublist []
  | cons d ds ih =>
    unfold fields at h
    split at h
    · rcases List.mem_cons.1 h with rfl | h
      · exact List.nil_sublist _
      · exact (ih h).cons d
    · rcases hfs : fields sep ds with _ | ⟨g, gs⟩
      · exact absurd hfs (fields_ne_nil sep ds)
      · rw [hfs] at h ih
        rcases List.mem_cons.1 h with rfl | h
        · exact (ih List.mem_cons_self).cons_cons d
        · exact (ih (List.mem_cons_of_mem _ h)).cons d

theorem fields_of_not_mem {sep : Char} {t : Text} (h : sep ∉ t) : fields sep t = [t] := by
  induction t with
  | nil => rfl
  | cons c cs ih =>
    rw [List.mem_cons, not_or] at h
    have hc : c ≠ sep := fun hc => h.1 hc.symm
    simp [fields, hc, ih h.2]

/-- The first field of a text ends at the first separator. -/
theorem fields_append_cons {sep : Char} {s : Text} (h : sep ∉ s) (t : Text) :
    fields sep (s ++ sep :: t) = s :: fields sep t := by
  induction s with
  | nil => simp [fields]
  | cons c cs ih =>
    rw [List.mem_cons, not_or] at h
    have hc : c ≠ sep := fun hc => h.1 hc.symm
    rw [List.cons_append, fields, if_neg hc, ih h.2]

theorem fields_intercalate {sep : Char} {fs : List Text} (hne : fs ≠ [])
    (h : ∀ f ∈ fs, sep ∉ f) : fields sep ([sep].intercalate fs) = fs := by
  induction fs with
  | nil => exact absurd rfl hne
  | cons f fs ih =>
    have hf := h f List.mem_cons_self
    cases fs with
    | nil => rw [List.intercalate_singleton, fields_of_not_mem hf]
    | cons g gs =>
      have hrest := ih (List.cons_ne_nil g gs) fun u hu => h u (List.mem_cons_of_mem _ hu)
      rw [List.intercalate_cons_cons, List.append_assoc, List.singleton_append,
        fields_append_cons hf, hrest]

/-- A text has some fields exactly when it is made of them with the separator between
them, and none of them holds the separator. -/
theorem fields_eq_iff {sep : Char} {t : Text} {fs : List Text} (hne : fs ≠ []) :
    fields sep t = fs ↔ t = [sep].intercalate fs ∧ ∀ f ∈ fs, sep ∉ f := by
  constructor
  · rintro rfl
    exact ⟨(intercalate_fields sep t).symm, fun f hf => not_mem_of_mem_fields hf⟩
  · rintro ⟨rfl, h⟩
    exact fields_intercalate hne h

theorem before_append_cons {sep : Char} {s : Text} (h : sep ∉ s) (t : Text) :
    before sep (s ++ sep :: t) = s := by
  have hs : ∀ c ∈ s, decide (c ≠ sep) = true :=
    fun c hc => decide_eq_true fun heq => h (heq ▸ hc)
  unfold before
  rw [List.takeWhile_append_of_pos hs]
  simp

theorem not_mem_before (sep : Char) (t : Text) : sep ∉ before sep t := by
  have hfirst := List.mem_of_head? (head?_fields sep t)
  exact not_mem_of_mem_fields hfirst

theorem before_of_not_mem {sep : Char} {t : Text} (h : sep ∉ t) : before sep t = t := by
  have hfirst := head?_fields sep t
  rw [fields_of_not_mem h, List.head?_cons] at hfirst
  exact (Option.some.inj hfirst).symm

theorem behindLast_of_not_mem {sep : Char} {t : Text} (h : sep ∉ t) : behindLast sep t = t := by
  have hbefore := before_of_not_mem fun hmem => h (List.mem_reverse.1 hmem)
  unfold before at hbefore
  rw [behindLast, hbefore, List.reverse_reverse]

theorem behindLast_append_cons {sep : Char} {t : Text} (h : sep ∉ t) (s : Text) :
    behindLast sep (s ++ sep :: t) = t := by
  have hrev : (s ++ sep :: t).reverse = t.reverse ++ sep :: s.reverse := by simp
  have hbefore := before_append_cons (fun hmem => h (List.mem_reverse.1 hmem)) s.reverse
  unfold before at hbefore
  unfold behindLast
  rw [hrev, hbefore, List.reverse_reverse]

theorem trim_sublist (t : Text) : (trim t).Sublist t := by
  have hend : (trim t).Sublist (trimStart t) := by
    rw [← List.reverse_sublist]
    unfold trim trimEnd dropEndWhile
    rw [List.reverse_reverse]
    exact List.dropWhile_sublist isBlank
  exact hend.trans (List.dropWhile_sublist isBlank)

theorem mem_of_mem_trim {t : Text} {c : Char} (h : c ∈ trim t) : c ∈ t :=
  (trim_sublist t).subset h

theorem dropEndWhile_isPrefix (p : Char → Bool) (t : Text) : dropEndWhile p t <+: t := by
  rw [← List.reverse_suffix]
  unfold dropEndWhile
  rw [List.reverse_reverse]
  exact List.dropWhile_suffix p

/-- Nothing is trimmed of a text that has no blank at either end. -/
theorem trim_eq_self {t : Text} (hfront : ∀ c ∈ t.head?, isBlank c = false)
    (hbehind : ∀ c ∈ t.getLast?, isBlank c = false) : trim t = t := by
  have hdrop : ∀ u : Text, (∀ c ∈ u.head?, isBlank c = false) → u.dropWhile isBlank = u := by
    intro u hu
    cases u with
    | nil => rfl
    | cons c cs => rw [List.dropWhile_cons_of_neg (by simp [hu c rfl])]
  unfold trim trimEnd dropEndWhile trimStart
  rw [hdrop t hfront, hdrop t.reverse (by rwa [List.head?_reverse]), List.reverse_reverse]

theorem trim_trim (t : Text) : trim (trim t) = trim t := by
  have hhead : ∀ u : Text, ∀ c ∈ (u.dropWhile isBlank).head?, isBlank c = false := by
    intro u c hc
    have hfirst := List.head?_dropWhile_not isBlank u
    rw [Option.mem_def.1 hc] at hfirst
    exact hfirst
  apply trim_eq_self
  · intro c hc
    obtain ⟨cs, hcs⟩ := List.head?_eq_some_iff.1 hc
    obtain ⟨rest, hrest⟩ := dropEndWhile_isPrefix isBlank (trimStart t)
    apply hhead t c
    show c ∈ (trimStart t).head?
    rw [← hrest]
    show c ∈ (trim t ++ rest).head?
    rw [hcs]
    rfl
  · intro c hc
    unfold trim trimEnd dropEndWhile at hc
    rw [List.getLast?_reverse] at hc
    exact hhead _ c hc

theorem dropMark?_append (mark t : Text) : dropMark? mark (mark ++ t) = some t := by
  induction mark with
  | nil => rfl
  | cons m ms ih => simp [dropMark?, ih]

theorem append_of_dropMark? {mark t rest : Text} (h : dropMark? mark t = some rest) :
    t = mark ++ rest := by
  induction mark generalizing t with
  | nil => simpa [dropMark?] using h
  | cons m ms ih =>
    cases t with
    | nil => simp [dropMark?] at h
    | cons c cs =>
      by_cases hc : m = c
      · subst hc
        simp only [dropMark?, if_true] at h
        simp [ih h]
      · simp [dropMark?, hc] at h

theorem startsWith_iff_isPrefix {mark t : Text} : startsWith mark t = true ↔ mark <+: t := by
  unfold startsWith
  constructor
  · intro h
    obtain ⟨rest, hrest⟩ := Option.isSome_iff_exists.1 h
    exact ⟨rest, (append_of_dropMark? hrest).symm⟩
  · rintro ⟨rest, rfl⟩
    rw [dropMark?_append]
    rfl

theorem splitAtMark_append {mark t front rest : Text}
    (h : splitAtMark mark t = some (front, rest)) : t = front ++ mark ++ rest := by
  induction t generalizing front with
  | nil =>
    obtain ⟨r, hr, he⟩ := Option.map_eq_some_iff.1 h
    cases he
    simpa using append_of_dropMark? hr
  | cons c cs ih =>
    unfold splitAtMark at h
    split at h
    · next r hr =>
      cases h
      simpa using append_of_dropMark? hr
    · obtain ⟨⟨b, r⟩, hb, he⟩ := Option.map_eq_some_iff.1 h
      cases he
      simp [ih hb]

end Text

end MailMerge
