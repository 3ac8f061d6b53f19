import MailMerge.Json.Written
import MailMerge.Proofs.Digits

/-!
# Tokens of written documents

A written document is read as the tokens that it was written from: marks, words,
strings and numbers. A string gives back its text, whatever is escaped in it. A word
or a number ends where a comma or a closing bracket follows, and nothing else follows
it in a written document.

Main facts:

* `Json.read?_quote`: a string is read as its text;
* `Json.number?_integer`: an integer is read up to its last digit;
* `Json.tokensFrom_write`: the tokens of a document, and those of what follows it.
-/

namespace MailMerge.Json

open Token Text

/-- What may follow a value inside of a document. -/
def Stops (rest : Text) : Prop :=
  ∀ c ∈ rest.head?, c = ',' ∨ c = ']' ∨ c = '\x7d'

/-- The number that an integer is read as. -/
def numberOf (n : Int) : Option Number :=
  Number.ofLiteral ⟨n < 0, natural n.natAbs, [], none⟩

mutual

/-- The tokens of a document. -/
def tokens : Json → List Token
  | null => [.null]
  | bool b => [.bool b]
  | integer n => [.number (numberOf n)]
  | text t => [.string t true]
  | array items => .openBracket :: tokensOfItems items ++ [.closeBracket]
  | object members => .openBrace :: tokensOfMembers members ++ [.closeBrace]

/-- The tokens of the items of a list. -/
def tokensOfItems : List Json → List Token
  | [] => []
  | [item] => tokens item
  | item :: rest => tokens item ++ .comma :: tokensOfItems rest

/-- The tokens of the members of an object. -/
def tokensOfMembers : List (Text × Json) → List Token
  | [] => []
  | [(name, value)] => .string name true :: .colon :: tokens value
  | (name, value) :: rest =>
    .string name true :: .colon :: tokens value ++ .comma :: tokensOfMembers rest

end

section Strings

variable {c : Char} {s t rest : Text}

/-- A unit of a string that spells a character, whatever units follow it. -/
def Spells (u : StringUnit) (c : Char) : Prop :=
  ∀ us, textOfUnits (u :: us) = (c :: (textOfUnits us).1, (textOfUnits us).2)

theorem spells_char
    (c : Char) :
    Spells (.char c) c :=
  fun _ => rfl

/-- A number below those of the surrogates spells its character. -/
theorem spells_code
    (h : c.toNat < 0xd800) :
    Spells (.code c.toNat) c := by
  have hlone : ¬(0xd800 ≤ c.toNat ∧ c.toNat < 0xe000) := by omega
  intro us
  rcases us with _ | ⟨_ | low, us⟩
  · simp [textOfUnits, hlone]
  · simp [textOfUnits, hlone]
  · have hpair : ¬(0xd800 ≤ c.toNat ∧ c.toNat < 0xdc00 ∧ 0xdc00 ≤ low ∧ low < 0xe000) := by
      omega
    simp [textOfUnits, hlone, hpair]

/-- The characters of a unit that has been taken are passed over. -/
theorem stringUnits_skip
    (s rest : Text) :
    stringUnits s.length (s ++ rest) =
      (stringUnits 0 rest).map fun r => (r.1, r.2 + s.length) := by
  induction s with
  | nil =>
      simp
  | cons c cs ih =>
      rw [List.cons_append, List.length_cons, stringUnits, ih, Option.map_map]
      rfl

/-- What is spelled behind a backslash is one unit. -/
theorem stringUnits_escaped
    {u : StringUnit}
    (h : escape? (s ++ rest) = some (u, s.length)) :
    stringUnits 0 ('\\' :: (s ++ rest)) =
      (stringUnits 0 rest).map fun r => (u :: r.1, r.2 + (s.length + 1)) := by
  rw [stringUnits, if_neg (by decide), if_pos rfl, h]
  dsimp only
  rw [stringUnits_skip, Option.map_map]
  rfl

theorem escape?_letter
    {e : Char}
    (hu : e ≠ 'u')
    (h : escaped? e = some c)
    (rest : Text) :
    escape? ([e] ++ rest) = some (.char c, [e].length) := by
  rw [List.singleton_append, escape?, if_neg hu, h]
  rfl

theorem escape?_code
    {n : Nat}
    (h : n < 16 ^ 4)
    (rest : Text) :
    escape? ('u' :: Uuid.hexDigits 4 n ++ rest) =
      some (.code n, ('u' :: Uuid.hexDigits 4 n).length) := by
  have hlength := Uuid.hexDigits_length 4 n
  have htake : (Uuid.hexDigits 4 n ++ rest).take 4 = Uuid.hexDigits 4 n :=
    List.take_left' hlength
  rw [List.cons_append, escape?, if_pos rfl, htake, if_pos hlength, Uuid.readHex?_hexDigits h,
    List.length_cons, hlength]
  rfl

/-- The characters with a letter of their own behind the backslash. -/
def lettered : List (Char × Char) :=
  [('\x22', '\x22'), ('\\', '\\'), ('\x08', 'b'), ('\x0c', 'f'), ('\n', 'n'), ('\r', 'r'),
    ('\t', 't')]

theorem escapeChar_of_mem_lettered :
    ∀ p ∈ lettered, p.2 ≠ 'u' ∧ escaped? p.2 = some p.1 ∧ escapeChar p.1 = ['\\', p.2] := by
  decide

theorem escapeChar_of_not_lettered
    (h : c ∉ lettered.map Prod.fst) :
    escapeChar c = if c.toNat < 32 then '\\' :: 'u' :: Uuid.hexDigits 4 c.toNat else [c] := by
  simp only [lettered, List.map_cons, List.map_nil, List.mem_cons, List.not_mem_nil, or_false,
    not_or] at h
  simp [escapeChar, h]

/-- A character that is not escaped stands for itself. -/
theorem stringUnits_plain
    (h : c ∉ lettered.map Prod.fst)
    (hc : ¬c.toNat < 32)
    (rest : Text) :
    stringUnits 0 ([c] ++ rest) =
      (stringUnits 0 rest).map fun r => (.char c :: r.1, r.2 + [c].length) := by
  have hquote : c ≠ '\x22' := by
    rintro rfl
    exact h (by decide)
  have hbackslash : c ≠ '\\' := by
    rintro rfl
    exact h (by decide)
  rw [List.singleton_append, stringUnits, if_neg hquote, if_neg hbackslash, if_neg hc]
  rfl

/-- A character is one unit of the string that it is written in. -/
theorem exists_unit
    (c : Char) :
    ∃ u, Spells u c ∧ ∀ rest, stringUnits 0 (escapeChar c ++ rest) =
      (stringUnits 0 rest).map fun r => (u :: r.1, r.2 + (escapeChar c).length) := by
  by_cases hmem : c ∈ lettered.map Prod.fst
  · obtain ⟨⟨_, e⟩, hp, rfl⟩ := List.mem_map.1 hmem
    obtain ⟨hu, he, hc⟩ := escapeChar_of_mem_lettered _ hp
    refine ⟨.char _, spells_char _, fun rest => ?_⟩
    rw [hc]
    exact stringUnits_escaped (escape?_letter hu he rest)
  · rw [escapeChar_of_not_lettered hmem]
    split
    · next hlow =>
      exact ⟨.code c.toNat, spells_code (by omega), fun rest =>
        stringUnits_escaped (escape?_code (by omega) rest)⟩
    · next hlow =>
      exact ⟨.char c, spells_char c, stringUnits_plain hmem hlow⟩

/-- A string is read as its text, up to its closing mark. -/
theorem exists_units
    (t rest : Text) :
    ∃ us, stringUnits 0 (escape t ++ '\x22' :: rest) = some (us, (escape t).length + 1) ∧
      textOfUnits us = (t, true) := by
  induction t with
  | nil =>
      exact ⟨[], rfl, rfl⟩
  | cons c cs ih =>
      obtain ⟨us, hus, hcs⟩ := ih
      obtain ⟨u, hu, hread⟩ := exists_unit c
      refine ⟨u :: us, ?_, ?_⟩
      · rw [escape, List.flatMap_cons, List.append_assoc, hread]
        change ((stringUnits 0 (escape cs ++ '\x22' :: rest)).map _) = _
        rw [hus, Option.map_some, List.length_append]
        change some (u :: us, (escape cs).length + 1 + (escapeChar c).length) =
          some (u :: us, (escapeChar c).length + (escape cs).length + 1)
        congr 2
        omega
      · rw [hu, hcs]

/-- A string is read as its text. -/
theorem read?_quote
    (t rest : Text) :
    read? (quote t ++ rest) = some (.string t true, (quote t).length) := by
  obtain ⟨us, hus, ht⟩ := exists_units t rest
  have hquote : quote t ++ rest = '\x22' :: (escape t ++ '\x22' :: rest) := by
    simp [quote]
  have hlength : (quote t).length = (escape t).length + 1 + 1 := by
    simp [quote]
  rw [hquote, hlength]
  change (string? (escape t ++ '\x22' :: rest)).map _ = _
  rw [string?, hus]
  simp [ht]

end Strings

section Numbers

variable {c : Char} {s rest : Text}

theorem Stops.noDigitAhead
    (h : Stops rest) :
    NoDigitAhead rest := by
  intro c hc
  rcases h c hc with rfl | rfl | rfl <;> rfl

theorem Stops.places?_eq
    (h : Stops rest) :
    places? rest = some ([], 0) := by
  cases rest with
  | nil =>
      rfl
  | cons c cs =>
      rcases h c rfl with rfl | rfl | rfl <;> rfl

theorem Stops.exponent?_eq
    (h : Stops rest) :
    exponent? rest = some (none, 0) := by
  cases rest with
  | nil =>
      rfl
  | cons c cs =>
      rcases h c rfl with rfl | rfl | rfl <;> rfl

/-- The digits of a number have no zero in front of others. -/
theorem length_natural_of_head?
    {n : Nat}
    (h : (natural n).head? = some '0') :
    (natural n).length = 1 := by
  rw [eq_zero_of_head?_natural h, natural]
  rfl

/-- The token of an unsigned number at the head of a text, as the part of a number that
has a sign in front. -/
def numberBehindSign (negative : Bool) (signWidth : Nat) (t : Text) : Option (Token × Nat) :=
  let whole := t.takeWhile isDigit
  if whole.isEmpty ∨ (whole.head? = some '0' ∧ whole.length ≠ 1) then none
  else do
    let rest := t.drop whole.length
    let (places, placesWidth) ← places? rest
    let (exponent, exponentWidth) ← exponent? (rest.drop placesWidth)
    let width := signWidth + whole.length + placesWidth + exponentWidth
    return (number (Number.ofLiteral ⟨negative, whole, places, exponent⟩), width)

theorem number?_minus
    (t : Text) :
    number? ('-' :: t) = numberBehindSign true 1 t :=
  rfl

theorem number?_of_isDigit
    (h : isDigit c = true)
    (t : Text) :
    number? (c :: t) = numberBehindSign false 0 (c :: t) := by
  have hminus : c ≠ '-' := ne_of_isDigit h rfl
  unfold number?
  split
  · next heq =>
    split at heq
    · next hcons =>
      exact absurd (List.cons.inj hcons).1 hminus
    · cases heq
      rfl

/-- Behind its sign a number is read up to its last digit. -/
theorem numberBehindSign_natural
    (negative : Bool)
    (signWidth n : Nat)
    (h : Stops rest) :
    numberBehindSign negative signWidth (natural n ++ rest) =
      some (.number (Number.ofLiteral ⟨negative, natural n, [], none⟩),
        signWidth + (natural n).length) := by
  have hwhole : (natural n ++ rest).takeWhile isDigit = natural n :=
    takeWhile_digits (digits_natural n) h.noDigitAhead
  have hshape : ¬((natural n).isEmpty = true ∨
      ((natural n).head? = some '0' ∧ (natural n).length ≠ 1)) := by
    rintro (hempty | ⟨hzero, hlength⟩)
    · exact natural_ne_nil n (List.isEmpty_iff.1 hempty)
    · exact hlength (length_natural_of_head? hzero)
  unfold numberBehindSign
  dsimp only
  rw [hwhole, if_neg hshape, List.drop_left, h.places?_eq]
  change ((exponent? rest).bind _) = _
  rw [h.exponent?_eq]
  rfl

/-- An integer is read up to its last digit. -/
theorem number?_integer
    (n : Int)
    (h : Stops rest) :
    number? (Text.integer n ++ rest) = some (.number (numberOf n), (Text.integer n).length) := by
  cases n with
  | ofNat m =>
      obtain ⟨d, ds, hdigits, hd⟩ := exists_cons_of_digits (digits_natural m) (natural_ne_nil m)
      have hread := numberBehindSign_natural false 0 m h
      rw [hdigits, List.cons_append, ← number?_of_isDigit hd, ← List.cons_append, ← hdigits,
        Nat.zero_add] at hread
      exact hread
  | negSucc m =>
      have hread := numberBehindSign_natural true 1 (m + 1) h
      have hnumber : numberOf (.negSucc m) =
          Number.ofLiteral ⟨true, natural (m + 1), [], none⟩ := by
        unfold numberOf
        rw [decide_eq_true (Int.negSucc_lt_zero m)]
        rfl
      rw [← number?_minus, Nat.add_comm 1] at hread
      rw [hnumber]
      exact hread

/-- A digit is none of some other characters. -/
theorem ne_of_mem_others
    {others : List Char}
    (h : isDigit c = true)
    (hothers : others.any isDigit = false) :
    ∀ x ∈ others, c ≠ x := by
  intro x hx
  have hx' := List.any_eq_false.1 hothers x hx
  exact ne_of_isDigit h (Bool.eq_false_iff.2 hx')

/-- What starts with a digit or a minus sign is read as a number. -/
theorem read?_eq_number?
    (h : isDigit c = true ∨ c = '-')
    (t : Text) :
    read? (c :: t) = number? (c :: t) := by
  have hne : ∀ x ∈ ['[', ']', '\x7b', '\x7d', ',', ':', '\x22', 'n', 't', 'f'], c ≠ x := by
    rcases h with hdigit | rfl
    · exact ne_of_mem_others hdigit (by decide)
    · simp
  simp only [List.mem_cons, List.not_mem_nil, or_false, forall_eq_or_imp, forall_eq] at hne
  simp [read?, hne]

theorem integer_eq_cons
    (n : Int) :
    ∃ c cs, Text.integer n = c :: cs ∧ (isDigit c = true ∨ c = '-') := by
  cases n with
  | ofNat m =>
      obtain ⟨c, cs, hdigits, hc⟩ := exists_cons_of_digits (digits_natural m) (natural_ne_nil m)
      exact ⟨c, cs, hdigits, Or.inl hc⟩
  | negSucc m =>
      exact ⟨'-', natural (m + 1), rfl, Or.inr rfl⟩

end Numbers

section Documents

variable {rest : Text}

theorem tokensFrom_skip
    (s rest : Text) :
    tokensFrom s.length (s ++ rest) = tokensFrom 0 rest := by
  induction s with
  | nil =>
      rfl
  | cons c cs ih =>
      exact ih

/-- A token that is read at the head of a text is listed before those behind it. -/
theorem tokensFrom_of_read?
    {w : Text}
    {token : Token}
    (hspace : ∀ c ∈ w.head?, isSpace c = false)
    (hread : read? (w ++ rest) = some (token, w.length))
    (hne : w ≠ []) :
    tokensFrom 0 (w ++ rest) = token :: tokensFrom 0 rest := by
  cases w with
  | nil =>
      exact absurd rfl hne
  | cons c cs =>
      rw [List.cons_append, tokensFrom, if_neg (by simp [hspace c rfl]), ← List.cons_append, hread]
      exact congrArg _ (tokensFrom_skip cs rest)

theorem tokensFrom_quote
    (t rest : Text) :
    tokensFrom 0 (quote t ++ rest) = .string t true :: tokensFrom 0 rest :=
  tokensFrom_of_read? (by simp [quote, isSpace]) (read?_quote t rest) (List.cons_ne_nil _ _)

theorem tokensFrom_integer
    (n : Int)
    (h : Stops rest) :
    tokensFrom 0 (Text.integer n ++ rest) = .number (numberOf n) :: tokensFrom 0 rest := by
  have hread := number?_integer n h
  obtain ⟨c, cs, hn, hc⟩ := integer_eq_cons n
  have hspace : isSpace c = false := by
    rcases hc with hdigit | rfl
    · have hne : ∀ x ∈ [' ', '\n', '\t', '\r'], c ≠ x := ne_of_mem_others hdigit (by decide)
      simp only [List.mem_cons, List.not_mem_nil, or_false, forall_eq_or_imp, forall_eq] at hne
      simp [isSpace, hne]
    · rfl
  rw [hn] at hread ⊢
  apply tokensFrom_of_read? _ ((read?_eq_number? hc _).trans hread) (List.cons_ne_nil _ _)
  simp [hspace]

theorem stops_nil :
    Stops [] := by
  simp [Stops]

theorem stops_cons
    {c : Char}
    (h : c = ',' ∨ c = ']' ∨ c = '\x7d')
    (t : Text) :
    Stops (c :: t) := by
  simpa [Stops] using h

theorem writeItems_cons_cons
    (item next : Json)
    (items : List Json) :
    writeItems (item :: next :: items) = write item ++ ',' :: writeItems (next :: items) :=
  rfl

theorem tokensOfItems_cons_cons
    (item next : Json)
    (items : List Json) :
    tokensOfItems (item :: next :: items) =
      tokens item ++ .comma :: tokensOfItems (next :: items) :=
  rfl

theorem writeMembers_cons_cons
    (name : Text)
    (value : Json)
    (next : Text × Json)
    (members : List (Text × Json)) :
    writeMembers ((name, value) :: next :: members) =
      quote name ++ ':' :: write value ++ ',' :: writeMembers (next :: members) :=
  rfl

theorem tokensOfMembers_cons_cons
    (name : Text)
    (value : Json)
    (next : Text × Json)
    (members : List (Text × Json)) :
    tokensOfMembers ((name, value) :: next :: members) =
      .string name true :: .colon :: tokens value ++ .comma :: tokensOfMembers (next :: members) :=
  rfl

/-- A comma is a token by itself. -/
theorem tokensFrom_comma
    (t : Text) :
    tokensFrom 0 (',' :: t) = .comma :: tokensFrom 0 t :=
  rfl

/-- A name and a colon are the tokens in front of the value of a member. -/
theorem tokensFrom_name
    (name t : Text) :
    tokensFrom 0 (quote name ++ ':' :: t) = .string name true :: .colon :: tokensFrom 0 t := by
  rw [tokensFrom_quote]
  rfl

mutual

/-- The tokens of a written document stand before those of what follows it. -/
theorem tokensFrom_write
    (j : Json)
    {rest : Text}
    (h : Stops rest) :
    tokensFrom 0 (write j ++ rest) = j.tokens ++ tokensFrom 0 rest := by
  cases j with
  | null =>
      rfl
  | bool b =>
      cases b <;> rfl
  | integer n =>
      exact tokensFrom_integer n h
  | text t =>
      exact tokensFrom_quote t rest
  | array items =>
      have hitems := tokensFrom_writeItems items (stops_cons (Or.inr (Or.inl rfl)) rest)
      rw [write, tokens, List.append_assoc, List.append_assoc]
      change .openBracket :: tokensFrom 0 (writeItems items ++ ']' :: rest) = _
      rw [hitems]
      rfl
  | object members =>
      have hmembers := tokensFrom_writeMembers members (stops_cons (Or.inr (Or.inr rfl)) rest)
      rw [write, tokens, List.append_assoc, List.append_assoc]
      change .openBrace :: tokensFrom 0 (writeMembers members ++ '\x7d' :: rest) = _
      rw [hmembers]
      rfl

theorem tokensFrom_writeItems
    (items : List Json)
    {rest : Text}
    (h : Stops rest) :
    tokensFrom 0 (writeItems items ++ rest) = tokensOfItems items ++ tokensFrom 0 rest := by
  match items with
  | [] =>
      rfl
  | [item] =>
      exact tokensFrom_write item h
  | item :: next :: items =>
      have hitems := tokensFrom_writeItems (next :: items) h
      rw [writeItems_cons_cons, tokensOfItems_cons_cons, List.append_assoc, List.cons_append,
        tokensFrom_write item (stops_cons (Or.inl rfl) _), tokensFrom_comma, hitems,
        List.append_assoc, List.cons_append]

theorem tokensFrom_writeMembers
    (members : List (Text × Json))
    {rest : Text}
    (h : Stops rest) :
    tokensFrom 0 (writeMembers members ++ rest) =
      tokensOfMembers members ++ tokensFrom 0 rest := by
  match members with
  | [] =>
      rfl
  | [(name, value)] =>
      rw [writeMembers, tokensOfMembers, List.append_assoc, List.cons_append, tokensFrom_name,
        tokensFrom_write value h]
      rfl
  | (name, value) :: next :: members =>
      have hmembers := tokensFrom_writeMembers (next :: members) h
      rw [writeMembers_cons_cons, tokensOfMembers_cons_cons]
      simp only [List.append_assoc, List.cons_append]
      rw [tokensFrom_name, tokensFrom_write value (stops_cons (Or.inl rfl) _), tokensFrom_comma,
        hmembers]

end

/-- The tokens of a written document. -/
theorem tokens_write
    (j : Json) :
    Token.tokens (write j) = j.tokens := by
  have htokens := tokensFrom_write j stops_nil
  rwa [List.append_nil, show tokensFrom 0 [] = [] from rfl, List.append_nil] at htokens

end Documents

end MailMerge.Json
