import MailMerge.Proofs.TokenOrder

/-!
# Texts laid out around tokens

A layout is a text that is cut into the spellings of tokens and the literal texts around
them. A literal text opens no spelling: it is *calm*, that is, holds neither `&;` nor `;;`,
and behind a spelling it is *quiet*, that is, does not start with `;` either. Single
ampersands and semicolons are welcome, so entities of markup are. The values that are to
stand in the places of the tokens are quiet as well.

The two spellings share their characters, and a text that is partly filled joins values,
literal text and spellings in any way. The plain spelling opens with `&;`, the escaped one
with `&amp;;`. Neither can come about at a seam: behind a seam no text starts with `;`, and
no two semicolons come before the first ampersand. A text behind a seam is *shut* when this
holds of it. So a spelling is met only where it was laid out, and the tokens are replaced
all at once, in whichever order they are visited.

Main facts:

* `Shut.append`, `shut_spelling_append`: what stands behind a seam is shut;
* `Shut.unmet`, `Shut.unmet_spelling`: in front of a shut text a spelling is met nowhere
  but in its own place;
* `TokenLayout.metInPlace_pieces`: so it is in a layout that is partly filled;
* `substitute_text`: the tokens of a layout give way to their values.
-/

namespace MailMerge.Template

open Text

section Characters

variable {α : Type}

/-- A letter that stands once in a word tells where the word is cut. -/
theorem eq_of_append_cons_isPrefix
    {a : α} {k l x y : List α}
    (hk : a ∉ k)
    (hl : a ∉ l)
    (h : k ++ a :: x <+: l ++ a :: y) :
    k = l := by
  induction k generalizing l with
  | nil =>
      cases l with
      | nil => rfl
      | cons b l =>
          rw [(List.cons_prefix_cons.1 h).1] at hl
          exact absurd List.mem_cons_self hl
  | cons b k ih =>
      rw [List.mem_cons, not_or] at hk
      cases l with
      | nil => exact absurd (List.cons_prefix_cons.1 h).1.symm hk.1
      | cons c l =>
          obtain ⟨rfl, htail⟩ := List.cons_prefix_cons.1 h
          rw [ih hk.2 (fun hmem => hl (List.mem_cons_of_mem _ hmem)) htail]

/-- Of the ends of a word, one alone starts with a letter that stands in it once. -/
theorem eq_of_cons_isSuffix
    {a : α} {m z u : List α}
    (hm : a ∉ m)
    (hz : a ∉ z)
    (h : a :: u <:+ m ++ a :: z) :
    u = z := by
  induction m with
  | nil =>
      rcases List.suffix_cons_iff.1 h with h | h
      · exact (List.cons.inj h).2
      · exact absurd (h.subset List.mem_cons_self) hz
  | cons b m ih =>
      rw [List.mem_cons, not_or] at hm
      rcases List.suffix_cons_iff.1 h with h | h
      · exact absurd (List.cons.inj h).1 hm.1
      · exact ih hm.2 h

end Characters

/-- What stands behind the ampersands of a spelling. -/
def ampersandTail (escaped : Bool) : Text :=
  if escaped then "amp;".toList else []

/-- One of the two spellings of a token. -/
def spelling (escaped : Bool) (token : Text) : Text :=
  if escaped then escapedToken token else plainToken token

/-- A token without the characters that its spellings are made of. -/
def IsToken (token : Text) : Prop :=
  '&' ∉ token ∧ ';' ∉ token

/-- A text that opens no spelling. -/
def Calm (t : Text) : Prop :=
  ¬ "&;".toList <:+: t ∧ ¬ ";;".toList <:+: t

/-- A text that opens no spelling, nor completes the opening of one in front of it. -/
def Quiet (t : Text) : Prop :=
  Calm t ∧ t.head? ≠ some ';'

/-- A text that completes the opening of no spelling in front of it: it does not start with a
semicolon, and no two semicolons come before its first ampersand. -/
def Shut (t : Text) : Prop :=
  t.head? ≠ some ';' ∧ ∀ x, '&' ∉ x → ¬ x ++ ";;".toList <+: t

instance (token : Text) : Decidable (IsToken token) :=
  inferInstanceAs (Decidable (_ ∧ _))

instance (t : Text) : Decidable (Calm t) :=
  inferInstanceAs (Decidable (_ ∧ _))

instance (t : Text) : Decidable (Quiet t) :=
  inferInstanceAs (Decidable (_ ∧ _))

section Spellings

variable {escaped : Bool} {token : Text}

theorem spelling_eq
    (escaped : Bool) (token : Text) :
    spelling escaped token = '&' :: (ampersandTail escaped ++ ';' ::
      (token ++ ';' :: '&' :: ampersandTail escaped)) := by
  cases escaped
  · exact List.append_assoc "&;".toList token ";&".toList
  · exact List.append_assoc "&amp;;".toList token ";&amp;".toList

theorem spells_spelling
    (escaped : Bool) (token : Text) :
    Spells token (spelling escaped token) := by
  cases escaped
  · exact .inl rfl
  · exact .inr rfl

theorem not_mem_ampersandTail
    (escaped : Bool) :
    '&' ∉ ampersandTail escaped := by
  cases escaped <;> decide

/-- Behind its first ampersand a spelling goes on with the rest of its opening. -/
theorem opening_of_spelling_isPrefix
    {t : Text}
    (h : spelling escaped token <+: '&' :: t) :
    ampersandTail escaped ++ [';'] <+: t := by
  rw [spelling_eq] at h
  refine List.IsPrefix.trans ?_ (List.cons_prefix_cons.1 h).2
  exact ⟨token ++ ';' :: '&' :: ampersandTail escaped, by simp⟩

/-- A spelling with which another one starts is that one. -/
theorem spelling_eq_of_isPrefix
    {escaped' : Bool} {token' rest : Text}
    (htoken : IsToken token)
    (htoken' : IsToken token')
    (h : spelling escaped token <+: spelling escaped' token' ++ rest) :
    spelling escaped token = spelling escaped' token' := by
  simp only [spelling_eq, List.cons_append, List.append_assoc] at h
  have h := (List.cons_prefix_cons.1 h).2
  have hsame : ∀ e, ampersandTail e ++ ';' :: (token ++ ';' :: '&' :: ampersandTail e) <+:
      ampersandTail e ++ ';' :: (token' ++ ';' :: ('&' :: (ampersandTail e ++ rest))) →
        token = token' := by
    intro e he
    have he := (List.cons_prefix_cons.1 ((List.prefix_append_right_inj _).1 he)).2
    exact eq_of_append_cons_isPrefix htoken.2 htoken'.2 he
  cases escaped <;> cases escaped'
  · rw [hsame false h]
  · -- the openings differ in the character behind the ampersand
    exact absurd (List.cons_prefix_cons.1 h).1 (by decide)
  · exact absurd (List.cons_prefix_cons.1 h).1 (by decide)
  · rw [hsame true h]

end Spellings

section Seams

variable {w rest : Text}

theorem Calm.of_isSuffix
    {u : Text}
    (hw : Calm w)
    (h : u <:+ w) :
    Calm u :=
  ⟨fun hu => hw.1 (hu.trans h.isInfix), fun hu => hw.2 (hu.trans h.isInfix)⟩

/-- Two semicolons do not come about at the end of a calm text: induction on that text. -/
theorem Shut.not_isPrefix_append
    (hrest : Shut rest)
    (hw : Calm w)
    {x : Text}
    (hx : '&' ∉ x) :
    ¬ x ++ ";;".toList <+: w ++ rest := by
  induction w generalizing x with
  | nil =>
      exact hrest.2 x hx
  | cons c w ih =>
      intro h
      cases x with
      | nil =>
          have hpair : ';' :: [';'] <+: c :: (w ++ rest) := h
          obtain ⟨rfl, hlast⟩ := List.cons_prefix_cons.1 hpair
          cases w with
          | nil =>
              obtain ⟨u, rfl⟩ := hlast
              exact hrest.1 rfl
          | cons d w =>
              obtain ⟨rfl, -⟩ := List.cons_prefix_cons.1 hlast
              exact hw.2 (List.IsPrefix.isInfix ⟨w, rfl⟩)
      | cons a x =>
          obtain ⟨-, h⟩ := List.cons_prefix_cons.1 h
          exact ih (hw.of_isSuffix (List.suffix_cons c w))
            (fun hmem => hx (List.mem_cons_of_mem a hmem)) h

theorem shut_nil :
    Shut [] := by
  refine ⟨by simp, ?_⟩
  intro x _ h
  simpa using List.prefix_nil.1 h

theorem Shut.append
    (hrest : Shut rest)
    (hw : Quiet w) :
    Shut (w ++ rest) := by
  refine ⟨?_, fun x hx => hrest.not_isPrefix_append hw.1 hx⟩
  cases w with
  | nil => exact hrest.1
  | cons c w => exact hw.2

theorem shut_spelling_append
    (escaped : Bool) (token rest : Text) :
    Shut (spelling escaped token ++ rest) := by
  rw [spelling_eq]
  refine ⟨by simp, ?_⟩
  rintro (_ | ⟨a, x⟩) hx h
  · exact absurd (List.cons_prefix_cons.1 h).1 (by decide)
  · rw [(List.cons_prefix_cons.1 h).1] at hx
    exact hx List.mem_cons_self

/-- A shut text does not go on with the opening of a spelling. -/
theorem Shut.not_opening_isPrefix
    (hrest : Shut rest)
    (escaped : Bool) :
    ¬ ampersandTail escaped ++ [';'] <+: rest := by
  intro h
  cases escaped
  · obtain ⟨u, rfl⟩ := h
    exact hrest.1 rfl
  · exact hrest.2 "amp".toList (by decide) h

variable {escaped : Bool} {token : Text}

/-- No spelling is met in a calm text in front of a shut one. -/
theorem Shut.unmet
    (hrest : Shut rest)
    (hw : Calm w) :
    ∀ u ∈ w.tails, u ≠ [] → ¬ spelling escaped token <+: u ++ rest := by
  rintro (_ | ⟨c, u⟩) hu hne h
  · exact hne rfl
  · have hend := (List.mem_tails _ _).1 hu
    have hcalm : Calm u := hw.of_isSuffix ((List.suffix_cons c u).trans hend)
    have hc : '&' = c := by
      rw [spelling_eq] at h
      exact (List.cons_prefix_cons.1 h).1
    subst hc
    have hopen := opening_of_spelling_isPrefix h
    cases escaped
    · cases u with
      | nil => exact hrest.not_opening_isPrefix false hopen
      | cons d u =>
          obtain ⟨rfl, -⟩ := List.cons_prefix_cons.1 hopen
          exact (hw.of_isSuffix hend).1 (List.IsPrefix.isInfix ⟨u, rfl⟩)
    · exact hrest.not_isPrefix_append hcalm (by decide : '&' ∉ "amp".toList) hopen

/-- In a spelling in front of a shut text no other one is met: it would start with one of the
two ampersands. -/
theorem Shut.unmet_spelling
    (hrest : Shut rest)
    {escaped' : Bool} {token' : Text}
    (htoken : IsToken token)
    (htoken' : IsToken token')
    (hne : spelling escaped' token' ≠ spelling escaped token) :
    ∀ u ∈ (spelling escaped' token').tails, u ≠ [] →
      ¬ spelling escaped token <+: u ++ rest := by
  rintro (_ | ⟨c, u⟩) hu hnil h
  · exact hnil rfl
  · have hc : '&' = c := by
      rw [spelling_eq] at h
      exact (List.cons_prefix_cons.1 h).1
    subst hc
    have hend := (List.mem_tails _ _).1 hu
    rw [spelling_eq escaped' token'] at hend
    rcases List.suffix_cons_iff.1 hend with hwhole | hlast
    · rw [hwhole, ← spelling_eq] at h
      exact hne (spelling_eq_of_isPrefix htoken htoken' h).symm
    · -- the second ampersand: what follows it is the tail of the spelling and the shut text
      have hlast : '&' :: u <:+ (ampersandTail escaped' ++ ';' :: (token' ++ [';'])) ++
          '&' :: ampersandTail escaped' := by
        simpa using hlast
      have hmiddle : '&' ∉ ampersandTail escaped' ++ ';' :: (token' ++ [';']) := by
        simp [not_mem_ampersandTail, htoken'.1]
      obtain rfl := eq_of_cons_isSuffix hmiddle (not_mem_ampersandTail escaped') hlast
      have hopen := opening_of_spelling_isPrefix h
      cases escaped <;> cases escaped'
      · exact hrest.not_opening_isPrefix false hopen
      · exact absurd (List.cons_prefix_cons.1 hopen).1 (by decide)
      · exact hrest.not_opening_isPrefix true hopen
      · have hopen : "amp;".toList ++ [';'] <+: "amp;".toList ++ rest := hopen
        exact hrest.not_opening_isPrefix false ((List.prefix_append_right_inj _).1 hopen)

end Seams

/-- A spelling that stands in a text, and the literal text behind it. -/
structure Spot where
  escaped : Bool
  token : Text
  behind : Text
  isToken : IsToken token
  quiet : Quiet behind

namespace Spot

/-- The text of the spelling. -/
def spelling (s : Spot) : Text :=
  Template.spelling s.escaped s.token

/-- The spelling as one piece, before the characters behind it. -/
def pieces (s : Spot) : List Piece :=
  .found s.spelling :: s.behind.map .single

end Spot

/-- A text that is cut into spellings of tokens and literal texts. -/
structure TokenLayout where
  front : Text
  spots : List Spot
  calm : Calm front

namespace TokenLayout

/-- The text with something in the place of each spelling. -/
def fill (t : TokenLayout) (f : Spot → Text) : Text :=
  t.front ++ t.spots.flatMap fun s => f s ++ s.behind

/-- The text itself. -/
def text (t : TokenLayout) : Text :=
  t.fill Spot.spelling

/-- The text as pieces. -/
def pieces (t : TokenLayout) : List Piece :=
  t.front.map .single ++ t.spots.flatMap Spot.pieces

end TokenLayout

/-- What is put into the places of spellings is quiet; other spellings stand. -/
def QuietFilling (f : Text → Text) : Prop :=
  ∀ p, f p = p ∨ Quiet (f p)

section Filled

variable {f : Text → Text} {ps : List Piece}

theorem filled_map_single_append
    (w : Text) :
    filled f (w.map .single ++ ps) = w ++ filled f ps := by
  induction w with
  | nil => rfl
  | cons c w ih => exact congrArg (c :: ·) ih

theorem filled_pieces_append
    (s : Spot) :
    filled f (s.pieces ++ ps) = f s.spelling ++ (s.behind ++ filled f ps) := by
  change f s.spelling ++ filled f (s.behind.map .single ++ ps) = _
  rw [filled_map_single_append]

/-- What is put in the place of a spelling shuts the text off from what is before it. -/
theorem QuietFilling.shut
    (hf : QuietFilling f)
    (s : Spot)
    {rest : Text}
    (hrest : Shut rest) :
    Shut (f s.spelling ++ rest) := by
  rcases hf s.spelling with hstands | hquiet
  · rw [hstands]
    exact shut_spelling_append s.escaped s.token rest
  · exact hrest.append hquiet

theorem QuietFilling.update
    (hf : QuietFilling f)
    {p v : Text}
    (hv : Quiet v) :
    QuietFilling (Function.update f p v) := by
  intro q
  by_cases hq : q = p
  · rw [hq, Function.update_self]
    exact .inr hv
  · rw [Function.update_of_ne hq]
    exact hf q

variable {escaped : Bool} {token : Text}

theorem metInPlace_map_single_append
    {w : Text}
    (hw : Calm w)
    (hrest : Shut (filled f ps))
    (hmet : MetInPlace f (spelling escaped token) ps) :
    MetInPlace f (spelling escaped token) (w.map .single ++ ps) := by
  induction w with
  | nil => exact hmet
  | cons c w ih =>
      refine ⟨?_, ih (hw.of_isSuffix (List.suffix_cons c w))⟩
      rw [List.append_eq, filled_map_single_append]
      exact hrest.unmet hw (c :: w) ((List.mem_tails _ _).2 List.suffix_rfl) (List.cons_ne_nil c w)

/-- From spot to spot, what stands behind it is shut, and so the spelling is met in no place
but its own. -/
theorem QuietFilling.metInPlace_spots
    (hf : QuietFilling f)
    (htoken : IsToken token)
    (spots : List Spot) :
    Shut (filled f (spots.flatMap Spot.pieces)) ∧
      MetInPlace f (spelling escaped token) (spots.flatMap Spot.pieces) := by
  induction spots with
  | nil => exact ⟨shut_nil, trivial⟩
  | cons s spots ih =>
      obtain ⟨hshut, hmet⟩ := ih
      have hbehind : Shut (s.behind ++ filled f (spots.flatMap Spot.pieces)) :=
        hshut.append s.quiet
      rw [List.flatMap_cons]
      constructor
      · rw [filled_pieces_append]
        exact hf.shut s hbehind
      · refine ⟨?_, metInPlace_map_single_append s.quiet.1 hshut hmet⟩
        intro hne
        rw [List.append_eq, filled_map_single_append]
        rcases hf s.spelling with hstands | hquiet
        · rw [hstands]
          exact hbehind.unmet_spelling htoken s.isToken hne
        · exact hbehind.unmet hquiet.1

theorem TokenLayout.metInPlace_pieces
    (t : TokenLayout)
    (escaped : Bool)
    (hf : QuietFilling f)
    (htoken : IsToken token) :
    MetInPlace f (spelling escaped token) t.pieces := by
  obtain ⟨hshut, hmet⟩ := hf.metInPlace_spots htoken t.spots
  exact metInPlace_map_single_append t.calm hshut hmet

theorem TokenLayout.filled_pieces
    (t : TokenLayout)
    (f : Text → Text) :
    filled f t.pieces = t.fill fun s => f s.spelling := by
  have hspots : ∀ spots : List Spot, filled f (spots.flatMap Spot.pieces) =
      spots.flatMap fun s => f s.spelling ++ s.behind := by
    intro spots
    induction spots with
    | nil => rfl
    | cons s spots ih =>
        rw [List.flatMap_cons, filled_pieces_append, ih, List.flatMap_cons, List.append_assoc]
  unfold pieces fill
  rw [filled_map_single_append, hspots]

end Filled

section Runs

variable {tokens : Dict Text Text}

theorem quietFilling_afterTokens
    (hvalues : ∀ e ∈ tokens.members, Quiet e.2)
    (visited : List (Text × Text)) :
    QuietFilling (afterTokens tokens visited) := by
  intro p
  unfold afterTokens
  rcases hp : spelled? tokens p with _ | e
  · exact .inl rfl
  · dsimp only
    split
    · exact .inr (hvalues e (spells_of_spelled? hp).1)
    · exact .inl rfl

/-- A spelling tells its token. -/
theorem spelled?_spelling
    (escaped : Bool) (token : Text) :
    spelled? tokens (spelling escaped token) = tokens.find? token := by
  have hspells : ∀ e : Text × Text, Spells e.1 (spelling escaped token) ↔ e.1 = token := by
    intro e
    constructor
    · exact fun he => he.unique (spells_spelling escaped token)
    · rintro rfl
      exact spells_spelling escaped e.1
  simp only [spelled?, hspells, Keyed.find?]

/-- When all tokens have been visited, a spelling stands only if its token is no one's. -/
theorem afterTokens_spelling
    {es : List (Text × Text)}
    (hes : es.Perm tokens.members)
    (escaped : Bool) (token : Text) :
    afterTokens tokens es (spelling escaped token) =
      (tokens.get? token).getD (spelling escaped token) := by
  unfold afterTokens Dict.get?
  rw [spelled?_spelling]
  rcases hfind : tokens.find? token with _ | e
  · rfl
  · exact if_pos (hes.mem_iff.2 (List.mem_of_find?_eq_some hfind))

end Runs

/-- The tokens of a layout are replaced all at once: in whichever order they are visited,
each spelling gives way to the value of its token, in its place, and a token without a value
stands. -/
theorem substitute_text
    (tokens : Dict Text Text)
    (htokens : ∀ e ∈ tokens.members, IsToken e.1 ∧ Quiet e.2)
    (t : TokenLayout)
    (es : List (Text × Text))
    (hes : es.Perm tokens.members) :
    substitute es t.text = t.fill fun s => (tokens.get? s.token).getD s.spelling := by
  have hquiet : ∀ visited, QuietFilling (afterTokens tokens visited) :=
    quietFilling_afterTokens fun e he => (htokens e he).2
  have hmet : ∀ visited : List (Text × Text), (∀ e' ∈ visited, e' ∈ tokens.members) →
      ∀ e ∈ tokens.members, e ∉ visited →
        MetInPlace (afterTokens tokens visited) (plainToken e.1) t.pieces ∧
          MetInPlace (Function.update (afterTokens tokens visited) (plainToken e.1) e.2)
            (escapedToken e.1) t.pieces := by
    intro visited _ e he _
    obtain ⟨htoken, hvalue⟩ := htokens e he
    exact ⟨t.metInPlace_pieces false (hquiet visited) htoken,
      t.metInPlace_pieces true ((hquiet visited).update hvalue) htoken⟩
  have hmembers : ∀ e ∈ es, e ∈ tokens.members := fun e he => hes.mem_iff.1 he
  have hnodup : es.Nodup := hes.nodup_iff.2 (List.Nodup.of_map _ tokens.nodup)
  calc substitute es t.text
      = substitute es (filled id t.pieces) := by rw [t.filled_pieces]; rfl
    _ = filled (afterTokens tokens es) t.pieces :=
        substitute_filled_of_metInPlace hmet hmembers hnodup
    _ = t.fill fun s => afterTokens tokens es s.spelling := t.filled_pieces _
    _ = t.fill fun s => (tokens.get? s.token).getD s.spelling := by
        congr 1
        funext s
        exact afterTokens_spelling hes s.escaped s.token

/-- Tokens whose values hold pieces of the spellings. -/
def letterTokens : Dict Text Text :=
  Keyed.ofList [("name".toList, "Tom &amp; Jerry;".toList), ("and".toList, "&amp".toList),
    ("none".toList, []), ("amp".toList, "&".toList)]

/-- A text in which their spellings follow each other, among entities and before a token of no
one. -/
def letterLayout : TokenLayout where
  front := ";Dear&nbsp;".toList
  spots :=
    [⟨false, "name".toList, [], by decide, by decide⟩,
     ⟨true, "and".toList, [], by decide, by decide⟩,
     ⟨true, "none".toList, [], by decide, by decide⟩,
     ⟨false, "amp".toList, "&lt;".toList, by decide, by decide⟩,
     ⟨true, "who".toList, "amp;".toList, by decide, by decide⟩]
  calm := by decide

theorem substitute_letterLayout :
    let es := letterTokens.members.reverse
    (∀ e ∈ letterTokens.members, IsToken e.1 ∧ Quiet e.2) ∧ es.Perm letterTokens.members ∧
      letterLayout.text =
        ";Dear&nbsp;&;name;&&amp;;and;&amp;&amp;;none;&amp;&;amp;&&lt;&amp;;who;&amp;amp;".toList ∧
      substitute es letterLayout.text =
        ";Dear&nbsp;Tom &amp; Jerry;&amp&&lt;&amp;;who;&amp;amp;".toList := by
  intro es
  have htokens : ∀ e ∈ letterTokens.members, IsToken e.1 ∧ Quiet e.2 := by
    decide +kernel
  have hes : es.Perm letterTokens.members := List.reverse_perm _
  refine ⟨htokens, hes, by decide +kernel, ?_⟩
  rw [substitute_text letterTokens htokens letterLayout es hes]
  decide +kernel

end MailMerge.Template
