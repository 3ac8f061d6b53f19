import MailMerge.Keyed
import MailMerge.Proofs.Misreading
import MailMerge.Template.Substitution
import Mathlib.Data.List.Infix
import Mathlib.Data.List.Nodup
import Mathlib.Data.List.Sublists
import Mathlib.Logic.Function.Basic

/-!
# The order of the caller's tokens

The tokens of a caller are replaced one after the other, each of them everywhere in a
text that holds the values of others already. Nothing says in which order the tokens
come, so one would expect that the order does not show.

The text is cut into the spellings of tokens and the characters between them. When
each spelling is met only where it was found, whichever other tokens have been replaced
before, then in every order the values come to stand in the places of their tokens. The
invariant of a run is that the tokens visited so far, and only those, have given way to
their values. In other texts the order shows: a value may spell another token, and two
tokens may share an ampersand.

Main facts:

* `replaceAll_filled_of_metInPlace`: a spelling gives way where it was found;
* `substitute_filled_of_metInPlace`: the run over the tokens, in any order;
* `substitute_eq_of_perm`: the order of the tokens does not show;
* `order_of_tokens_shows`: the texts in which it does.
-/

namespace MailMerge.Template

open Text

section Spellings

theorem plainToken_injective :
    Function.Injective plainToken := by
  intro a b h
  unfold plainToken at h
  exact List.append_cancel_left (List.append_cancel_right h)

theorem escapedToken_injective :
    Function.Injective escapedToken := by
  intro a b h
  unfold escapedToken at h
  exact List.append_cancel_left (List.append_cancel_right h)

theorem plainToken_eq
    (a : Text) :
    plainToken a = '&' :: ';' :: (a ++ ";&".toList) :=
  rfl

theorem escapedToken_eq
    (a : Text) :
    escapedToken a = '&' :: 'a' :: ("mp;;".toList ++ a ++ ";&amp;".toList) :=
  rfl

theorem plainToken_ne_escapedToken
    (a b : Text) :
    plainToken a ≠ escapedToken b := by
  intro h
  rw [plainToken_eq, escapedToken_eq] at h
  exact absurd (List.cons.inj (List.cons.inj h).2).1 (by decide)

theorem plainToken_ne_nil
    (a : Text) :
    plainToken a ≠ [] := by
  rw [plainToken_eq]
  exact List.cons_ne_nil _ _

theorem escapedToken_ne_nil
    (a : Text) :
    escapedToken a ≠ [] := by
  rw [escapedToken_eq]
  exact List.cons_ne_nil _ _

/-- Whether a text is one of the two spellings of a token. -/
def Spells (token p : Text) : Prop :=
  p = plainToken token ∨ p = escapedToken token

instance (token p : Text) : Decidable (Spells token p) :=
  inferInstanceAs (Decidable (_ ∨ _))

theorem Spells.unique
    {a b p : Text}
    (ha : Spells a p)
    (hb : Spells b p) :
    a = b := by
  rcases ha with rfl | rfl
  · rcases hb with h | h
    · exact plainToken_injective h
    · exact absurd h (plainToken_ne_escapedToken a b)
  · rcases hb with h | h
    · exact absurd h.symm (plainToken_ne_escapedToken b a)
    · exact escapedToken_injective h

end Spellings

section Tokens

variable (tokens : Dict Text Text)

/-- The entry whose token is spelled by a text. -/
def spelled? (p : Text) : Option (Text × Text) :=
  tokens.members.find? fun e => Spells e.1 p

/-- The width of a spelling at the head of a text. -/
def tokenWidth (t : Text) : Nat :=
  let spellings := tokens.members.flatMap fun e => [plainToken e.1, escapedToken e.1]
  ((spellings.find? fun p => startsWith p t).map List.length).getD 0

/-- What stands for a spelling after some tokens have been replaced. -/
def afterTokens (visited : List (Text × Text)) (p : Text) : Text :=
  match spelled? tokens p with
  | some e => if e ∈ visited then e.2 else p
  | none => p

/-- The text with the values in the places of their tokens. -/
def withValues (text : Text) : Text :=
  replaceWith (tokenWidth tokens) (fun p => ((spelled? tokens p).map Prod.snd).getD p) text

end Tokens

/-- A mark is met in a filled text only at the pieces that are this mark. -/
def MetInPlace (f : Text → Text) (mark : Text) : List Piece → Prop
  | [] => True
  | .single c :: ps => ¬ mark <+: c :: filled f ps ∧ MetInPlace f mark ps
  | .found p :: ps =>
    (p ≠ mark → ∀ u ∈ (f p).tails, u ≠ [] → ¬ mark <+: u ++ filled f ps) ∧ MetInPlace f mark ps

instance MetInPlace.decidable (f : Text → Text) (mark : Text) :
    ∀ ps, Decidable (MetInPlace f mark ps)
  | [] => isTrue trivial
  | .single c :: ps =>
    have := MetInPlace.decidable f mark ps
    inferInstanceAs (Decidable (¬ mark <+: c :: filled f ps ∧ MetInPlace f mark ps))
  | .found p :: ps =>
    have := MetInPlace.decidable f mark ps
    inferInstanceAs (Decidable ((p ≠ mark → ∀ u ∈ (f p).tails, u ≠ [] →
      ¬ mark <+: u ++ filled f ps) ∧ MetInPlace f mark ps))

/-- Whichever tokens have been replaced, another one is met only where it was found, in
the plain spelling first and then in the escaped one. -/
def TokensApart (tokens : Dict Text Text) (text : Text) : Prop :=
  ∀ visited ∈ tokens.members.sublists, ∀ e ∈ tokens.members, e ∉ visited →
    MetInPlace (afterTokens tokens visited) (plainToken e.1) (pieces (tokenWidth tokens) text) ∧
      MetInPlace (Function.update (afterTokens tokens visited) (plainToken e.1) e.2)
        (escapedToken e.1) (pieces (tokenWidth tokens) text)

instance (tokens : Dict Text Text) (text : Text) : Decidable (TokensApart tokens text) :=
  inferInstanceAs (Decidable (∀ visited ∈ tokens.members.sublists, _))

section Replacement

variable {mark new : Text}

/-- A mark that is met nowhere in the front of a text is replaced behind it. -/
theorem replaceAll_append_of_unmet
    (front : Text)
    {rest : Text}
    (h : ∀ u ∈ front.tails, u ≠ [] → ¬ mark <+: u ++ rest) :
    replaceAll mark new (front ++ rest) = front ++ replaceAll mark new rest := by
  induction front with
  | nil =>
      rfl
  | cons c front ih =>
      have hhead : ¬ mark <+: c :: (front ++ rest) :=
        h (c :: front) (by simp) (by simp)
      have htail : ∀ u ∈ front.tails, u ≠ [] → ¬ mark <+: u ++ rest := by
        intro u hu hne
        have hsuffix := ((List.mem_tails u front).1 hu).trans (List.suffix_cons c front)
        exact h u ((List.mem_tails u (c :: front)).2 hsuffix) hne
      rw [List.cons_append, replaceAll_cons_of_not_isPrefix hhead, ih htail]
      rfl

theorem replaceAll_filled_of_metInPlace
    {f : Text → Text}
    {ps : List Piece}
    (hmark : mark ≠ [])
    (hstands : f mark = mark)
    (h : MetInPlace f mark ps) :
    replaceAll mark new (filled f ps) = filled (Function.update f mark new) ps := by
  induction ps with
  | nil =>
      rfl
  | cons piece ps ih =>
      cases piece with
      | single c =>
          obtain ⟨hhere, hrest⟩ := h
          change replaceAll mark new (c :: filled f ps) = c :: filled _ ps
          rw [replaceAll_cons_of_not_isPrefix hhere, ih hrest]
      | found p =>
          obtain ⟨hhere, hrest⟩ := h
          change replaceAll mark new (f p ++ filled f ps) =
            Function.update f mark new p ++ filled _ ps
          by_cases hp : p = mark
          · rw [hp, hstands, Function.update_self, replaceAll_mark_append hmark, ih hrest]
          · rw [Function.update_of_ne hp, replaceAll_append_of_unmet (f p) (hhere hp), ih hrest]

end Replacement

section Runs

variable {tokens : Dict Text Text} {visited : List (Text × Text)} {e : Text × Text} {p : Text}

/-- An entry is told by each spelling of its token. -/
theorem spelled?_eq_some
    (he : e ∈ tokens.members)
    (hp : Spells e.1 p) :
    spelled? tokens p = some e := by
  refine tokens.find?_eq_some_of_key he (by simpa using hp) ?_
  intro e' _ hp'
  exact (of_decide_eq_true hp').unique hp

theorem spells_of_spelled?
    (h : spelled? tokens p = some e) :
    e ∈ tokens.members ∧ Spells e.1 p :=
  ⟨List.mem_of_find?_eq_some h, by simpa using List.find?_some h⟩

theorem afterTokens_congr
    {visited' : List (Text × Text)}
    (h : ∀ e, e ∈ visited ↔ e ∈ visited') :
    afterTokens tokens visited = afterTokens tokens visited' := by
  funext p
  simp only [afterTokens, h]

/-- A token that was not visited stands. -/
theorem afterTokens_of_spells
    (he : e ∈ tokens.members)
    (hp : Spells e.1 p)
    (hnew : e ∉ visited) :
    afterTokens tokens visited p = p := by
  unfold afterTokens
  rw [spelled?_eq_some he hp]
  exact if_neg hnew

/-- To visit one more token is to give its two spellings their value. -/
theorem update_afterTokens
    (he : e ∈ tokens.members) :
    Function.update (Function.update (afterTokens tokens visited) (plainToken e.1) e.2)
      (escapedToken e.1) e.2 = afterTokens tokens (visited ++ [e]) := by
  have hvisited : ∀ q, Spells e.1 q → afterTokens tokens (visited ++ [e]) q = e.2 := by
    intro q hq
    unfold afterTokens
    rw [spelled?_eq_some he hq]
    simp
  funext q
  by_cases hescaped : q = escapedToken e.1
  · rw [hescaped, Function.update_self, hvisited _ (.inr rfl)]
  · rw [Function.update_of_ne hescaped]
    by_cases hplain : q = plainToken e.1
    · rw [hplain, Function.update_self, hvisited _ (.inl rfl)]
    · rw [Function.update_of_ne hplain]
      unfold afterTokens
      rcases hq : spelled? tokens q with _ | e'
      · rfl
      · have hne : e' ≠ e := by
          rintro rfl
          exact (spells_of_spelled? hq).2.elim hplain hescaped
        simp [hne]

variable {ps : List Piece}

/-- One token more is replaced, in both spellings, where each of them is met only in its
place. -/
theorem substituteOne_filled
    (he : e ∈ tokens.members)
    (hnew : e ∉ visited)
    (hplain : MetInPlace (afterTokens tokens visited) (plainToken e.1) ps)
    (hescaped : MetInPlace (Function.update (afterTokens tokens visited) (plainToken e.1) e.2)
      (escapedToken e.1) ps) :
    substituteOne (filled (afterTokens tokens visited) ps) e =
      filled (afterTokens tokens (visited ++ [e])) ps := by
  have hstands : ∀ q, Spells e.1 q → afterTokens tokens visited q = q :=
    fun q hq => afterTokens_of_spells he hq hnew
  have hstill : Function.update (afterTokens tokens visited) (plainToken e.1) e.2
      (escapedToken e.1) = escapedToken e.1 := by
    rw [Function.update_of_ne (plainToken_ne_escapedToken _ _).symm, hstands _ (.inr rfl)]
  unfold substituteOne
  rw [replaceAll_filled_of_metInPlace (plainToken_ne_nil _) (hstands _ (.inl rfl)) hplain,
    replaceAll_filled_of_metInPlace (escapedToken_ne_nil _) hstill hescaped,
    update_afterTokens he]

/-- The run over tokens that are visited in any order: induction on those that have been
visited. -/
theorem substitute_filled_of_metInPlace
    (hmet : ∀ visited : List (Text × Text), (∀ e' ∈ visited, e' ∈ tokens.members) →
      ∀ e ∈ tokens.members, e ∉ visited →
        MetInPlace (afterTokens tokens visited) (plainToken e.1) ps ∧
          MetInPlace (Function.update (afterTokens tokens visited) (plainToken e.1) e.2)
            (escapedToken e.1) ps)
    (hvisited : ∀ e ∈ visited, e ∈ tokens.members)
    (hnodup : visited.Nodup) :
    substitute visited (filled id ps) = filled (afterTokens tokens visited) ps := by
  induction visited using List.reverseRecOn with
  | nil =>
      have hid : afterTokens tokens [] = id := by
        funext p
        unfold afterTokens
        split <;> simp
      rw [substitute_nil, hid]
  | append_singleton visited e ih =>
      have hbefore : ∀ e' ∈ visited, e' ∈ tokens.members :=
        fun e' he' => hvisited e' (List.mem_append_left _ he')
      have he : e ∈ tokens.members := hvisited e (by simp)
      obtain ⟨hnodup, -, hdisjoint⟩ := List.nodup_append.1 hnodup
      have hnew : e ∉ visited := fun h => hdisjoint e h e (by simp) rfl
      obtain ⟨hplain, hescaped⟩ := hmet visited hbefore e he hnew
      rw [substitute_append, ih hbefore hnodup]
      exact substituteOne_filled he hnew hplain hescaped

/-- In a text whose tokens are apart each spelling is met only in its place. The condition
speaks of the visited tokens in the order of the members. -/
theorem metInPlace_of_tokensApart
    {text : Text}
    (hapart : TokensApart tokens text)
    (visited : List (Text × Text))
    (hvisited : ∀ e' ∈ visited, e' ∈ tokens.members)
    (e : Text × Text)
    (he : e ∈ tokens.members)
    (hnew : e ∉ visited) :
    MetInPlace (afterTokens tokens visited) (plainToken e.1)
        (pieces (tokenWidth tokens) text) ∧
      MetInPlace (Function.update (afterTokens tokens visited) (plainToken e.1) e.2)
        (escapedToken e.1) (pieces (tokenWidth tokens) text) := by
  have hsame : ∀ e', e' ∈ tokens.members.filter (· ∈ visited) ↔ e' ∈ visited := by
    intro e'
    simp only [List.mem_filter, decide_eq_true_iff]
    exact ⟨And.right, fun h => ⟨hvisited e' h, h⟩⟩
  have hmet := hapart (tokens.members.filter (· ∈ visited))
    (List.mem_sublists.2 List.filter_sublist) e he (by rwa [hsame])
  rwa [afterTokens_congr hsame] at hmet

theorem substitute_filled
    {text : Text}
    (hapart : TokensApart tokens text)
    (hvisited : ∀ e ∈ visited, e ∈ tokens.members)
    (hnodup : visited.Nodup) :
    substitute visited text =
      filled (afterTokens tokens visited) (pieces (tokenWidth tokens) text) := by
  have htext : filled id (pieces (tokenWidth tokens) text) = text :=
    replaceWith_id (tokenWidth tokens) text
  rw [← substitute_filled_of_metInPlace (metInPlace_of_tokensApart hapart) hvisited hnodup, htext]

end Runs

/-- When each token of a caller is met only where the text shows it, whichever others have
been replaced before, it does not matter in which order the tokens are visited: any two
orders give the same text, in which each token has given way to its value where it was
found, in either spelling. -/
theorem substitute_eq_of_perm
    (tokens : Dict Text Text)
    (text : Text)
    (hapart : TokensApart tokens text)
    (es fs : List (Text × Text))
    (hes : es.Perm tokens.members)
    (hfs : fs.Perm tokens.members) :
    substitute es text = substitute fs text ∧ substitute es text = withValues tokens text := by
  have horder : ∀ gs : List (Text × Text), gs.Perm tokens.members →
      substitute gs text = withValues tokens text := by
    intro gs hgs
    have hnodup : gs.Nodup := hgs.nodup_iff.2 (List.Nodup.of_map _ tokens.nodup)
    rw [substitute_filled hapart (fun e he => hgs.mem_iff.1 he) hnodup]
    refine filled_congr fun p _ => ?_
    unfold afterTokens
    rcases hp : spelled? tokens p with _ | e
    · rfl
    · have he : e ∈ gs := hgs.mem_iff.2 (spells_of_spelled? hp).1
      simp [he]
  exact ⟨(horder es hes).trans (horder fs hfs).symm, horder es hes⟩

/-- The tokens of a caller, with values that hold ampersands. -/
def callerTokens : Dict Text Text :=
  Keyed.ofList [("name".toList, "Tom & Jerry".toList), ("code".toList, "a;b&".toList),
    ("note".toList, [])]

/-- A text that shows them in both spellings, among entities and a token of no one. -/
def callerText : Text :=
  "Dear &;name;&,&nbsp;&amp;;code;&amp; &; &;name;&&;note;&. &;who;&".toList

theorem substitute_callerTokens :
    let es := callerTokens.members.reverse
    es.Perm callerTokens.members ∧ TokensApart callerTokens callerText ∧
      substitute es callerText =
        "Dear Tom & Jerry,&nbsp;a;b& &; Tom & Jerry. &;who;&".toList := by
  intro es
  have hes : es.Perm callerTokens.members := List.reverse_perm _
  have hapart : TokensApart callerTokens callerText := by
    decide +kernel
  obtain ⟨-, hvalues⟩ :=
    substitute_eq_of_perm callerTokens callerText hapart es callerTokens.members hes (.refl _)
  refine ⟨hes, hapart, ?_⟩
  rw [hvalues]
  decide +kernel

/-- The order shows when a value spells another token, and when two tokens of a text share
an ampersand. -/
theorem order_of_tokens_shows :
    let nested := [("a".toList, "&;b;&".toList), ("b".toList, "x".toList)]
    let plain := [("a".toList, "x".toList), ("b".toList, "y".toList)]
    (nested.map Prod.fst).Nodup ∧ nested.reverse.Perm nested ∧
      substitute nested "&;a;&".toList = "x".toList ∧
      substitute nested.reverse "&;a;&".toList = "&;b;&".toList ∧
      (plain.map Prod.fst).Nodup ∧ plain.reverse.Perm plain ∧
      substitute plain "&;a;&;b;&".toList = "x;b;&".toList ∧
      substitute plain.reverse "&;a;&;b;&".toList = "&;a;y".toList := by
  intro nested plain
  exact ⟨by decide +kernel, List.reverse_perm nested, by decide +kernel, by decide +kernel,
    by decide +kernel, List.reverse_perm plain, by decide +kernel, by decide +kernel⟩

end MailMerge.Template
