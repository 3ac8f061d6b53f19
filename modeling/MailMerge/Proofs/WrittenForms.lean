import MailMerge.Proofs.Stamps
import MailMerge.Proofs.Storage
import MailMerge.Proofs.WrittenTree

/-!
# Decoders of written documents

A decoder reads a value from the document that was written for it. For plain values
this is a matter of their text; lists, objects with any names and objects of a fixed
shape are read when each of their parts is.

Main facts:

* `Json.numberOf_eq`: an integer of 64 bits is read as itself;
* `Json.reads_list`, `Json.reads_dict`: lists and dictionaries;
* `Json.Shape.Collects.cons`, `Json.Shape.Collects.reads`: objects of a fixed shape, one
  member after the other.
-/

namespace MailMerge.Json

open Decode

variable {α β δ ε : Type}

/-- A decoder reads a value from a document inside of a number of lists and objects. -/
def Reads (d : Decoder α) (depth : Nat) (j : Json) (a : α) : Prop :=
  d depth j.node = .ok a

section Numbers

theorem absorb_cons
    {n d : Nat}
    {c : Char}
    (hc : Text.digit? c = some d)
    (hfits : 10 * n + d < 2 ^ 64)
    (t : Text) :
    Number.absorb n (c :: t) = Number.absorb (10 * n + d) t := by
  rw [Number.absorb, hc]
  exact if_pos hfits

theorem absorb_append
    {n m : Nat}
    {s : Text}
    (h : Number.absorb n s = (m, []))
    (t : Text) :
    Number.absorb n (s ++ t) = Number.absorb m t := by
  induction s generalizing n with
  | nil =>
      rw [(Prod.mk.inj h).1]
      rfl
  | cons c cs ih =>
      rw [Number.absorb] at h
      split at h
      · exact absurd (Prod.mk.inj h).2 (List.cons_ne_nil _ _)
      · next d hd =>
        split at h
        · next hfits =>
          rw [List.cons_append, absorb_cons hd hfits, ih h]
        · exact absurd (Prod.mk.inj h).2 (List.cons_ne_nil _ _)

/-- The digits of a number of 64 bits are all taken in. -/
theorem absorb_natural
    {n : Nat}
    (h : n < 2 ^ 64) :
    Number.absorb 0 (Text.natural n) = (n, []) := by
  have hlast : ∀ m d : Nat, d < 10 → 10 * m + d < 2 ^ 64 →
      Number.absorb m [Text.digitChar d] = (10 * m + d, []) :=
    fun m d hd hfits => absorb_cons (Text.digit?_digitChar hd) hfits []
  fun_induction Text.natural n with
  | case1 n hn =>
      simpa using hlast 0 n hn (by omega)
  | case2 n hn ih =>
      have hquotient : 10 * (n / 10) + n % 10 = n := by omega
      rw [absorb_append (ih (by omega)), hlast _ _ (by omega) (by omega), hquotient]

/-- An integer of 64 bits, with a sign or without one, is read as itself. -/
theorem numberOf_eq
    {n : Int}
    (hleast : -2 ^ 63 ≤ n)
    (hmost : n < 2 ^ 64) :
    numberOf n = some (.integer n) := by
  have habsorb : Number.absorb 0 (Text.natural n.natAbs) = (n.natAbs, []) :=
    absorb_natural (by omega)
  unfold numberOf Number.ofLiteral
  dsimp only
  rw [habsorb, Number.absorb_nil]
  by_cases hn : n < 0
  · have hsize : 0 < n.natAbs ∧ n.natAbs ≤ Nat.pow 2 63 :=
      ⟨by omega, by change n.natAbs ≤ 2 ^ 63; omega⟩
    simp only [hn, decide_true, ne_eq, not_true_eq_false, or_self, if_false, if_pos hsize]
    congr 2
    omega
  · simp only [hn, decide_false, ne_eq, not_true_eq_false, or_self, if_false,
      Bool.false_eq_true, not_false_eq_true, if_true]
    congr 2
    omega

theorem reads_integer
    {n : Int}
    (hleast : -2 ^ 63 ≤ n)
    (hmost : n < 2 ^ 64)
    (depth : Nat) :
    Reads Decode.integer depth (.integer n) n := by
  unfold Reads node
  rw [numberOf_eq hleast hmost]
  rfl

end Numbers

section Plain

variable {d : Decoder α} {depth : Nat} {j : Json} {a : α}

theorem reads_text
    (depth : Nat)
    (t : Text) :
    Reads Decode.text depth (.text t) t :=
  rfl

theorem reads_bool
    (depth : Nat)
    (b : Bool) :
    Reads Decode.bool depth (.bool b) b :=
  rfl

theorem reads_nullable_text
    (depth : Nat)
    (t : Text) :
    Reads (nullable Decode.text) depth (.text t) (some t) :=
  rfl

/-- What wraps a value is read when the value is. -/
theorem reads_map
    (h : Reads d depth j a)
    (f : α → β) :
    Reads (fun depth node => f <$> d depth node) depth j (f a) := by
  unfold Reads at h ⊢
  dsimp only
  rw [h]
  rfl

/-- A value that is made from another one, where that is possible. -/
theorem reads_checked
    {f : α → Option β}
    {b : β}
    (h : Reads d depth j a)
    (hf : f a = some b) :
    Reads (checked d f) depth j b := by
  unfold Reads at h ⊢
  simp only [checked, h, bind, Except.bind, hf]

theorem reads_int64
    (depth : Nat)
    (n : Int64) :
    Reads int64 depth (.integer n.toInt) n := by
  have hleast := n.le_toInt
  have hmost := n.toInt_lt
  apply reads_checked (reads_integer (by omega) (by omega) depth)
  rw [if_pos (by omega), Int64.ofInt_toInt]

theorem reads_int32
    (depth : Nat)
    (n : Int32) :
    Reads int32 depth (.integer n.toInt) n := by
  have hleast := n.le_toInt
  have hmost := n.toInt_lt
  apply reads_checked (reads_integer (by omega) (by omega) depth)
  rw [if_pos (by omega), Int32.ofInt_toInt]

theorem reads_uuid
    (depth : Nat)
    (u : Uuid) :
    Reads uuid depth (ofUuid u) u :=
  reads_checked (reads_text depth u.text) u.read?_text

theorem reads_instant
    (depth : Nat)
    (t : Calendar.Instant) :
    Reads instant depth (.text t.stamp) t.told :=
  reads_checked (reads_text depth t.stamp) t.ofStamp?_stamp

/-- A variant that has nothing more to it is read by its name. -/
theorem reads_variant_alone
    {alone : Text → Option α}
    {content : Text → Option (Decoder α)}
    {name : Text}
    (h : alone name = some a)
    (depth : Nat) :
    Reads (variant alone content) depth (.text name) a := by
  unfold Reads variant node
  dsimp only
  rw [h]

theorem reads_plainVariant
    {alone : Text → Option α}
    {name : Text}
    (h : alone name = some a)
    (depth : Nat) :
    Reads (plainVariant alone) depth (.text name) a := by
  unfold plainVariant
  exact reads_variant_alone h depth

/-- A variant that has something more to it is read by its one member. -/
theorem reads_variant_content
    {alone : Text → Option α}
    {content : Text → Option (Decoder α)}
    {name : Text}
    (h : content name = some d)
    (hread : Reads d (depth + 1) j a) :
    Reads (variant alone content) depth (.object [(name, j)]) a := by
  unfold Reads at hread ⊢
  unfold variant node memberNodes
  dsimp only
  rw [if_pos rfl, h]
  dsimp only
  rw [hread]
  rfl

end Plain

section Collections

variable {d : Decoder β} {depth : Nat} {f : α → Json} {g : α → β}

theorem each_nodes
    {as : List α}
    (h : ∀ a ∈ as, Reads d depth (f a) (g a)) :
    each d depth (nodes (as.map f)) = .ok (as.map g) := by
  induction as with
  | nil =>
      rfl
  | cons a as ih =>
      have hfirst : d depth (f a).node = .ok (g a) := h a List.mem_cons_self
      have hrest := ih fun b hb => h b (List.mem_cons_of_mem _ hb)
      rw [List.map_cons, nodes_cons, each, hfirst, hrest]
      rfl

/-- A list is read when its items are, as the list of what they are read as. -/
theorem reads_map_list
    {as : List α}
    (h : ∀ a ∈ as, Reads d (depth + 1) (f a) (g a)) :
    Reads (list d) depth (.array (as.map f)) (as.map g) := by
  unfold Reads list node
  dsimp only
  rw [each_nodes h]
  rfl

theorem reads_list
    {d : Decoder α}
    {as : List α}
    (h : ∀ a ∈ as, Reads d (depth + 1) (f a) a) :
    Reads (list d) depth (.array (as.map f)) as := by
  have hlist := reads_map_list (g := id) h
  rwa [List.map_id] at hlist

/-- The members that are read come behind those that were there. -/
theorem exists_eachMember
    {done : Dict Text β}
    {members : List (Text × α)}
    (hnodup : (done.members.map Prod.fst ++ members.map Prod.fst).Nodup)
    (h : ∀ member ∈ members, Reads d depth (f member.2) (g member.2)) :
    ∃ result, result.members = done.members ++ members.map (fun (name, a) => (name, g a)) ∧
      eachMember d depth done (memberNodes (members.map fun (name, a) => (name, f a))) =
        .ok result := by
  induction members generalizing done with
  | nil =>
      exact ⟨done, (List.append_nil _).symm, rfl⟩
  | cons member members ih =>
      obtain ⟨name, a⟩ := member
      have hread : d depth (f a).node = .ok (g a) := h (name, a) List.mem_cons_self
      have hplace : (done.set name (g a)).members = done.members ++ [(name, g a)] := by
        apply place_of_find?_eq_none
        rw [List.nodup_append] at hnodup
        rw [List.find?_eq_none]
        intro member hmember hname
        exact hnodup.2.2 _ (List.mem_map_of_mem hmember) name List.mem_cons_self
          (of_decide_eq_true hname)
      have hnames : ((done.set name (g a)).members.map Prod.fst ++ members.map Prod.fst).Nodup := by
        rwa [hplace, List.map_append, List.append_assoc]
      obtain ⟨result, hresult, hrest⟩ := ih hnames fun m hm => h m (List.mem_cons_of_mem _ hm)
      refine ⟨result, ?_, ?_⟩
      · rw [hresult, hplace, List.append_assoc]
        rfl
      · rw [List.map_cons, memberNodes_cons, eachMember, if_pos rfl, hread]
        exact hrest

/-- A dictionary is read, in its order, when its values are. -/
theorem reads_map_dict
    {values : Dict Text α}
    (h : ∀ member ∈ values.members, Reads d (depth + 1) (f member.2) (g member.2)) :
    Reads (dict d) depth (.object (values.members.map fun (name, a) => (name, f a)))
      (values.map g) := by
  have hnodup : ((Keyed.empty : Dict Text β).members.map Prod.fst ++
      values.members.map Prod.fst).Nodup :=
    values.nodup
  obtain ⟨result, hresult, hread⟩ := exists_eachMember hnodup h
  have hvalues : result = values.map g := by
    cases result
    cases hresult
    rfl
  unfold Reads dict node
  dsimp only
  rw [hread, hvalues]
  rfl

end Collections

namespace Shape

variable {s : Shape δ α} {r : Shape ε β} {f : Field α} {depth : Nat} {j : Json} {a : α} {b : β}
  {members : List (Text × Json)}

/-- A shape collects a value from the members of an object. -/
def Collects (s : Shape δ α) (depth : Nat) (members : List (Text × Json)) (a : α) : Prop :=
  ∃ draft, s.putAll depth s.empty (memberNodes members) = .ok draft ∧ s.finish draft = .ok a

/-- A part takes the member of its name. -/
theorem put_field
    (h : Reads f.decode depth j a) :
    (field f).put none f.name depth j.node = some (.ok (some a)) := by
  unfold Reads at h
  unfold field
  dsimp only
  rw [if_pos rfl, h]
  rfl

/-- A member that is taken goes into the draft. -/
theorem putAll_cons
    {draft draft' : δ}
    {name : Text}
    (h : s.put draft name depth j.node = some (.ok draft'))
    (members : List (Text × Json)) :
    s.putAll depth draft (memberNodes ((name, j) :: members)) =
      s.putAll depth draft' (memberNodes members) := by
  rw [memberNodes_cons, putAll, if_pos rfl, h]
  rfl

/-- Members of other names than a part has go to the parts behind it. -/
theorem putAll_behind
    (draft : Option α)
    (e : ε)
    (h : ∀ member ∈ members, member.1 ≠ f.name) :
    ((field f).both r).putAll depth (draft, e) (memberNodes members) =
      (r.putAll depth e (memberNodes members)).map fun e => (draft, e) := by
  induction members generalizing e with
  | nil =>
      rfl
  | cons member members ih =>
      obtain ⟨name, j⟩ := member
      have hrest := fun e => ih e fun m hm => h m (List.mem_cons_of_mem _ hm)
      have hput : ((field f).both r).put (draft, e) name depth j.node =
          (r.put e name depth j.node).map fun result => result.map fun e => (draft, e) := by
        unfold both
        dsimp only
        rw [put_field_of_ne f (h (name, j) List.mem_cons_self)]
      rw [memberNodes_cons, putAll, putAll, if_pos rfl, if_pos rfl, hput]
      cases hr : r.put e name depth j.node with
      | none =>
          dsimp only [Option.map_none]
          cases ignore j.node with
          | error fault =>
              rfl
          | ok u =>
              exact hrest e
      | some result =>
          cases result with
          | error fault =>
              rfl
          | ok e' =>
              exact hrest e'

theorem collects_field
    (h : Reads f.decode depth j a) :
    Collects (field f) depth [(f.name, j)] a :=
  ⟨some a, putAll_cons (put_field h) [], rfl⟩

theorem collects_absent
    (h : f.absent = some a) :
    Collects (field f) depth [] a := by
  refine ⟨none, rfl, ?_⟩
  change require (none <|> f.absent) = _
  rw [h]
  rfl

/-- Of two parts each collects its own members. -/
theorem Collects.cons
    (h : Collects r depth members b)
    (hread : Reads f.decode depth j a)
    (hnames : (members.map Prod.fst).contains f.name = false) :
    Collects ((field f).both r) depth ((f.name, j) :: members) (a, b) := by
  have hothers : ∀ member ∈ members, member.1 ≠ f.name := by
    intro member hmember heq
    have hmem : f.name ∈ members.map Prod.fst := heq ▸ List.mem_map_of_mem hmember
    rw [List.contains_iff_mem.2 hmem] at hnames
    exact Bool.noConfusion hnames
  obtain ⟨draft, hput, hfinish⟩ := h
  refine ⟨(some a, draft), ?_, ?_⟩
  · rw [putAll_cons (put_both_of_left _ _ (put_field hread)), putAll_behind _ _ hothers]
    change (r.putAll depth r.empty (memberNodes members)).map _ = _
    rw [hput]
    rfl
  · change ((r.finish draft).bind fun b => Except.ok (a, b)) = _
    rw [hfinish]
    rfl

section Named

variable {d : Decoder α} {name : String} {default : α}

theorem collects_required
    (h : Reads d depth j a) :
    Collects (Field.required name d) depth [(name.toList, j)] a :=
  collects_field (f := ⟨name.toList, d, none, none⟩) h

theorem collects_withDefault
    (h : Reads d depth j a) :
    Collects (Field.withDefault name d default) depth [(name.toList, j)] a :=
  collects_field (f := ⟨name.toList, d, some default, some default⟩) h

theorem collects_default :
    Collects (Field.withDefault name d default) depth [] default :=
  collects_absent (f := ⟨name.toList, d, some default, some default⟩) rfl

theorem Collects.required
    (h : Collects r depth members b)
    (hread : Reads d depth j a)
    (hnames : (members.map Prod.fst).contains name.toList = false) :
    Collects ((Field.required name d).both r) depth ((name.toList, j) :: members) (a, b) :=
  h.cons (f := ⟨name.toList, d, none, none⟩) hread hnames

theorem Collects.withDefault
    (h : Collects r depth members b)
    (hread : Reads d depth j a)
    (hnames : (members.map Prod.fst).contains name.toList = false) :
    Collects ((Field.withDefault name d default).both r) depth ((name.toList, j) :: members)
      (a, b) :=
  h.cons (f := ⟨name.toList, d, some default, some default⟩) hread hnames

end Named

/-- A value is read from the members that it is collected from. -/
theorem Collects.reads
    (h : Collects s (depth + 1) members a)
    (g : α → β) :
    Reads (s.decode g) depth (.object members) (g a) := by
  obtain ⟨draft, hput, hfinish⟩ := h
  unfold Reads decode node
  dsimp only
  rw [hput]
  change (s.finish draft).bind _ = _
  rw [hfinish]
  rfl

end Shape

end MailMerge.Json
