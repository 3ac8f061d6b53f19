/-!
# Lists with one member per key

A `Keyed key` is a list whose members have different keys. Inserting a member
puts it into the place of the member with its key, or at the end when there is
none, so that the members stay in the order in which their keys first came.
A `Dict` is the case of pairs, keyed by their first component.

Main facts:

* `find?_insert`: the member inserted last under a key is the one found;
* `find?_eq_some_of_key`: a member is found by whatever settles its key;
* `keys_insert`: an insertion adds at most its own key, at the end.
-/

namespace MailMerge

variable {α κ ν : Type} [DecidableEq κ]

/-- The list with `x` in the place of the first member that has its key, or at
the end when there is none. -/
def place (key : α → κ) (x : α) : List α → List α
  | [] => [x]
  | y :: ys => if key y = key x then x :: ys else y :: place key x ys

theorem map_key_place (key : α → κ) (x : α) (xs : List α) :
    (place key x xs).map key =
      if key x ∈ xs.map key then xs.map key else xs.map key ++ [key x] := by
  induction xs with
  | nil => simp [place]
  | cons y ys ih =>
    by_cases h : key y = key x
    · simp [place, h]
    · by_cases hm : key x ∈ ys.map key
      · simp only [place, h, if_false, List.map_cons, ih, hm, if_true, List.mem_cons, or_true]
      · have hx : key x ≠ key y := fun he => h he.symm
        simp only [place, h, if_false, List.map_cons, ih, hm, List.mem_cons, hx, or_self,
          List.cons_append]

theorem nodup_map_key_place (key : α → κ) (x : α) {xs : List α} (h : (xs.map key).Nodup) :
    ((place key x xs).map key).Nodup := by
  rw [map_key_place]
  split
  · exact h
  · next hx =>
    rw [List.nodup_append]
    refine ⟨h, by simp, ?_⟩
    intro a ha b hb
    rw [List.mem_singleton] at hb
    rintro rfl
    exact hx (hb ▸ ha)

/-- A list whose members have different keys, in the order in which the keys
first came. -/
structure Keyed (key : α → κ) where
  members : List α
  nodup : (members.map key).Nodup
deriving DecidableEq

namespace Keyed

variable {key : α → κ}

/-- No members. -/
def empty : Keyed key := ⟨[], by simp⟩

instance : Inhabited (Keyed key) := ⟨empty⟩

/-- The member with a key. -/
def find? (s : Keyed key) (k : κ) : Option α :=
  s.members.find? (key · = k)

/-- The list with `x` added; a member that has its key is replaced in its place. -/
def insert (s : Keyed key) (x : α) : Keyed key :=
  ⟨place key x s.members, nodup_map_key_place key x s.nodup⟩

/-- Insertion of several members, from left to right. -/
def insertAll (s : Keyed key) (xs : List α) : Keyed key :=
  xs.foldl insert s

/-- The members inserted from left to right into nothing. -/
def ofList (xs : List α) : Keyed key :=
  empty.insertAll xs

/-- The members with a property. -/
def filter (s : Keyed key) (p : α → Bool) : Keyed key :=
  ⟨s.members.filter p, s.nodup.sublist (List.filter_sublist.map key)⟩

/-- The number of members. -/
def size (s : Keyed key) : Nat :=
  s.members.length

omit [DecidableEq κ] in
/-- A member is found by whatever settles its key. -/
theorem find?_eq_some_of_key (s : Keyed key) {p : α → Bool} {x : α} (hx : x ∈ s.members)
    (hp : p x = true) (hkey : ∀ y ∈ s.members, p y = true → key y = key x) :
    s.members.find? p = some x := by
  obtain ⟨xs, hnodup⟩ := s
  simp only at hx hkey ⊢
  induction xs with
  | nil => cases hx
  | cons y ys ih =>
    rw [List.map_cons, List.nodup_cons] at hnodup
    rcases List.mem_cons.1 hx with rfl | hx
    · simp [hp]
    · have hy : p y = false := by
        rw [Bool.eq_false_iff]
        intro hy
        rw [hkey y List.mem_cons_self hy] at hnodup
        exact hnodup.1 (List.mem_map_of_mem hx)
      rw [List.find?_cons, hy]
      exact ih hnodup.2 hx fun z hz => hkey z (List.mem_cons_of_mem y hz)

theorem keys_insert (s : Keyed key) (x : α) :
    (s.insert x).members.map key =
      if key x ∈ s.members.map key then s.members.map key
      else s.members.map key ++ [key x] :=
  map_key_place key x s.members

theorem find?_place (x : α) (xs : List α) (k : κ) :
    (place key x xs).find? (key · = k) =
      if key x = k then some x else xs.find? (key · = k) := by
  induction xs with
  | nil => by_cases h : key x = k <;> simp [place, h]
  | cons y ys ih =>
    by_cases hy : key y = key x
    · by_cases h : key x = k <;> simp [place, hy, h]
    · by_cases hk : key y = k
      · subst hk
        have h : key x ≠ key y := fun h => hy h.symm
        simp [place, hy, h]
      · simp [place, hy, hk, ih]

theorem find?_insert (s : Keyed key) (x : α) (k : κ) :
    (s.insert x).find? k = if key x = k then some x else s.find? k :=
  find?_place x s.members k

end Keyed

/-- A list of values under different names, in the order in which the names
first came. -/
abbrev Dict (κ ν : Type) [DecidableEq κ] := Keyed (Prod.fst : κ × ν → κ)

namespace Dict

/-- The value under a name. -/
def get? (d : Dict κ ν) (k : κ) : Option ν :=
  (d.find? k).map Prod.snd

/-- The values with `v` under the name `k`, in the place of an earlier one. -/
def set (d : Dict κ ν) (k : κ) (v : ν) : Dict κ ν :=
  Keyed.insert d (k, v)

/-- The values under their names, each changed in the same way. -/
def map {μ : Type} (f : ν → μ) (d : Dict κ ν) : Dict κ μ :=
  ⟨d.members.map fun (k, v) => (k, f v), by simpa [Function.comp_def] using d.nodup⟩

theorem map_eq_self_iff (f : ν → ν) (d : Dict κ ν) :
    d.map f = d ↔ ∀ member ∈ d.members, f member.2 = member.2 := by
  obtain ⟨members, hnodup⟩ := d
  simp only [map, Keyed.mk.injEq]
  induction members with
  | nil => simp
  | cons member members ih =>
    rw [List.map_cons, List.nodup_cons] at hnodup
    rw [List.map_cons, List.cons.injEq, ih hnodup.2, List.forall_mem_cons, Prod.ext_iff]
    simp only [true_and]

/-- What is found under a name among pairs, when a pair has been put in its place. -/
theorem map_find?_place (k k' : κ) (v : ν) (pairs : List (κ × ν)) :
    ((place Prod.fst (k, v) pairs).find? (·.1 = k')).map Prod.snd =
      if k = k' then some v else (pairs.find? (·.1 = k')).map Prod.snd := by
  rw [Keyed.find?_place]
  split <;> rfl

theorem get?_set (d : Dict κ ν) (k k' : κ) (v : ν) :
    (d.set k v).get? k' = if k = k' then some v else d.get? k' :=
  map_find?_place k k' v d.members

end Dict

end MailMerge
