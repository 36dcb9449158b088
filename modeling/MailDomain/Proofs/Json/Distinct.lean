import Mathlib
import MailDomain.Json.MergePatch

/-!
# Values in which no name comes twice

The members of an object may be written with a name twice, and what that means differs from reader
to reader. A server that keeps objects has no such members, and no change that it makes to an object
brings any.

## Main definitions

* `Json.Distinct` — no object in a value has two members of a name.
* `Json.Members.Distinct` — the same of the members of an object.

## Main results

* `Json.Members.get?_eq_some_iff` — a lookup finds a member exactly if it is there.
* `Json.Members.Distinct.set`, `Json.Distinct.mergePatch` — changes and merge patches bring no name
  twice.
-/

set_option relaxedAutoImplicit false
set_option autoImplicit false

namespace MailDomain.Json

mutual

/-- No object within the value, which includes the value itself, has two members of one name. -/
def Distinct : Json → Prop
  | .arr es => DistinctElems es
  | .obj ms => (ms.map Prod.fst).Nodup ∧ DistinctValues ms
  | .null | .bool _ | .num _ | .str _ => True

/-- No object within the elements of an array has two members of one name. -/
def DistinctElems : List Json → Prop
  | [] => True
  | e :: es => e.Distinct ∧ DistinctElems es

/-- No object within the values of members has two members of one name. The members themselves
may. -/
def DistinctValues : List (String × Json) → Prop
  | [] => True
  | (_, v) :: ms => v.Distinct ∧ DistinctValues ms

end

namespace Members

/-- No two of the members have one name, and each of their values is `Distinct`. -/
structure Distinct (ms : Members) : Prop where
  names : (ms.map Prod.fst).Nodup
  values : ∀ m ∈ ms, m.2.Distinct

end Members

/-- The values of members satisfy `DistinctValues` exactly if each of them is `Distinct`. -/
lemma distinctValues_iff {ms : Members} : DistinctValues ms ↔ ∀ m ∈ ms, m.2.Distinct := by
  induction ms with
  | nil => simp [DistinctValues]
  | cons m ms ih => simp [DistinctValues, ih]

/-- An object is `Distinct` exactly if its members are. -/
lemma distinct_obj {ms : Members} : (obj ms).Distinct ↔ ms.Distinct := by
  rw [Distinct, distinctValues_iff]
  exact ⟨fun h => ⟨h.1, h.2⟩, fun h => ⟨h.names, h.values⟩⟩

/-- The members of a value that is `Distinct` are so. A value other than an object has none. -/
lemma Distinct.members {v : Json} (h : v.Distinct) : v.members.Distinct := by
  cases v with
  | obj ms => exact distinct_obj.1 h
  | _ => exact ⟨List.nodup_nil, List.forall_mem_nil _⟩

namespace Members

variable {ms : Members} {name other : String} {v w : Json}

/-- A value that `get?` finds under a name is that of a member. -/
lemma mem_of_get? (h : get? name ms = some v) : (name, v) ∈ ms := by
  induction ms with
  | nil => cases h
  | cons m ms ih =>
    obtain ⟨k, w⟩ := m
    rw [get?] at h
    split at h
    · next hk => cases h; exact hk ▸ List.mem_cons_self
    · exact List.mem_cons_of_mem _ (ih h)

/-- Where the names of members are different, `get?` finds every member under its name. -/
lemma get?_of_mem (hms : (ms.map Prod.fst).Nodup) (h : (name, v) ∈ ms) :
    get? name ms = some v := by
  induction ms with
  | nil => cases h
  | cons m ms ih =>
    obtain ⟨k, w⟩ := m
    rw [List.map_cons, List.nodup_cons] at hms
    rw [get?]
    rcases List.mem_cons.1 h with h | h
    · cases h
      exact if_pos rfl
    · have hk : k ≠ name := fun hk => hms.1 (List.mem_map.2 ⟨_, h, hk.symm⟩)
      rw [if_neg hk]
      exact ih hms.2 h

/-- Where the names of members are different, `get?` finds a value under a name exactly if there is
such a member. -/
theorem get?_eq_some_iff (hms : (ms.map Prod.fst).Nodup) :
    get? name ms = some v ↔ (name, v) ∈ ms :=
  ⟨mem_of_get?, get?_of_mem hms⟩

/-- A value that is found among members that are `Distinct` is `Distinct`. -/
lemma Distinct.get? (h : ms.Distinct) (hv : get? name ms = some v) : v.Distinct :=
  h.values _ (mem_of_get? hv)

/-- What is found among members that are `Distinct`, or null if nothing is, is `Distinct`. -/
lemma Distinct.getD_get? (h : ms.Distinct) (name : String) :
    ((Members.get? name ms).getD .null).Distinct := by
  cases hv : Members.get? name ms with
  | none => trivial
  | some v => exact h.get? hv

/-- After `set name v`, the members are some of those that were there and the one with the value
`v`. -/
lemma mem_of_mem_set {m : String × Json} (h : m ∈ set name v ms) : m ∈ ms ∨ m = (name, v) := by
  induction ms with
  | nil => exact .inr (List.mem_singleton.1 h)
  | cons n ms ih =>
    obtain ⟨k, w⟩ := n
    rw [set] at h
    split at h
    · next hk =>
      subst hk
      rcases List.mem_cons.1 h with h | h
      · exact .inr h
      · exact .inl (List.mem_cons_of_mem _ h)
    · split at h
      · rcases List.mem_cons.1 h with h | h
        · exact .inr h
        · rcases List.mem_cons.1 h with h | h
          · exact .inl (h ▸ List.mem_cons_self)
          · exact .inl (List.mem_cons_of_mem _ (List.mem_of_mem_filter h))
      · rcases List.mem_cons.1 h with h | h
        · exact .inl (h ▸ List.mem_cons_self)
        · exact (ih h).imp_left (List.mem_cons_of_mem _)

/-- Erasing a member leaves the names of members different. -/
lemma nodup_erase (hms : (ms.map Prod.fst).Nodup) (name : String) :
    ((erase name ms).map Prod.fst).Nodup :=
  hms.sublist (List.filter_sublist.map _)

/-- After `erase name`, no member has that name. -/
lemma not_mem_names_erase (name : String) (ms : Members) :
    name ∉ (erase name ms).map Prod.fst := by
  simp [erase]

/-- After `set name v`, the names are among those that were there and `name`. -/
lemma mem_names_of_mem_set (h : other ∈ (set name v ms).map Prod.fst) :
    other ∈ ms.map Prod.fst ∨ other = name := by
  obtain ⟨m, hm, rfl⟩ := List.mem_map.1 h
  exact (mem_of_mem_set hm).imp (List.mem_map_of_mem) (congrArg Prod.fst)

/-- Setting a member leaves the names of members different. -/
lemma nodup_set (hms : (ms.map Prod.fst).Nodup) (name : String) (v : Json) :
    ((set name v ms).map Prod.fst).Nodup := by
  induction ms with
  | nil => exact List.nodup_singleton _
  | cons m ms ih =>
    obtain ⟨k, w⟩ := m
    have hcons := List.nodup_cons.1 hms
    rw [set]
    split
    · exact hms
    next hk =>
    split
    · refine List.nodup_cons.2 ⟨?_, List.nodup_cons.2 ⟨?_, nodup_erase hcons.2 name⟩⟩
      · intro h
        rcases List.mem_cons.1 h with h | h
        · exact hk h.symm
        · exact not_mem_names_erase name ms h
      · intro h
        obtain ⟨m, hm, hname⟩ := List.mem_map.1 h
        exact hcons.1 (hname ▸ List.mem_map_of_mem (List.mem_of_mem_filter hm))
    · refine List.nodup_cons.2 ⟨fun h => ?_, ih hcons.2⟩
      rcases mem_names_of_mem_set h with h | h
      · exact hcons.1 h
      · exact hk h

/-- Setting a member to a value that is `Distinct` leaves the members so. -/
theorem Distinct.set (h : ms.Distinct) (name : String) (hv : v.Distinct) :
    (set name v ms).Distinct := by
  refine ⟨nodup_set h.names name v, fun m hm => ?_⟩
  rcases mem_of_mem_set hm with hm | rfl
  · exact h.values m hm
  · exact hv

/-- Erasing a member leaves the members `Distinct`. -/
lemma Distinct.erase (h : ms.Distinct) (name : String) : (erase name ms).Distinct :=
  ⟨nodup_erase h.names name, fun m hm => h.values m (List.mem_of_mem_filter hm)⟩

end Members

mutual

/-- **A merge patch brings no name twice**: merging a patch that is `Distinct` into a value that is
gives such a value. What is not an object replaces the value. -/
theorem Distinct.mergePatch {v : Json} (hv : v.Distinct) :
    (p : Json) → p.Distinct → (mergePatch v p).Distinct
  | .obj ms, hp => distinct_obj.2 (mergeMembers hv.members ms (distinct_obj.1 hp).values)
  | .null, hp | .bool _, hp | .num _, hp | .str _, hp | .arr _, hp => hp

/-- **Merging members brings no name twice**: each of them erases a member, or sets it to a value
merged into what was there. -/
theorem Distinct.mergeMembers {target : Members} (ht : target.Distinct) :
    (ms : List (String × Json)) → (∀ m ∈ ms, m.2.Distinct) →
      Members.Distinct (Json.mergeMembers target ms)
  | [], _ => ht
  | (k, .null) :: ms, h =>
    mergeMembers (ht.erase k) ms (List.forall_mem_cons.1 h).2
  | (k, v) :: ms, h => by
    have hm := List.forall_mem_cons.1 h
    have hv := mergePatch (ht.getD_get? k) v hm.1
    cases v with
    | null => exact mergeMembers (ht.erase k) ms hm.2
    | _ => exact mergeMembers (ht.set k hv) ms hm.2

end

end MailDomain.Json
