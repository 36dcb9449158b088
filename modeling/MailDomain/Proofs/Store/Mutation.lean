import Mathlib.Tactic.Common
import MailDomain.Store.Memory

/-!
# Writes of clients and the mutations that they make

Whatever clients write, a store changes in one of four ways: not at all, by a new incarnation of an
object, by a new version of one, or by the removal of one. What holds of these mutations holds of
every write.

## Main definitions

* `MemoryStore.Write` — the writes that clients can make, with `perform`.
* `MemoryStore.Mutation` — what a write did, with the key that it was done to.
* `MemoryStore.Mutation.Makes` — a store comes from another by a mutation.
* `MemoryStore.after` — the store after some writes.

## Main results

* `MemoryStore.create_of_vacant`, `delete_of_uid_eq`, `updateStatus_of_current` and their like —
  what an operation on an object with a key does.
* `MemoryStore.create_ok`, `delete_ok`, `updateStatus_ok` — what an operation that succeeds did.
* `MemoryStore.Write.makes` — a write makes its mutation.
-/

set_option relaxedAutoImplicit false
set_option autoImplicit false

namespace MailDomain.MemoryStore

variable {Spec Status : Type}

/-! ### Changes -/

/-- What was done to the objects of a store, its version included and its counts left out. All
operations and bumps come down to one of these, so that an invariant of stores has four cases and
not one for each operation and each of its answers. -/
inductive Mutation (Spec Status : Type)
  | nothing
  /-- The object `r` was put under `key` as a new incarnation, whatever had been there. -/
  | added (key : ObjectKey) (r : Resource Spec Status)
  /-- The object under `key` was replaced by `r`. -/
  | rewritten (key : ObjectKey) (r : Resource Spec Status)
  | removed (key : ObjectKey)

namespace Mutation

/-- The key under which something was done, and `none` for `nothing`. -/
def key? : Mutation Spec Status → Option ObjectKey
  | .nothing => none
  | .added key _ | .rewritten key _ | .removed key => some key

/-- The key under which an incarnation of an object began or ended. An object that is `rewritten` is
the same incarnation. -/
def turned? : Mutation Spec Status → Option ObjectKey
  | .nothing | .rewritten _ _ => none
  | .added key _ | .removed key => some key

/-- The store `t` comes from `s` by the mutation, apart from its counts of writes. What is put is
`stamped` with the next version. -/
def Makes (s t : MemoryStore Spec Status) : Mutation Spec Status → Prop
  | .nothing => t = s
  | .added key r | .rewritten key r =>
    t.objects = s.objects.insert key (stamped r (s.version + 1)) ∧ t.version = s.version + 1
  | .removed key => t.objects = s.objects.erase key ∧ t.version = s.version

/-- What every mutation that an operation makes to `s` satisfies: an object that is added goes under
its own key; one that is rewritten or removed is there, and the replacement was read in the version
that is stored. -/
def Fits (s : MemoryStore Spec Status) : Mutation Spec Status → Prop
  | .nothing => True
  | .added key r => r.key? = some key
  | .rewritten key r => ∃ old, s.get key = some old ∧
      (r.key? = some key ∨ r = old) ∧ r.metadata.resourceVersion = old.metadata.resourceVersion
  | .removed key => ∃ old, s.get key = some old

/-- No identity comes from outside: an incarnation that begins brings none, so that the store makes
it, and a replacement has the identity of what it replaces. -/
def KeepsUids (s : MemoryStore Spec Status) : Mutation Spec Status → Prop
  | .nothing | .removed _ => True
  | .added _ r => r.metadata.uid = none
  | .rewritten key r => ∀ old, s.get key = some old → r.metadata.uid = old.metadata.uid

variable {s t : MemoryStore Spec Status} {c : Mutation Spec Status} {key : ObjectKey}
  {r : Resource Spec Status}

/-- A mutation leaves the objects under other keys than its own. -/
lemma Makes.get_of_ne (h : c.Makes s t) (hk : c.key? ≠ some key) : t.get key = s.get key := by
  cases c with
  | nothing => rw [h]
  | added k r =>
    have hne : key ≠ k := fun e => hk (by rw [e, key?])
    rw [MemoryStore.get, h.1, Table.get?_insert_of_ne hne, MemoryStore.get]
  | rewritten k r =>
    have hne : key ≠ k := fun e => hk (by rw [e, key?])
    rw [MemoryStore.get, h.1, Table.get?_insert_of_ne hne, MemoryStore.get]
  | removed k =>
    have hne : key ≠ k := fun e => hk (by rw [e, key?])
    rw [MemoryStore.get, h.1, Table.get?_erase_of_ne hne, MemoryStore.get]

/-- What was added under `key` stands there, with the next version. -/
lemma Makes.get_added (h : (Mutation.added key r).Makes s t) :
    t.get key = some (stamped r (s.version + 1)) := by
  rw [MemoryStore.get, h.1, Table.get?_insert_self]

/-- What was rewritten under `key` stands there, with the next version. -/
lemma Makes.get_rewritten (h : (Mutation.rewritten key r).Makes s t) :
    t.get key = some (stamped r (s.version + 1)) := by
  rw [MemoryStore.get, h.1, Table.get?_insert_self]

/-- Nothing stands under a key from which the object was removed. -/
lemma Makes.get_removed (h : Makes s t (.removed key)) :
    t.get key = none := by
  rw [MemoryStore.get, h.1, Table.get?_erase_self]

/-- What stands under the key of a mutation afterwards: nothing, and then no version was given, or
an object with the next version. -/
lemma Makes.get_self (h : c.Makes s t) (hk : c.key? = some key) :
    t.get key = none ∧ t.version = s.version ∨
      ∃ r, t.get key = some (stamped r (s.version + 1)) ∧ t.version = s.version + 1 := by
  cases c with
  | nothing => cases hk
  | added k r => cases hk; exact .inr ⟨r, h.get_added, h.2⟩
  | rewritten k r => cases hk; exact .inr ⟨r, h.get_rewritten, h.2⟩
  | removed k => cases hk; exact .inl ⟨h.get_removed, h.2⟩

/-- The version of a store is never taken back. -/
lemma Makes.version_le (h : c.Makes s t) : s.version ≤ t.version := by
  cases c with
  | nothing =>
    have hsame : t.version = s.version := congrArg MemoryStore.version h
    omega
  | added k r =>
    have hnext := h.2
    omega
  | rewritten k r =>
    have hnext := h.2
    omega
  | removed k =>
    have hsame := h.2
    omega

end Mutation

/-! ### Operations on an object with a key -/

variable [Manifest (Resource Spec Status)] {s : MemoryStore Spec Status}
  {r : Resource Spec Status} {key : ObjectKey}

/-- The creation of an object with a vacant key succeeds, and puts the object there without the
identity that it brings. -/
lemma create_of_vacant (hr : r.key? = some key) (hs : s.get key = none) :
    s.create r = (.ok (), { s.put key { r with metadata := { r.metadata with uid := none } } with
      writes := { s.writes with creates := s.writes.creates + 1 } }) := by
  simp [create, hr, hs]

/-- The creation of an object with a key that is taken is a conflict and leaves the store. -/
lemma create_of_taken {old : Resource Spec Status} (hr : r.key? = some key)
    (hs : s.get key = some old) :
    s.create r = (.error (.conflict s.kindOf.name key "already exists"), s) := by
  simp [create, hr, hs]

/-- The deletion of an object with a vacant key finds nothing and leaves the store. -/
lemma delete_of_vacant (hr : r.key? = some key) (hs : s.get key = none) :
    s.delete r = (.error (.notFound s.kindOf.name key), s) := by
  simp [delete, hr, hs]

/-- The deletion of an object succeeds if it names no incarnation or the one that is stored. -/
lemma delete_of_uid_eq {old : Resource Spec Status} (hr : r.key? = some key)
    (hs : s.get key = some old)
    (hu : r.metadata.uid.isSome → old.metadata.uid = r.metadata.uid) :
    s.delete r = (.ok (), { s with
      objects := s.objects.erase key
      writes := { s.writes with deletes := s.writes.deletes + 1 } }) := by
  have hn : ¬ (r.metadata.uid.isSome ∧ old.metadata.uid ≠ r.metadata.uid) :=
    fun h => h.2 (hu h.1)
  simp only [delete, hr, hs, if_neg hn]

/-- The deletion of another incarnation than the one that is stored is a conflict and leaves the
store. -/
lemma delete_of_uid_ne {old : Resource Spec Status} (hr : r.key? = some key)
    (hs : s.get key = some old) (hu : r.metadata.uid.isSome)
    (hne : old.metadata.uid ≠ r.metadata.uid) :
    s.delete r = (.error (.conflict s.kindOf.name key "uid precondition failed"), s) := by
  simp [delete, hr, hs, hu, hne]

/-- The status write of an object with a vacant key finds nothing and leaves the store. -/
lemma updateStatus_of_vacant (hr : r.key? = some key) (hs : s.get key = none) :
    s.updateStatus r = (.error (.notFound s.kindOf.name key), s) := by
  simp [updateStatus, hr, hs]

/-- The status write of an object in the version that is stored succeeds, and puts the object in
place of the old one. -/
lemma updateStatus_of_current {old : Resource Spec Status} (hr : r.key? = some key)
    (hs : s.get key = some old)
    (hv : old.metadata.resourceVersion = r.metadata.resourceVersion) :
    s.updateStatus r = (.ok (), { s.put key r with
      writes := { s.writes with statusUpdates := s.writes.statusUpdates + 1 } }) := by
  simp [updateStatus, hr, hs, hv]

/-- The status write of an object in another version than the one that is stored is a conflict,
which names both, and leaves the store. -/
lemma updateStatus_of_stale {old : Resource Spec Status} (hr : r.key? = some key)
    (hs : s.get key = some old)
    (hv : old.metadata.resourceVersion ≠ r.metadata.resourceVersion) :
    s.updateStatus r = (.error (.conflict s.kindOf.name key
      (staleReason r.metadata.resourceVersion old.metadata.resourceVersion)), s) := by
  simp [updateStatus, hr, hs, hv]

variable {t : MemoryStore Spec Status}

/-- A creation that succeeds was one of an object with a vacant key, and `t` is the store with
it. -/
lemma create_ok (h : s.create r = (.ok (), t)) :
    ∃ key, r.key? = some key ∧ s.get key = none ∧
      t = { s.put key { r with metadata := { r.metadata with uid := none } } with
        writes := { s.writes with creates := s.writes.creates + 1 } } := by
  cases hr : r.key? with
  | none => simp [create, hr] at h
  | some key =>
    cases hs : s.get key with
    | none =>
      rw [create_of_vacant hr hs] at h
      exact ⟨key, rfl, hs, (Prod.mk.inj h).2.symm⟩
    | some old =>
      rw [create_of_taken hr hs] at h
      cases h

/-- A deletion that succeeds was one of an object that was there, and `t` is the store without
it. -/
lemma delete_ok (h : s.delete r = (.ok (), t)) :
    ∃ key old, r.key? = some key ∧ s.get key = some old ∧
      t = { s with
        objects := s.objects.erase key
        writes := { s.writes with deletes := s.writes.deletes + 1 } } := by
  cases hr : r.key? with
  | none => simp [delete, hr] at h
  | some key =>
    cases hs : s.get key with
    | none =>
      rw [delete_of_vacant hr hs] at h
      cases h
    | some old =>
      by_cases hu : r.metadata.uid.isSome → old.metadata.uid = r.metadata.uid
      · rw [delete_of_uid_eq hr hs hu] at h
        exact ⟨key, old, rfl, hs, (Prod.mk.inj h).2.symm⟩
      · obtain ⟨hu, hne⟩ := Classical.not_imp.1 hu
        rw [delete_of_uid_ne hr hs hu hne] at h
        cases h

/-- A status write that succeeds was one of an object in the version that was stored, and `t` is the
store with it. -/
lemma updateStatus_ok (h : s.updateStatus r = (.ok (), t)) :
    ∃ key old, r.key? = some key ∧ s.get key = some old ∧
      old.metadata.resourceVersion = r.metadata.resourceVersion ∧
      t = { s.put key r with
        writes := { s.writes with statusUpdates := s.writes.statusUpdates + 1 } } := by
  cases hr : r.key? with
  | none => simp [updateStatus, hr] at h
  | some key =>
    cases hs : s.get key with
    | none =>
      rw [updateStatus_of_vacant hr hs] at h
      cases h
    | some old =>
      by_cases hv : old.metadata.resourceVersion = r.metadata.resourceVersion
      · rw [updateStatus_of_current hr hs hv] at h
        exact ⟨key, old, rfl, hs, hv, (Prod.mk.inj h).2.symm⟩
      · rw [updateStatus_of_stale hr hs hv] at h
        cases h

/-! ### Writes -/

/-- A write by a client, with `insert` and `bump` for writers that do not go through the operations
of the operator. -/
inductive Write (Spec Status : Type)
  | insert (r : Resource Spec Status)
  | create (r : Resource Spec Status)
  | delete (r : Resource Spec Status)
  | updateStatus (r : Resource Spec Status)
  | bump (key : ObjectKey)

namespace Write

/-- The answer to the write, and the store after it. The object that `insert` gives back is left out
of the answer. -/
def perform (s : MemoryStore Spec Status) :
    Write Spec Status → Except StoreError Unit × MemoryStore Spec Status
  | .insert r => ((s.insert r).1.map fun _ => (), (s.insert r).2)
  | .create r => s.create r
  | .delete r => s.delete r
  | .updateStatus r => s.updateStatus r
  | .bump key => (.ok (), s.bump key)

/-- The mutation that the write makes to the store `s`: `nothing` if it is refused, and what it does
to the key of its object otherwise. -/
def mutation (s : MemoryStore Spec Status) : Write Spec Status → Mutation Spec Status
  | .insert r => r.key?.elim .nothing fun key => .added key r
  | .create r =>
    match (s.create r).1 with
    | .ok () => r.key?.elim .nothing fun key =>
      .added key { r with metadata := { r.metadata with uid := none } }
    | .error _ => .nothing
  | .delete r =>
    match (s.delete r).1 with
    | .ok () => r.key?.elim .nothing .removed
    | .error _ => .nothing
  | .updateStatus r =>
    match (s.updateStatus r).1 with
    | .ok () => r.key?.elim .nothing fun key => .rewritten key r
    | .error _ => .nothing
  | .bump key => (s.get key).elim .nothing fun r => .rewritten key r

/-- Every write makes its `mutation`, and the mutation `Fits` the store.

**Proof sketch.** Cases on the write and on its answer. One that is refused leaves the store, and
for one that is not `create_ok`, `delete_ok` and `updateStatus_ok` say what it found and what it
did. -/
theorem makes (s : MemoryStore Spec Status) (w : Write Spec Status) :
    (w.mutation s).Makes s (w.perform s).2 ∧ (w.mutation s).Fits s := by
  cases w with
  | insert r =>
    cases hr : r.key? with
    | none => simp [mutation, perform, MemoryStore.insert, hr, Mutation.Makes, Mutation.Fits]
    | some key =>
      simp only [mutation, perform, MemoryStore.insert, hr, Option.elim_some]
      exact ⟨⟨rfl, rfl⟩, hr⟩
  | create r =>
    rcases h : s.create r with ⟨e | ⟨⟨⟩⟩, t⟩
    · simp only [mutation, perform, h]
      exact ⟨create_error h, trivial⟩
    · obtain ⟨key, hr, -, rfl⟩ := create_ok h
      simp only [mutation, perform, h, hr, Option.elim_some]
      exact ⟨⟨rfl, rfl⟩, hr⟩
  | delete r =>
    rcases h : s.delete r with ⟨e | ⟨⟨⟩⟩, t⟩
    · simp only [mutation, perform, h]
      exact ⟨delete_error h, trivial⟩
    · obtain ⟨key, old, hr, hs, rfl⟩ := delete_ok h
      simp only [mutation, perform, h, hr, Option.elim_some]
      exact ⟨⟨rfl, rfl⟩, old, hs⟩
  | updateStatus r =>
    rcases h : s.updateStatus r with ⟨e | ⟨⟨⟩⟩, t⟩
    · simp only [mutation, perform, h]
      exact ⟨updateStatus_error h, trivial⟩
    · obtain ⟨key, old, hr, hs, hv, rfl⟩ := updateStatus_ok h
      simp only [mutation, perform, h, hr, Option.elim_some]
      -- the version that was checked is that of the object that is replaced
      exact ⟨⟨rfl, rfl⟩, old, hs, .inl hr, hv.symm⟩
  | bump key =>
    cases hs : s.get key with
    | none => simp [mutation, perform, MemoryStore.bump, hs, Mutation.Makes, Mutation.Fits]
    | some old =>
      simp only [mutation, perform, MemoryStore.bump, hs, Option.elim_some]
      exact ⟨⟨rfl, rfl⟩, old, hs, .inr rfl, rfl⟩

/-- The mutation of a status write that succeeds is one under the key of its object. -/
lemma key?_mutation_updateStatus {s t : MemoryStore Spec Status} {r : Resource Spec Status}
    (h : s.updateStatus r = (.ok (), t)) : (mutation s (.updateStatus r)).key? = r.key? := by
  obtain ⟨key, -, hr, -⟩ := updateStatus_ok h
  simp only [mutation, h, hr, Option.elim_some, Mutation.key?]

/-- The mutation of a creation that succeeds begins an incarnation under the key of its object, and
brings no identity from outside. -/
lemma turned?_mutation_create {s t : MemoryStore Spec Status} {r : Resource Spec Status}
    (h : s.create r = (.ok (), t)) :
    (mutation s (.create r)).turned? = r.key? ∧ (mutation s (.create r)).KeepsUids s := by
  obtain ⟨key, hr, -⟩ := create_ok h
  simp only [mutation, h, hr, Option.elim_some]
  exact ⟨rfl, rfl⟩

/-- The mutation of a deletion that succeeds ends an incarnation under the key of its object. -/
lemma turned?_mutation_delete {s t : MemoryStore Spec Status} {r : Resource Spec Status}
    (h : s.delete r = (.ok (), t)) :
    (mutation s (.delete r)).turned? = r.key? ∧ (mutation s (.delete r)).KeepsUids s := by
  obtain ⟨key, -, hr, -⟩ := delete_ok h
  simp only [mutation, h, hr, Option.elim_some]
  exact ⟨rfl, trivial⟩

end Write

/-- The store after the writes `ws`, from an empty one on. The stores that clients can bring about
are those of this form. -/
def after (ws : List (Write Spec Status)) : MemoryStore Spec Status :=
  ws.foldl (fun s w => (w.perform s).2) {}

end MailDomain.MemoryStore
