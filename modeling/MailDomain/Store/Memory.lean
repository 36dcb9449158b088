import MailDomain.Error.Store
import MailDomain.Object.Resource
import MailDomain.Store.Table

/-!
# A store in memory

A store keeps objects of one kind, gives every object that it stores a new version, and gives
an identity to one that has none. A status write is refused unless it names the version that
is stored. The store counts its writes.

Every operation gives its result with the store after it.

## Design

* **Operations are functions.** An operation takes the store and gives its result with the store
  after it, so that operations of several clients come one after the other, as under a lock. What
  clients do at the same time is a list of operations in some order, and theorems about all orders
  are theorems about all lists.
* **Numbers are natural numbers.** The version of a store and the fields of `WriteCounts` are of
  type `Nat`, where a program has words of 64 bits. Fewer than `2 ^ 64` writes to one store are
  meant throughout; beyond that a counter of words would begin anew, and versions with it.
* **Versions are texts in the objects.** A store counts versions as numbers and writes them into
  `metadata.resourceVersion` in decimal digits, as a cluster does; a status write compares texts.
  Identities are made from the same numbers, so that one counter is enough for both.
* **What is not the operator's is not counted.** `insert` and `bump` play the part of other writers.
  They give new versions but change no count, and they cannot be refused for being out of date.
* **Failures are results.** An operation that fails gives back a store with its failure. The type
  does not say that this is the store as it was; `create_error` and its like do.

## Main definitions

* `WriteCounts` — the numbers of successful writes.
* `MemoryStore` — with `insert`, `bump`, `get`, `create`, `delete` and `updateStatus`.

## Main results

* `MemoryStore.create_error`, `delete_error`, `updateStatus_error` — a failed operation leaves
  the store.
-/

set_option relaxedAutoImplicit false
set_option autoImplicit false

namespace MailDomain

/-- The numbers of successful writes, one for each operation that counts: `insert` and `bump` stand
for writers outside of the operator and are not counted. -/
structure WriteCounts where
  creates : Nat := 0
  deletes : Nat := 0
  statusUpdates : Nat := 0
  deriving DecidableEq, Repr

/-- The number of all successful writes that are counted. -/
def WriteCounts.total (c : WriteCounts) : Nat := c.creates + c.deletes + c.statusUpdates

/-- A store of objects with specifications of type `Spec` and statuses of type `Status`. -/
structure MemoryStore (Spec Status : Type) where
  objects : Table (Resource Spec Status) := .empty
  /-- The version that was given last. -/
  version : Nat := 0
  writes : WriteCounts := {}

namespace MemoryStore

variable {Spec Status : Type}

/-- The object `r` with the version `v`, written in decimal digits, and with the identity `uid-v` if
it brings none of its own. -/
def stamped (r : Resource Spec Status) (v : Nat) : Resource Spec Status :=
  { r with metadata := { r.metadata with
      resourceVersion := some (toString v)
      uid := some (r.metadata.uid.getD ("uid-" ++ toString v)) } }

/-- The store with the object `r` under `key` in the next version. The counts are left to the
operation that puts it there. -/
def put (s : MemoryStore Spec Status) (key : ObjectKey) (r : Resource Spec Status) :
    MemoryStore Spec Status :=
  { s with objects := s.objects.insert key (stamped r (s.version + 1)), version := s.version + 1 }

/-- The object under `key`, as it is stored. -/
def get (s : MemoryStore Spec Status) (key : ObjectKey) : Option (Resource Spec Status) :=
  s.objects.get? key

/-- The store with the object under `key` in a new version, as if another writer had written it. A
vacant key is left as it is. -/
def bump (s : MemoryStore Spec Status) (key : ObjectKey) : MemoryStore Spec Status :=
  match s.get key with
  | none => s
  | some r => s.put key r

/-- The number of objects in the store. -/
def size (s : MemoryStore Spec Status) : Nat := s.objects.size

variable [Manifest (Resource Spec Status)]

/-- The kind of the objects of a store, which its failures name. -/
def kindOf (_ : MemoryStore Spec Status) : Kind := Manifest.kind (Resource Spec Status)

/-- Puts the object `r` into the store, whatever is there, without counting a write. The result is
the object as stored; an object without a key is refused. -/
def insert (s : MemoryStore Spec Status) (r : Resource Spec Status) :
    Except StoreError (Resource Spec Status) × MemoryStore Spec Status :=
  match r.key? with
  | none => (.error (.keyless s.kindOf), s)
  | some key => (.ok (stamped r (s.version + 1)), s.put key r)

/-- Creates the object `r`, which must not exist. It gets an identity from the store, whatever
identity it brings. -/
def create (s : MemoryStore Spec Status) (r : Resource Spec Status) :
    Except StoreError Unit × MemoryStore Spec Status :=
  match r.key? with
  | none => (.error (.keyless s.kindOf), s)
  | some key =>
    match s.get key with
    | some _ => (.error (.conflict s.kindOf.name key "already exists"), s)
    | none =>
      let new := { r with metadata := { r.metadata with uid := none } }
      (.ok (), { s.put key new with writes := { s.writes with creates := s.writes.creates + 1 } })

/-- Deletes the object under the key of `r`. It must exist, and be the incarnation that the identity
of `r` names, if `r` has one. -/
def delete (s : MemoryStore Spec Status) (r : Resource Spec Status) :
    Except StoreError Unit × MemoryStore Spec Status :=
  match r.key? with
  | none => (.error (.keyless s.kindOf), s)
  | some key =>
    match s.get key with
    | none => (.error (.notFound s.kindOf.name key), s)
    | some stored =>
      if r.metadata.uid.isSome ∧ stored.metadata.uid ≠ r.metadata.uid then
        (.error (.conflict s.kindOf.name key "uid precondition failed"), s)
      else
        (.ok (), { s with
          objects := s.objects.erase key
          writes := { s.writes with deletes := s.writes.deletes + 1 } })

/-- What a status write is told whose object has the version `given`, while `stored` is the one that
is stored. -/
def staleReason (given stored : Option String) : String :=
  "resourceVersion " ++ Text.optional given ++ " is stale, current is " ++ Text.optional stored

/-- Replaces the object under the key of `r` by `r`, which must be of the version that is stored.
The whole of `r` is stored, its specification among it, in the next version. -/
def updateStatus (s : MemoryStore Spec Status) (r : Resource Spec Status) :
    Except StoreError Unit × MemoryStore Spec Status :=
  match r.key? with
  | none => (.error (.keyless s.kindOf), s)
  | some key =>
    match s.get key with
    | none => (.error (.notFound s.kindOf.name key), s)
    | some stored =>
      if stored.metadata.resourceVersion ≠ r.metadata.resourceVersion then
        (.error (.conflict s.kindOf.name key
          (staleReason r.metadata.resourceVersion stored.metadata.resourceVersion)), s)
      else
        (.ok (), { s.put key r with
          writes := { s.writes with statusUpdates := s.writes.statusUpdates + 1 } })

/-- A creation that fails with `e` leaves the store as it is, its version and its counts among
it. -/
theorem create_error {s s' : MemoryStore Spec Status} {r : Resource Spec Status}
    {e : StoreError} (h : s.create r = (.error e, s')) : s' = s := by
  unfold create at h
  repeat' split at h
  all_goals simp_all

/-- A deletion that fails with `e` leaves the store as it is. -/
theorem delete_error {s s' : MemoryStore Spec Status} {r : Resource Spec Status}
    {e : StoreError} (h : s.delete r = (.error e, s')) : s' = s := by
  unfold delete at h
  repeat' split at h
  all_goals simp_all

/-- A status write that fails with `e` leaves the store as it is. -/
theorem updateStatus_error {s s' : MemoryStore Spec Status} {r : Resource Spec Status}
    {e : StoreError} (h : s.updateStatus r = (.error e, s')) : s' = s := by
  unfold updateStatus at h
  repeat' split at h
  all_goals simp_all

end MemoryStore

end MailDomain
