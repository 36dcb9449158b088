import MailDomain.Json.MergePatch
import MailDomain.Pass.Deadline
import MailDomain.Store.Memory

/-!
# Rehearsals

Passes can be tried out over two stores in memory and a checker that follows a script. A
script can make a store call wait or fail, show a pass an old copy of an object, and let
another writer act while a check runs. The calls that are made are written down.

## Main definitions

* `Rehearsal.Operation`, `Rehearsal.Fault` — store calls, and what can be wrong with one.
* `Rehearsal.Shelf` — a store with the faults to come and with the copy that it shows.
* `Rehearsal.StoreStep`, `Rehearsal.Step` — what a script does to a store.
* `Rehearsal.CheckScript` — how a check goes.
* `Rehearsal.World` — the stores, the checker, the calls made and what was counted.
-/

set_option relaxedAutoImplicit false
set_option autoImplicit false

namespace MailDomain.Rehearsal

/-- A call to a store, which a `Fault` can be set for. -/
inductive Operation
  | get
  | create
  | delete
  | updateStatus
  deriving DecidableEq, Repr

/-- The name of a call to a store, as the list of calls shows it. -/
def Operation.name : Operation → String
  | .get => "get"
  | .create => "create"
  | .delete => "delete"
  | .updateStatus => "update_status"

/-- What happens to one call of an `operation`: it waits for the `delay`, and then fails if there is
an error. -/
structure Fault where
  operation : Operation
  delay : Duration := .zero
  error : Option StoreError := none

/-- A store, the faults to come, and the copy that is shown for every key if one is `frozen`. -/
structure Shelf (Spec Status : Type) where
  store : MemoryStore Spec Status := {}
  faults : List Fault := []
  frozen : Option (Option (Resource Spec Status)) := none

/-- A step of a script that concerns one store, see `runStoreStep`. -/
inductive StoreStep (Spec Status : Type)
  | insert (r : Resource Spec Status)
  | get (key : ObjectKey)
  | create (r : Resource Spec Status)
  | delete (r : Resource Spec Status)
  | updateStatus (r : Resource Spec Status)
  /-- A merge patch of a stored object, behind the back of the calls. -/
  | edit (key : ObjectKey) (patch : Json)
  /-- A deletion of a stored object, behind the back of the calls. -/
  | deleteStored (key : ObjectKey)
  | bump (key : ObjectKey)
  /-- From now on every `get` finds this. -/
  | freeze (r : Option (Resource Spec Status))
  /-- From now on every `get` finds what is stored now under a key. -/
  | freezeStored (key : ObjectKey)
  | thaw
  | fault (f : Fault)
  | dump

/-- A step of a script that concerns the store of one of the kinds, see `runStep`. -/
inductive Step
  | domains (s : StoreStep DomainSpec DomainStatus)
  | ingresses (s : StoreStep (Option IngressSpec) IngressStatus)

/-- How a check goes: it takes the time `delay` and has a result. While it takes place for the first
time, the steps `during` are made. -/
structure CheckScript where
  result : Except ProbeError Bool := .ok true
  delay : Duration := .zero
  during : List Step := []

/-- What a script acts on: the two stores, the checks, and what was seen of calls and counted so
far. -/
structure World where
  domains : Shelf DomainSpec DomainStatus := {}
  ingresses : Shelf (Option IngressSpec) IngressStatus := {}
  checks : Check → CheckScript := fun _ => {}
  /-- The calls made so far, the last one first. -/
  calls : List String := []
  metrics : Registry := {}

namespace World

/-- The world with a call written down, in front of those before it. -/
def called (w : World) (call : String) : World := { w with calls := call :: w.calls }

/-- The world with another script for the check `c`, those of the other checks being as they
were. -/
def withCheck (w : World) (c : Check) (s : CheckScript) : World :=
  { w with checks := fun d => if d = c then s else w.checks d }

end World

/-- One of the two stores of the world: its name, and how to look at it and change it. -/
structure Side (Spec Status : Type) where
  name : String
  look : World → Shelf Spec Status
  change : (Shelf Spec Status → Shelf Spec Status) → World → World

/-- The store of domains as a `Side` of the world. -/
def domainSide : Side DomainSpec DomainStatus where
  name := Kind.domain.collection
  look w := w.domains
  change f w := { w with domains := f w.domains }

/-- The store of ingresses as a `Side` of the world. -/
def ingressSide : Side (Option IngressSpec) IngressStatus where
  name := Kind.ingress.collection
  look w := w.ingresses
  change f w := { w with ingresses := f w.ingresses }

end MailDomain.Rehearsal
