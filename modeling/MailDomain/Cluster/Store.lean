import MailDomain.Cluster.Request
import MailDomain.Cluster.Response
import MailDomain.Cluster.StatusPatch

/-!
# A store on the API server

Each operation of the store is one request, and a reading of its response. An operation that
cannot be put as a request fails without one.

## Main definitions

* `Cluster.Operation` — a request and what its response means, with `Operation.perform`.
* `ClusterStore.get`, `create`, `delete`, `updateStatus` — the operations of the store.
* `ClusterStore.classify` — the failures of the API server as failures of a store.

## Main results

* `ClusterStore.classify_status` — the code of a status object decides its class.
-/

set_option relaxedAutoImplicit false
set_option autoImplicit false

namespace MailDomain

namespace Cluster

/-- An operation of the store: one `request`, and what its response means, as a `result` or a
failure of the store. -/
structure Operation (α : Type) where
  request : Request
  result : Response → Except StoreError α

/-- Performs the operation in a monad in which `send` sends a request. Where there is no operation
but a failure, nothing is sent. -/
def Operation.perform {m : Type → Type} [Monad m] {α : Type} (send : Request → m Response) :
    Except StoreError (Operation α) → m (Except StoreError α)
  | .error e => return .error e
  | .ok o => return o.result (← send o.request)

end Cluster

namespace ClusterStore

open Cluster

/-- The name under which the operator writes, as it tells the server when it creates an object. -/
def fieldManager : String := "maildomain-operator"

/-- The failure `f` of the API server as a failure of the operation on the object of the kind `kind`
under `key`. The code of a status decides whether it is a conflict, or that nothing was found. -/
def classify (kind : Kind) (key : ObjectKey) (f : ApiFault) : StoreError :=
  match f with
  | .status s =>
    if s.code = 404 then .notFound kind.name key
    else if s.code = 409 then .conflict kind.name key f.message
    else .api kind.name key f
  | _ => .api kind.name key f

/-- A status with the code 404, and no other, is classified as not found, and one with the code 409
as a conflict. -/
theorem classify_status (kind : Kind) (key : ObjectKey) (s : ApiStatus) :
    (classify kind key (.status s)).isNotFound = (s.code == 404) ∧
      (classify kind key (.status s)).isConflict = (s.code == 409) := by
  unfold classify
  by_cases h : s.code = 404
  · simp [h, StoreError.isNotFound, StoreError.isConflict]
  · by_cases h' : s.code = 409
    · simp [h', StoreError.isNotFound, StoreError.isConflict]
    · simp [h, h', StoreError.isNotFound, StoreError.isConflict]

/-- A request to the address that is written as `address`, or the fault of that text. -/
def request (m : Method) (address : String) (body : Option Body) : Except ApiFault Request :=
  match Address.read address with
  | .ok a => .ok ⟨m, a, body⟩
  | .error f => .error (.badAddress f)

/-- Refuses a key with an empty name, which would address the whole collection. -/
def named (key : ObjectKey) : Except ApiFault Unit :=
  if key.name.isEmpty then .error .nameless else .ok ()

/-- The path of the object of the kind `kind` under `key`, with the name as it is. -/
def objectPath (kind : Kind) (key : ObjectKey) : String :=
  collectionPath kind (some key.ns) ++ "/" ++ key.name

/-- The operation on the object under `key` that sends `request` and takes its response for what
`result` says. Failures of both are put through `classify`. -/
def operation {α : Type} (kind : Kind) (key : ObjectKey) (request : Except ApiFault Request)
    (result : Response → Except ApiFault α) : Except StoreError (Operation α) := do
  let request ← request.mapError (classify kind key)
  return ⟨request, fun r => (result r).mapError (classify kind key)⟩

/-- What the response to a query for an object means: the object, or `none` if the server says
`NotFound` for its reason. -/
def found {α : Type} (read : Json.Decoder α) (r : Response) : Except ApiFault (Option α) :=
  match r.object read with
  | .ok a => .ok (some a)
  | .error (.status s) => if s.reason = "NotFound" then .ok none else .error (.status s)
  | .error f => .error f

/-- The options of a deletion: only the incarnation with the identity `uid` is to be removed, and
the objects that it owns afterwards. -/
def deleteOptions (uid : Option String) : Json :=
  .obj [
    ("preconditions", Json.ofFields [("uid", uid.map .str)]),
    ("propagationPolicy", .str "Background")]

variable {Spec Status : Type} [Manifest (Resource Spec Status)]

/-- The key of the object `r`, which every write needs. An object without one is refused. -/
def keyOf (r : Resource Spec Status) : Except StoreError ObjectKey :=
  match r.key? with
  | some key => .ok key
  | none => .error (.keyless (Manifest.kind (Resource Spec Status)))

/-- Finds the object under `key`, or `none` if there is none. -/
def get (key : ObjectKey) : Except StoreError (Operation (Option (Resource Spec Status))) :=
  let kind := Manifest.kind (Resource Spec Status)
  let request := do
    named key
    request .get (objectPath kind key) none
  operation kind key request (found Manifest.decode)

/-- Creates the object `r`. The object that the server answers with must be readable. -/
def create (r : Resource Spec Status) : Except StoreError (Operation Unit) := do
  let kind := Manifest.kind (Resource Spec Status)
  let key ← keyOf r
  let address := collectionPath kind (some key.ns) ++ "?&fieldManager=" ++ fieldManager
  operation kind key (request .post address (some (.value (Manifest.encode r)))) fun response => do
    let (_ : Resource Spec Status) ← response.object Manifest.decode

/-- Deletes the object `r`, but not another incarnation under its key. -/
def delete (r : Resource Spec Status) : Except StoreError (Operation Unit) := do
  let kind := Manifest.kind (Resource Spec Status)
  let key ← keyOf r
  let request := do
    named key
    request .delete (objectPath kind key ++ "?") (some (.value (deleteOptions r.metadata.uid)))
  operation kind key request fun response =>
    response.deletion (Manifest.decode (α := Resource Spec Status))

/-- Writes the status of the object `r`, if it has not changed on the server since it was read. -/
def updateStatus (r : Resource Spec Status) : Except StoreError (Operation Unit) := do
  let kind := Manifest.kind (Resource Spec Status)
  let key ← keyOf r
  let patch ← statusPatch kind.name r
  let request := do
    named key
    request .patch (objectPath kind key ++ "/status?") (some (.mergePatch patch))
  operation kind key request fun response => do
    let (_ : Resource Spec Status) ← response.object Manifest.decode

end ClusterStore

end MailDomain
