import MailDomain.Proofs.Cluster.ApiServer
import MailDomain.Proofs.Object.Writing

/-!
# The operations of a store on a server

What each operation of a store on the API server does, by what the server keeps under the key of the
object: the answer that it gives, if what the server sent can be read, and the server after it.

## Main definitions

* `ApiServer.Manner.Yields` — what comes of an operation if what was sent can be read.

## Main results

* `ApiServer.get_absent`, `get_present` — an object is found exactly if it is there.
* `ApiServer.create_taken`, `create_vacant` — an object is created exactly if its key is vacant.
* `ApiServer.delete_absent`, `delete_other`, `delete_same` — an object is deleted exactly if it is
  there and has the identity that is named.
* `ApiServer.updateStatus_absent`, `updateStatus_stale`, `updateStatus_current` — a status is
  written exactly if the domain is there in the version that is named.
-/

set_option relaxedAutoImplicit false
set_option autoImplicit false

namespace MailDomain.ApiServer

open Cluster Json

variable {α : Type} {m : Manner} {s t : ApiServer} {v : Json} {code : Nat}

/-- The pair `x` of an answer and a server came from one request: the server is `t` with one value
more that was sent, and the answer is `a` if that value can be read from its text. -/
def Manner.Yields (m : Manner) (x : α × ApiServer) (a : α) (t : ApiServer) : Prop :=
  ∃ v, x.2 = t.sending v ∧ (IsTextOf (m.print v) v → x.1 = a)

/-- An operation `Yields` what its function `result` makes of the response to its `request`,
classified as a failure of a store. All specifications of operations below go through this lemma. -/
lemma yields_operation {k : Kind} {key : ObjectKey} {request : Except ApiFault Request}
    {r : Request} {result : Response → Except ApiFault α} {a : Except StoreError α}
    (hrequest : request = .ok r) (hserve : m.serve r s = m.reply t code v)
    (ha : IsTextOf (m.print v) v →
      (result (.answered code (m.print v))).mapError (ClusterStore.classify k key) = a) :
    m.Yields ((Operation.perform m.send (ClusterStore.operation k key request result)).run s) a
      t := by
  subst hrequest
  refine ⟨v, congrArg Prod.snd hserve, fun hv => ?_⟩
  exact (congrArg (fun x => (result x.1).mapError _) hserve).trans (ha hv)

/-- The reason that a store gives for a conflict, made from the `reason` with which the server
refused the request `r` by the code 409 and from how `m` explains it. -/
def Manner.conflictReason (m : Manner) (r : Request) (reason : String) : String :=
  (ApiFault.status {
    summary := some .failure
    code := 409
    message := m.explain r
    reason }).message

section Operations

variable {Spec Status : Type} [Manifest (Resource Spec Status)] {key : ObjectKey} {k : Kind}
  {r : Resource Spec Status} (hk : Manifest.kind (Resource Spec Status) = k)
include hk

variable (Spec Status) in
/-- Reading the object under a vacant key finds `none`, by the code 404. -/
theorem get_absent (hkey : PlainKey key)
    (hsize : (ClusterStore.objectPath k key).utf8ByteSize ≤ Address.maxLength)
    (hs : s.get? k key = none) :
    m.Yields ((Operation.perform m.send (ClusterStore.get key)).run s)
      (.ok none : Except StoreError (Option (Resource Spec Status))) s := by
  subst hk
  have hserve := serve_getRequest (k := Manifest.kind (Resource Spec Status)) hkey m s
  rw [hs] at hserve
  refine yields_operation (getRequest_eq hkey hsize) hserve fun htext => ?_
  rw [ClusterStore.found, object_eq_error rfl htext rfl]
  rfl

/-- Reading the object under a key at which the server keeps the value `v` finds the object that `v`
shows. -/
theorem get_present (hkey : PlainKey key)
    (hsize : (ClusterStore.objectPath k key).utf8ByteSize ≤ Address.maxLength)
    (hs : s.get? k key = some v) (hv : Shows v key r) :
    m.Yields ((Operation.perform m.send (ClusterStore.get key)).run s)
      (.ok (some r) : Except StoreError (Option (Resource Spec Status))) s := by
  subst hk
  have hserve := serve_getRequest (k := Manifest.kind (Resource Spec Status)) hkey m s
  rw [hs] at hserve
  refine yields_operation (getRequest_eq hkey hsize) hserve fun htext => ?_
  rw [ClusterStore.found, object_eq_ok rfl htext hv.decode_eq]
  rfl

/-- The operation that creates an object with the key `key`: a `post` to the collection, with the
encoded object for its body. -/
lemma create_eq (hr : r.key? = some key) :
    ClusterStore.create r = ClusterStore.operation k key
      (ClusterStore.request .post (collectionPath k (some key.ns) ++ "?&fieldManager=" ++
        ClusterStore.fieldManager) (some (.value (Manifest.encode r))))
      (fun response => do let (_ : Resource Spec Status) ← response.object Manifest.decode) := by
  subst hk
  rw [ClusterStore.create, ClusterStore.keyOf, hr]
  rfl

/-- The operation that deletes an object with the key `key`: a `delete` with the `uid` of the object
for its precondition. -/
lemma delete_eq (hr : r.key? = some key) :
    ClusterStore.delete r = ClusterStore.operation k key
      (do
        ClusterStore.named key
        ClusterStore.request .delete (ClusterStore.objectPath k key ++ "?")
          (some (.value (ClusterStore.deleteOptions r.metadata.uid))))
      (fun response => response.deletion (Manifest.decode (α := Resource Spec Status))) := by
  subst hk
  rw [ClusterStore.delete, ClusterStore.keyOf, hr]
  rfl

/-- The operation that writes the status of an object with the key `key` and the version `version`:
a merge patch of its status, in which that version stands. -/
lemma updateStatus_eq {version : String} (hr : r.key? = some key)
    (hversion : r.metadata.resourceVersion = some version) :
    ClusterStore.updateStatus r = ClusterStore.operation k key
      (do
        ClusterStore.named key
        ClusterStore.request .patch (ClusterStore.objectPath k key ++ "/status?")
          (some (.mergePatch (patchOf version (Manifest.encode r)))))
      (fun response => do let (_ : Resource Spec Status) ← response.object Manifest.decode) := by
  subst hk
  rw [ClusterStore.updateStatus, ClusterStore.keyOf, hr, statusPatch, hversion]
  rfl

/-- Creating an object under a key at which the server keeps something is a conflict, and leaves the
server as it is. -/
theorem create_taken [LawfulManifest Spec Status] (hkey : PlainKey key)
    (hsize : (collectionPath k (some key.ns) ++ "?&fieldManager=" ++
      ClusterStore.fieldManager).utf8ByteSize ≤ Address.maxLength)
    (hr : Shows (Manifest.encode r) key r) (hs : s.get? k key = some v) :
    m.Yields ((Operation.perform m.send (ClusterStore.create r)).run s)
      (.error (.conflict k.name key
        (m.conflictReason (createRequest k key.ns (Manifest.encode r)) "AlreadyExists"))) s := by
  have hserve := serve_createRequest (k := k) hkey m s hr.name_eq
  rw [hs] at hserve
  rw [create_eq hk hr.key?_eq]
  refine yields_operation (createRequest_eq hkey hsize) hserve fun htext => ?_
  rw [object_eq_error rfl htext rfl]
  rfl

/-- Creating an object under a vacant key succeeds, and the server keeps the encoded object with a
fresh `uid` and version. -/
theorem create_vacant [LawfulManifest Spec Status] (hkey : PlainKey key)
    (hsize : (collectionPath k (some key.ns) ++ "?&fieldManager=" ++
      ClusterStore.fieldManager).utf8ByteSize ≤ Address.maxLength)
    (hr : Shows (Manifest.encode r) key r) (hs : s.get? k key = none) :
    m.Yields ((Operation.perform m.send (ClusterStore.create r)).run s) (.ok ())
      (m.add s k key (Manifest.encode r)) := by
  have hserve := serve_createRequest (k := k) hkey m s hr.name_eq
  rw [hs] at hserve
  dsimp only at hserve
  -- The response holds the object as it was stored.
  rw [get?_add] at hserve
  rw [create_eq hk hr.key?_eq]
  refine yields_operation (createRequest_eq hkey hsize) hserve fun htext => ?_
  rw [object_eq_ok rfl htext ((hr.setUid _).setVersion _).decode_eq]
  rfl

variable {uid : String}

/-- Deleting an object under a vacant key fails with `notFound`. -/
theorem delete_absent (hkey : PlainKey key)
    (hsize : (ClusterStore.objectPath k key ++ "?").utf8ByteSize ≤ Address.maxLength)
    (hr : r.key? = some key) (hu : r.metadata.uid = some uid) (hs : s.get? k key = none) :
    m.Yields ((Operation.perform m.send (ClusterStore.delete r)).run s)
      (.error (.notFound k.name key)) s := by
  have hserve := serve_deleteRequest (k := k) hkey m s uid
  rw [hs] at hserve
  rw [delete_eq hk hr, hu]
  refine yields_operation (deleteRequest_eq hkey hsize) hserve fun htext => ?_
  rw [deletion_eq_error rfl htext rfl]
  rfl

/-- Deleting an object whose `uid` is not that of what the server keeps under the key is a conflict,
and leaves the server as it is. -/
theorem delete_other (hkey : PlainKey key)
    (hsize : (ClusterStore.objectPath k key ++ "?").utf8ByteSize ≤ Address.maxLength)
    (hr : r.key? = some key) (hu : r.metadata.uid = some uid) (hs : s.get? k key = some v)
    (hv : Server.metadataText "uid" v ≠ some uid) :
    m.Yields ((Operation.perform m.send (ClusterStore.delete r)).run s)
      (.error (.conflict k.name key
        (m.conflictReason (deleteRequest k key (some uid)) "Conflict"))) s := by
  have hserve := serve_deleteRequest (k := k) hkey m s uid
  rw [hs] at hserve
  dsimp only at hserve
  rw [if_neg hv] at hserve
  rw [delete_eq hk hr, hu]
  refine yields_operation (deleteRequest_eq hkey hsize) hserve fun htext => ?_
  rw [deletion_eq_error rfl htext rfl]
  rfl

/-- Deleting an object whose `uid` is that of what the server keeps under the key succeeds, and
nothing is left there. -/
theorem delete_same (hkey : PlainKey key)
    (hsize : (ClusterStore.objectPath k key ++ "?").utf8ByteSize ≤ Address.maxLength)
    (hr : r.key? = some key) (hu : r.metadata.uid = some uid) (hs : s.get? k key = some v)
    (hv : Server.metadataText "uid" v = some uid) :
    m.Yields ((Operation.perform m.send (ClusterStore.delete r)).run s) (.ok ())
      (s.remove k key) := by
  have hserve := serve_deleteRequest (k := k) hkey m s uid
  rw [hs] at hserve
  dsimp only at hserve
  rw [if_pos hv] at hserve
  rw [delete_eq hk hr, hu]
  refine yields_operation (deleteRequest_eq hkey hsize) hserve fun htext => ?_
  rw [deletion_eq_ok _ _ htext]
  rfl

end Operations

section Statuses

/-- The patch of a status names the version that it is meant for. -/
@[simp] lemma metadataText_patchOf (version : String) (v : Json) :
    Server.metadataText "resourceVersion" (patchOf version v) = some version := rfl

variable {key : ObjectKey} {d e : Domain} {status : DomainStatus} {version : String}
  (hkey : PlainKey key)
  (hsize : (ClusterStore.objectPath .domain key ++ "/status?").utf8ByteSize ≤ Address.maxLength)
  (he : e.key? = some key) (hversion : e.metadata.resourceVersion = some version)
include hkey hsize he hversion

/-- Writing the status of a domain under a vacant key fails with `notFound`. -/
theorem updateStatus_absent (hs : s.get? .domain key = none) :
    m.Yields ((Operation.perform m.send (ClusterStore.updateStatus e)).run s)
      (.error (.notFound Kind.domain.name key)) s := by
  have hserve := serve_patchRequest (k := .domain) hkey m s (patchOf version e.encode)
  rw [hs] at hserve
  rw [updateStatus_eq rfl he hversion]
  refine yields_operation (patchRequest_eq hkey hsize) hserve fun htext => ?_
  rw [object_eq_error rfl htext rfl]
  rfl

/-- Writing the status of a domain in another version than the one that the server keeps is a
conflict, and leaves the server as it is. -/
theorem updateStatus_stale (hs : s.get? .domain key = some v)
    (hv : some version ≠ Server.metadataText "resourceVersion" v) :
    m.Yields ((Operation.perform m.send (ClusterStore.updateStatus e)).run s)
      (.error (.conflict Kind.domain.name key (m.conflictReason
        (patchRequest .domain key (patchOf version e.encode)) "Conflict"))) s := by
  have hserve := serve_patchRequest (k := .domain) hkey m s (patchOf version e.encode)
  rw [hs] at hserve
  dsimp only at hserve
  rw [metadataText_patchOf, if_neg hv] at hserve
  rw [updateStatus_eq rfl he hversion]
  refine yields_operation (patchRequest_eq hkey hsize) hserve fun htext => ?_
  rw [object_eq_error rfl htext rfl]
  rfl

/-- Writing the status of a domain in the version that the server keeps succeeds: the server merges
the patch into what it keeps, and gives that a fresh version. -/
theorem updateStatus_current (hstatus : e.status = some status)
    (hs : s.get? .domain key = some v) (hd : Shows v key d)
    (hv : some version = Server.metadataText "resourceVersion" v) :
    m.Yields ((Operation.perform m.send (ClusterStore.updateStatus e)).run s) (.ok ())
      (m.store s .domain key (mergePatch v (patchOf version e.encode))) := by
  have hserve := serve_patchRequest (k := .domain) hkey m s (patchOf version e.encode)
  rw [hs] at hserve
  dsimp only at hserve
  rw [metadataText_patchOf, if_pos hv, get?_store] at hserve
  rw [updateStatus_eq rfl he hversion]
  refine yields_operation (patchRequest_eq hkey hsize) hserve fun htext => ?_
  rw [object_eq_ok rfl htext ((hd.mergeStatus hstatus version).setVersion _).decode_eq]
  rfl

end Statuses

end MailDomain.ApiServer
