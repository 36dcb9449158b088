import Mathlib
import MailDomain.Cluster.Site
import MailDomain.Proofs.Cluster.Address
import MailDomain.Proofs.Object.Reading

/-!
# The API server that a store relies on

What a store on the API server relies on: a server that keeps one JSON object per kind and key, and
answers `GET`, `POST`, `DELETE` and merge patches of statuses. How the server chooses new identities
and versions, how it writes JSON and how it words its refusals is left open.

## Main definitions

* `ApiServer` — the objects of a server, the identities and versions that it ever gave, and what it
  answered with.
* `ApiServer.Manner` — what is left open about a server, with `Manner.brief` for an example.
* `ApiServer.Manner.serve` — the response to a request, with the server after it.
* `ApiServer.IsTextOf`, `ApiServer.reads` — a text is one of a value.
* `ApiServer.getRequest`, `createRequest`, `deleteRequest`, `patchRequest` — the requests of a
  store.

## Main results

* `ApiServer.object_eq_ok`, `object_eq_error`, `deletion_eq_ok`, `deletion_eq_error` — what is made
  of a response that can be read.
* `ApiServer.serve_getRequest`, `serve_createRequest`, `serve_deleteRequest`, `serve_patchRequest` —
  what a server makes of the requests of a store.

## Design

* A server is described by what a store relies on and by nothing else. `Manner` leaves open what a
  store must not rely on: how JSON is laid out, what an identity or a version looks like, and how a
  refusal is worded. What is shown of a server holds for every `Manner`.
* `Manner.fresh` may choose by all that the server keeps. Its one law, `fresh_notMem`, is that it
  never repeats itself, for which the server remembers in `used` what it gave, also to objects that
  are gone.
* Whether a server writes JSON that can be read is not a law of `Manner.print`, which would have to
  hold of values that are never sent. Instead the server keeps what it sent in `sent`, and a result
  may ask that just these values can be read from their texts, by `IsTextOf`.
* A server checks the two preconditions that a store sends, the `uid` of a deletion and the
  `resourceVersion` of a patch. It does not validate objects, and a deletion takes effect at once.
* Requests arrive one at a time, and each is answered. Refusals that a store cannot foresee, such as
  one for lack of permission, are not described here.
-/

set_option relaxedAutoImplicit false
set_option autoImplicit false

namespace MailDomain

open Cluster Json

/-- A server, as far as a store relies on it: the JSON objects that it holds by kind and key, every
identity and version that it ever gave, in `used`, and every value that it answered with, in `sent`,
both with the last one first. -/
structure ApiServer where
  objects : Kind → Table Json
  used : List String
  sent : List Json := []

namespace ApiServer

/-- The object of the kind `k` that the server holds under `key`, if any. -/
def get? (s : ApiServer) (k : Kind) (key : ObjectKey) : Option Json := (s.objects k).get? key

/-- The server with the object `v` under `key`, exactly as it is given. -/
def put (s : ApiServer) (k : Kind) (key : ObjectKey) (v : Json) : ApiServer :=
  { s with objects := Function.update s.objects k ((s.objects k).insert key v) }

/-- The server with nothing under `key` among the objects of the kind `k`. -/
def remove (s : ApiServer) (k : Kind) (key : ObjectKey) : ApiServer :=
  { s with objects := Function.update s.objects k ((s.objects k).erase key) }

/-- The server after it answered with the value `v`. -/
def sending (s : ApiServer) (v : Json) : ApiServer := { s with sent := v :: s.sent }

/-- The server after it gave `u` as an identity or a version. -/
def giving (s : ApiServer) (u : String) : ApiServer := { s with used := u :: s.used }

/-- What is left open about a server: how it prints a value as a text, which identity or version it
gives next, and how it explains the refusal of a request. -/
structure Manner where
  print : Json → String
  fresh : ApiServer → String
  explain : Request → String
  /-- No identity or version is given twice, so that an old one is never mistaken for a new one. -/
  fresh_notMem : ∀ s, fresh s ∉ s.used

/-- The `Status` object with which a server tells that it refused a request, or did what it was
asked to. -/
def statusOf (summary : ApiStatus.Summary) (code : Nat) (reason message : String) : Json :=
  .obj [
    ("apiVersion", .str "v1"),
    ("code", Json.ofNat code),
    ("kind", .str "Status"),
    ("message", .str message),
    ("reason", .str reason),
    ("status", .str summary.name)]

namespace Manner

variable (m : Manner)

/-- A response with the code `code` and the value `v`, as `m` prints it. -/
def reply (s : ApiServer) (code : Nat) (v : Json) : Response × ApiServer :=
  (.answered code (m.print v), s.sending v)

/-- The refusal of the request `r`, with a `statusOf` failure for its value. -/
def refuse (s : ApiServer) (r : Request) (code : Nat) (reason : String) : Response × ApiServer :=
  m.reply s code (statusOf .failure code reason (m.explain r))

/-- The server with the object `v` under `key` in a fresh version, which counts as given from then
on. -/
def store (s : ApiServer) (k : Kind) (key : ObjectKey) (v : Json) : ApiServer :=
  (s.put k key (v.withMetadata "resourceVersion" (m.fresh s))).giving (m.fresh s)

/-- The server with the object `v` under `key` as a new one, with a fresh `uid` and a fresh
version. -/
def add (s : ApiServer) (k : Kind) (key : ObjectKey) (v : Json) : ApiServer :=
  m.store (s.giving (m.fresh s)) k key (v.withMetadata "uid" (m.fresh s))

/-- The identity that the `options` of a deletion ask for, if they ask for one. -/
def precondition (options : Json) : Option Json :=
  (options.get? "preconditions").bind fun p => p.get? "uid"

/-- The response of a server to the request `r`, with the server after it. The path says which
object or collection is meant. A deletion is refused if its `precondition` names another `uid` than
that of the object, and a patch of a status if it names another version. -/
def serve (r : Request) (s : ApiServer) : Response × ApiServer :=
  let body := (r.body.map Body.content).getD .null
  match Route.ofPath? r.address.path with
  | none => m.refuse s r 404 "NotFound"
  | some ⟨k, ns, place⟩ =>
    match r.method, place with
    | .get, .object name =>
      match s.get? k ⟨ns, name⟩ with
      | none => m.refuse s r 404 "NotFound"
      | some v => m.reply s 200 v
    | .post, .all =>
      let key : ObjectKey := ⟨ns, (Server.metadataText "name" body).getD ""⟩
      match s.get? k key with
      | some _ => m.refuse s r 409 "AlreadyExists"
      | none =>
        let t := m.add s k key body
        m.reply t 201 ((t.get? k key).getD .null)
    | .delete, .object name =>
      match s.get? k ⟨ns, name⟩ with
      | none => m.refuse s r 404 "NotFound"
      | some v =>
        match precondition body with
        | some (.str uid) =>
          if Server.metadataText "uid" v = some uid then
            m.reply (s.remove k ⟨ns, name⟩) 200 (statusOf .success 200 "" "")
          else m.refuse s r 409 "Conflict"
        | _ => m.reply (s.remove k ⟨ns, name⟩) 200 (statusOf .success 200 "" "")
    | .patch, .status name =>
      match s.get? k ⟨ns, name⟩ with
      | none => m.refuse s r 404 "NotFound"
      | some v =>
        if Server.metadataText "resourceVersion" body = Server.metadataText "resourceVersion" v then
          let t := m.store s k ⟨ns, name⟩ (mergePatch v body)
          m.reply t 200 ((t.get? k ⟨ns, name⟩).getD .null)
        else m.refuse s r 409 "Conflict"
    | _, _ => m.refuse s r 405 "MethodNotAllowed"

/-- Sends a request in the state monad of servers, in the way in which a store sends one. -/
def send (r : Request) : StateM ApiServer Response := m.serve r

end Manner

/-- A text that is longer than every one in `used`. -/
def longer (used : List String) : String := used.foldr (· ++ ·) "v"

/-- Each text in `used` is shorter than `longer used`, which is therefore none of them. -/
lemma length_lt_longer {used : List String} {u : String} (h : u ∈ used) :
    u.length < (longer used).length := by
  have hpos : ∀ us : List String, 0 < (longer us).length := by
    intro us
    induction us with
    | nil => decide
    | cons w us ih =>
      rw [longer, List.foldr_cons, String.length_append]
      exact Nat.add_pos_right _ ih
  induction used with
  | nil => cases h
  | cons w us ih =>
    rw [longer, List.foldr_cons, String.length_append]
    rcases List.mem_cons.1 h with rfl | h
    · exact Nat.lt_add_of_pos_right (hpos us)
    · exact Nat.lt_add_left _ (ih h)

/-- The manner of a server that prints each value on one line, gives ever longer names and explains
nothing. It shows that there is a `Manner`. -/
def Manner.brief : Manner where
  print := Json.render
  fresh s := longer s.used
  explain _ := ""
  fresh_notMem s h := lt_irrefl _ (length_lt_longer (u := longer s.used) h)

/-! ### What a server keeps -/

section Keeping

variable {s : ApiServer} {k j : Kind} {key other : ObjectKey} {v : Json}

/-- An object that was `put` under a key is there. -/
@[simp] lemma get?_put_self : (s.put k key v).get? k key = some v := by
  simp [get?, put]

/-- What was removed from under a key is not there. -/
@[simp] lemma get?_remove_self : (s.remove k key).get? k key = none := by
  simp [get?, remove]

/-- Putting an object leaves those of other kinds and under other keys. -/
lemma get?_put_of_ne (h : j ≠ k ∨ other ≠ key) : (s.put k key v).get? j other = s.get? j other := by
  by_cases hj : j = k
  · subst hj
    have hne : other ≠ key := h.resolve_left (absurd rfl)
    simp [get?, put, Table.get?_insert_of_ne hne]
  · simp [get?, put, hj]

/-- Removing an object leaves those of other kinds and under other keys. -/
lemma get?_remove_of_ne (h : j ≠ k ∨ other ≠ key) :
    (s.remove k key).get? j other = s.get? j other := by
  by_cases hj : j = k
  · subst hj
    have hne : other ≠ key := h.resolve_left (absurd rfl)
    simp [get?, remove, Table.get?_erase_of_ne hne]
  · simp [get?, remove, hj]

/-- An object that the server stored is there in a fresh version. -/
lemma get?_store (m : Manner) : (m.store s k key v).get? k key =
    some (v.withMetadata "resourceVersion" (m.fresh s)) := get?_put_self

/-- Storing an object leaves those of other kinds and under other keys. -/
lemma get?_store_of_ne (m : Manner) (h : j ≠ k ∨ other ≠ key) :
    (m.store s k key v).get? j other = s.get? j other := get?_put_of_ne h

/-- An object that the server added is there with a fresh `uid` and a fresh version, which are two
different texts. -/
lemma get?_add (m : Manner) : (m.add s k key v).get? k key =
    some ((v.withMetadata "uid" (m.fresh s)).withMetadata "resourceVersion"
      (m.fresh (s.giving (m.fresh s)))) := get?_put_self

end Keeping

end ApiServer

/-! ### Texts of a value -/

namespace Json.Draft

mutual

/-- Whether the draft, which is what reading a text as JSON gives, is that of the value. -/
def agrees : Draft → Json → Bool
  | .null, .null => true
  | .bool a, .bool b => a == b
  | .num a, .num b => a == b
  | .str a, .str b => a == b
  | .arr ds e, .arr vs => e == .closed && agreeElems ds vs
  | .obj ds e, .obj vs => e == .closed && agreeMembers ds vs
  | _, _ => false

/-- Whether the drafts are those of the elements of an array, one by one. -/
def agreeElems : List Draft → List Json → Bool
  | [], [] => true
  | d :: ds, v :: vs => d.agrees v && agreeElems ds vs
  | _, _ => false

/-- Whether the drafts are those of the members of an object, one by one and with the same names. -/
def agreeMembers : List (Except Fault String × Draft) → List (String × Json) → Bool
  | [], [] => true
  | (.ok j, d) :: ds, (k, v) :: vs => j == k && d.agrees v && agreeMembers ds vs
  | _, _ => false

end

mutual

/-- A draft that `agrees` with a value is `Draft.ofJson` of it. -/
lemma eq_ofJson : ∀ (d : Draft) (v : Json), d.agrees v = true → d = .ofJson v
  | .null, .null, _ => rfl
  | .bool _, .bool _, h => by simp_all [agrees, ofJson]
  | .num _, .num _, h => by simp_all [agrees, ofJson]
  | .str _, .str _, h => by simp_all [agrees, ofJson]
  | .arr ds e, .arr vs, h => by
    simp only [agrees, Bool.and_eq_true, beq_iff_eq] at h
    rw [ofJson, h.1, eq_ofElems ds vs h.2]
  | .obj ds e, .obj vs, h => by
    simp only [agrees, Bool.and_eq_true, beq_iff_eq] at h
    rw [ofJson, h.1, eq_ofMembers ds vs h.2]

/-- Drafts that agree with the elements of an array are `ofElems` of them. -/
lemma eq_ofElems : ∀ (ds : List Draft) (vs : List Json), agreeElems ds vs = true → ds = ofElems vs
  | [], [], _ => rfl
  | d :: ds, v :: vs, h => by
    simp only [agreeElems, Bool.and_eq_true] at h
    rw [ofElems, eq_ofJson d v h.1, eq_ofElems ds vs h.2]

/-- Drafts that agree with the members of an object are `ofMembers` of them. -/
lemma eq_ofMembers : ∀ (ds : List (Except Fault String × Draft)) (vs : List (String × Json)),
    agreeMembers ds vs = true → ds = ofMembers vs
  | [], [], _ => rfl
  | (.ok j, d) :: ds, (k, v) :: vs, h => by
    simp only [agreeMembers, Bool.and_eq_true, beq_iff_eq] at h
    rw [ofMembers, h.1.1, eq_ofJson d v h.1.2, eq_ofMembers ds vs h.2]

end

end Json.Draft

namespace ApiServer

/-- The text `t` is JSON for the value `v`: its draft is that of `v`, and nothing but white space
follows. -/
def IsTextOf (t : String) (v : Json) : Prop :=
  (Draft.ofText t).1 = .ofJson v ∧ Json.atEnd (Draft.ofText t).2 = .ok ()

/-- Whether `t` is a text of `v`, as a test that can be run. -/
def reads (t : String) (v : Json) : Bool :=
  (Draft.ofText t).1.agrees v && (Json.atEnd (Draft.ofText t).2).isOk

/-- A text that passes the test `reads` is one of the value. -/
lemma isTextOf_of_reads {t : String} {v : Json} (h : reads t v = true) : IsTextOf t v := by
  rw [reads, Bool.and_eq_true] at h
  refine ⟨Draft.eq_ofJson _ _ h.1, ?_⟩
  cases hend : Json.atEnd (Draft.ofText t).2 with
  | ok u => rfl
  | error f =>
    rw [hend] at h
    cases h.2

/-! ### Responses that can be read -/

/-- What the decoder `read` makes of a value, it makes of every text of the value. -/
lemma IsTextOf.readRecord_eq {α : Type} {read : Decoder α} {t : String} {v : Json} {a : α}
    (h : IsTextOf t v) (hv : read v = .ok a) : Json.readRecord read t = .ok a := by
  simp [Json.readRecord, h.1, h.2, hv]

variable {α : Type} {read : Decoder α} {code : Nat} {body : String} {v : Json} {a : α}
  {f : ApiStatus}

/-- A response without failure gives the object that `read` makes of its value. -/
lemma object_eq_ok (hcode : Response.isFailure code = false) (h : IsTextOf body v)
    (hv : read v = .ok a) : (Response.answered code body).object read = .ok a := by
  simp [Response.object, Response.text_of_success hcode, h.readRecord_eq hv, bind, Except.bind,
    Except.mapError]

/-- A response with a failing code gives the failure that its value describes. -/
lemma object_eq_error (hcode : Response.isFailure code = true) (h : IsTextOf body v)
    (hv : ApiStatus.decode v = .ok f) :
    (Response.answered code body).object read = .error (.status f) := by
  simp [Response.object, Response.text, hcode, ApiStatus.explaining, h.readRecord_eq hv, bind,
    Except.bind]

/-- A response to a deletion with a failing code gives the failure that its value describes. -/
lemma deletion_eq_error (hcode : Response.isFailure code = true) (h : IsTextOf body v)
    (hv : ApiStatus.decode v = .ok f) :
    (Response.answered code body).deletion read = .error (.status f) := by
  simp [Response.deletion, Response.text, hcode, ApiStatus.explaining, h.readRecord_eq hv, bind,
    Except.bind]

/-- A response to a deletion with a `statusOf` success is accepted. -/
lemma deletion_eq_ok (reason message : String)
    (h : IsTextOf body (statusOf .success 200 reason message)) :
    (Response.answered 200 body).deletion read = .ok () := by
  have hwhole : Json.whole Json.maxDepth (statusOf .success 200 reason message : Json) =
      .ok (statusOf .success 200 reason message) := by
    rw [Json.whole, Draft.value_ofJson _ (by simp [statusOf, depth, depthOfMembers, maxDepth,
      Json.ofNat])]
    rfl
  have hdecode : ApiStatus.decode (statusOf .success 200 reason message : Json) = .ok _ := rfl
  have hkind : (statusOf .success 200 reason message).sorted.get? "kind" =
      some (.str "Status") := by
    simp [statusOf, sorted, sortedOnto, Json.get?, Json.members, Members.get?_set_of_ne, Json.ofNat]
  have htext : (Response.answered 200 body).text = .ok body := Response.text_of_success rfl body
  simp [Response.deletion, htext, h.readRecord_eq hwhole, h.readRecord_eq hdecode, hkind, bind,
    Except.bind, Except.mapError, pure, Except.pure]

/-! ### The requests of a store -/

section Requests

variable {k : Kind} {key : ObjectKey}

/-- The request with which a store reads the object under `key`. -/
def getRequest (k : Kind) (key : ObjectKey) : Request :=
  ⟨.get, ⟨ClusterStore.objectPath k key, none⟩, none⟩

/-- The request with which a store creates an object in the namespace `ns`. The object itself, in
the body, says under which name. -/
def createRequest (k : Kind) (ns : String) (v : Json) : Request :=
  ⟨.post, ⟨collectionPath k (some ns), some ("&fieldManager=" ++ ClusterStore.fieldManager)⟩,
    some (.value v)⟩

/-- The request with which a store deletes the object under `key`, with the `uid` that the object
should have. -/
def deleteRequest (k : Kind) (key : ObjectKey) (uid : Option String) : Request :=
  ⟨.delete, ⟨ClusterStore.objectPath k key, some ""⟩,
    some (.value (ClusterStore.deleteOptions uid))⟩

/-- The request with which a store patches the status of the object under `key`. -/
def patchRequest (k : Kind) (key : ObjectKey) (patch : Json) : Request :=
  ⟨.patch, ⟨ClusterStore.objectPath k key ++ "/status", some ""⟩, some (.mergePatch patch)⟩

/-- A request whose address is a path and a query, as in `read_address`, is made. -/
lemma request_eq_ok {address p : String} {q : Option String} (method : Method) (b : Option Body)
    (hs : address.toList = p.toList ++ queryText q) (hp : p.toList.all isClean)
    (hq : (queryText q).tail.all fun c => Address.inQuery c && c != '#')
    (hsize : address.utf8ByteSize ≤ Address.maxLength) :
    ClusterStore.request method address b = .ok ⟨method, ⟨p, q⟩, b⟩ := by
  rw [ClusterStore.request, read_address hs hp hq hsize]

variable (hkey : PlainKey key)
include hkey

/-- The request for reading an object under a `PlainKey` is made, as `getRequest`, if its address is
short enough. -/
lemma getRequest_eq (hsize : (ClusterStore.objectPath k key).utf8ByteSize ≤ Address.maxLength) :
    (do
      ClusterStore.named key
      ClusterStore.request .get (ClusterStore.objectPath k key) none) =
      .ok (getRequest k key) := by
  rw [hkey.named_eq]
  exact request_eq_ok .get none (q := none) (by simp [queryText]) hkey.isClean_objectPath rfl hsize

/-- The request for creating an object under a `PlainKey` is made, as `createRequest`, if its
address is short enough. -/
lemma createRequest_eq {v : Json} (hsize : (collectionPath k (some key.ns) ++ "?&fieldManager=" ++
      ClusterStore.fieldManager).utf8ByteSize ≤ Address.maxLength) :
    ClusterStore.request .post (collectionPath k (some key.ns) ++ "?&fieldManager=" ++
      ClusterStore.fieldManager) (some (.value v)) = .ok (createRequest k key.ns v) :=
  request_eq_ok .post _ (by simp [queryText]) hkey.isClean_collectionPath (by decide) hsize

/-- The request for deleting an object under a `PlainKey` is made, as `deleteRequest`, if its
address is short enough. -/
lemma deleteRequest_eq {uid : Option String}
    (hsize : (ClusterStore.objectPath k key ++ "?").utf8ByteSize ≤ Address.maxLength) :
    (do
      ClusterStore.named key
      ClusterStore.request .delete (ClusterStore.objectPath k key ++ "?")
        (some (.value (ClusterStore.deleteOptions uid)))) = .ok (deleteRequest k key uid) := by
  rw [hkey.named_eq]
  exact request_eq_ok .delete _ (q := some "") (by simp [queryText]) hkey.isClean_objectPath rfl
    hsize

/-- The request for patching the status of an object under a `PlainKey` is made, as `patchRequest`,
if its address is short enough. -/
lemma patchRequest_eq {patch : Json}
    (hsize : (ClusterStore.objectPath k key ++ "/status?").utf8ByteSize ≤ Address.maxLength) :
    (do
      ClusterStore.named key
      ClusterStore.request .patch (ClusterStore.objectPath k key ++ "/status?")
        (some (.mergePatch patch))) = .ok (patchRequest k key patch) := by
  rw [hkey.named_eq]
  exact request_eq_ok .patch _ (q := some "") (by simp [queryText]) hkey.isClean_statusPath rfl
    hsize

variable (m : Manner) (s : ApiServer)

/-- What a server makes of a `getRequest`: the value under the key, or a refusal with 404. -/
lemma serve_getRequest : m.serve (getRequest k key) s = match s.get? k key with
    | none => m.refuse s (getRequest k key) 404 "NotFound"
    | some v => m.reply s 200 v := by
  simp only [Manner.serve, getRequest, hkey.ofPath?_object]

/-- What a server makes of a `createRequest`: it adds the object and answers with it, or refuses
with 409 if something is there. -/
lemma serve_createRequest {v : Json} (hv : Server.metadataText "name" v = some key.name) :
    m.serve (createRequest k key.ns v) s = match s.get? k key with
      | some _ => m.refuse s (createRequest k key.ns v) 409 "AlreadyExists"
      | none =>
        let t := m.add s k key v
        m.reply t 201 ((t.get? k key).getD .null) := by
  simp [Manner.serve, createRequest, hkey.ofPath?_collection, hv, Body.content]

/-- What a server makes of a `deleteRequest` that names a `uid`: it removes the object that has it,
and refuses with 404 or 409 if there is none or another. -/
lemma serve_deleteRequest (uid : String) :
    m.serve (deleteRequest k key (some uid)) s = match s.get? k key with
      | none => m.refuse s (deleteRequest k key (some uid)) 404 "NotFound"
      | some v =>
        if Server.metadataText "uid" v = some uid then
          m.reply (s.remove k key) 200 (statusOf .success 200 "" "")
        else m.refuse s (deleteRequest k key (some uid)) 409 "Conflict" := by
  have hprecondition : Manner.precondition (ClusterStore.deleteOptions (some uid)) =
      some (.str uid) := by
    simp [Manner.precondition, ClusterStore.deleteOptions, ofFields, Json.get?, Json.members,
      Members.get?]
  simp only [Manner.serve, deleteRequest, hkey.ofPath?_object, Option.map_some, Option.getD_some,
    Body.content, hprecondition]

/-- What a server makes of a `patchRequest`: it merges the patch into the object and stores that,
and refuses with 404 or 409 if there is none or one in another version than the patch names. -/
lemma serve_patchRequest (patch : Json) :
    m.serve (patchRequest k key patch) s = match s.get? k key with
      | none => m.refuse s (patchRequest k key patch) 404 "NotFound"
      | some v =>
        if Server.metadataText "resourceVersion" patch =
            Server.metadataText "resourceVersion" v then
          let t := m.store s k key (mergePatch v patch)
          m.reply t 200 ((t.get? k key).getD .null)
        else m.refuse s (patchRequest k key patch) 409 "Conflict" := by
  simp only [Manner.serve, patchRequest, hkey.ofPath?_status, Option.map_some, Option.getD_some,
    Body.content]
  rfl

end Requests

end ApiServer

end MailDomain
