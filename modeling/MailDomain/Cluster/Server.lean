import MailDomain.Cluster.Response
import MailDomain.Cluster.Route
import MailDomain.Json.Printer
import MailDomain.Store.Table

/-!
# An API server

A server that keeps one JSON object per kind and key. Each write gives an object a new version,
and one that has no identity a new identity; both are numbered by the domain to which the
object belongs. Requests can be made to meet faults, which come before anything else.

## Main definitions

* `Cluster.Fault` — what some requests meet instead of the server.
* `Cluster.Server` — the objects of a server, with `Server.put` and `Server.remove`.
* `Cluster.Server.respond` — the response to a request, with the server after it.

## Main results

* `Cluster.Server.objects_setObjects_self`, `objects_setObjects_of_ne` — a change of the objects
  of one kind leaves those of the other.
-/

set_option relaxedAutoImplicit false
set_option autoImplicit false

namespace MailDomain.Cluster

/-- What the next requests of a method to paths with the given end meet: an answer with `code` and
`body` instead of what they ask for. -/
structure Fault where
  method : Method
  pathEnd : String
  code : Nat
  body : String
  /-- How many requests are still to meet the fault. -/
  times : Nat := 1

/-- Whether the request `r` meets the fault `f`, which has to be left for it. -/
def Fault.isMetBy (f : Fault) (r : Request) : Bool :=
  0 < f.times && f.method == r.method && f.pathEnd.toList.isSuffixOf r.address.path.toList

/-- A server for rehearsals: the objects that it holds as JSON, the number of writes for each
domain, and the faults to come, of which the first that fits is met. -/
structure Server where
  domains : Table Json := .empty
  ingresses : Table Json := .empty
  writes : Table Nat := .empty
  faults : List Fault := []

namespace Server

/-- The objects of a kind, by their keys. -/
def objects (s : Server) : Kind → Table Json
  | .domain => s.domains
  | .ingress => s.ingresses

/-- The server with the objects `t` in place of those of the kind `k`. -/
def setObjects (s : Server) (k : Kind) (t : Table Json) : Server :=
  match k with
  | .domain => { s with domains := t }
  | .ingress => { s with ingresses := t }

/-- A change of the objects of a kind by `setObjects` is seen there. -/
@[simp] theorem objects_setObjects_self (s : Server) (k : Kind) (t : Table Json) :
    (s.setObjects k t).objects k = t := by
  cases k <;> rfl

/-- A change of the objects of a kind by `setObjects` leaves those of the other. -/
theorem objects_setObjects_of_ne {k j : Kind} (h : j ≠ k) (s : Server) (t : Table Json) :
    (s.setObjects k t).objects j = s.objects j := by
  cases k <;> cases j <;> simp_all [setObjects, objects]

/-- The object of the kind `k` under `key`, if there is one. -/
def get? (s : Server) (k : Kind) (key : ObjectKey) : Option Json := (s.objects k).get? key

/-- The object `v` as the server keeps it after the write with the number `n`: its version is made
from the number, and so is its identity if it has none. -/
def stamped (n : Nat) (v : Json) : Json :=
  let ms := ((v.get? "metadata").getD (.obj [])).members
  let ms := match Json.Members.get? "uid" ms with
    | some (.str _) => ms
    | _ => Json.Members.set "uid" (.str ("uid-" ++ toString n)) ms
  let ms := Json.Members.set "resourceVersion" (.str (toString n)) ms
  .obj (Json.Members.set "metadata" (.obj ms) v.members)

/-- The number of the next write of an object. The domain and the ingress that belong together are
numbered together. -/
def nextWrite (s : Server) (k : Kind) (key : ObjectKey) : Nat :=
  (s.writes.get? (subjectOf k key)).getD 0 + 1

/-- The server with the object `v` under `key`, whatever was there before. It is `stamped`, and the
write is counted. -/
def put (s : Server) (k : Kind) (key : ObjectKey) (v : Json) : Server :=
  let n := s.nextWrite k key
  let s := s.setObjects k ((s.objects k).insert key (stamped n v))
  { s with writes := s.writes.insert (subjectOf k key) n }

/-- The server without the object under `key`. This is no write that is counted. -/
def remove (s : Server) (k : Kind) (key : ObjectKey) : Server :=
  s.setObjects k ((s.objects k).erase key)

/-- The text under `name` within the metadata of the object `v`, if there is a text. -/
def metadataText (name : String) (v : Json) : Option String := do
  let metadata ← v.get? "metadata"
  let t ← metadata.get? name
  t.str?

/-- The key that the object `v` names. Where it lacks a namespace or a name, that part is empty. -/
def keyOf (v : Json) : ObjectKey :=
  ⟨(metadataText "namespace" v).getD "", (metadataText "name" v).getD ""⟩

/-- The kind that the object `v` names, everything that is no ingress counting as a domain. -/
def kindOf (v : Json) : Kind :=
  match v.get? "kind" with
  | some (.str s) => if s = Kind.ingress.name then .ingress else .domain
  | _ => .domain

/-- The response with the object `v`, printed on one line. -/
def found (code : Nat) (v : Json) : Response := .answered code v.render

/-- The response with a `Status` object that tells of a failure. -/
def refusal (code : Nat) (reason message : String) : Response :=
  .answered code (Json.render (.obj [
    ("apiVersion", .str "v1"),
    ("code", Json.ofNat code),
    ("kind", .str "Status"),
    ("message", .str message),
    ("reason", .str reason),
    ("status", .str ApiStatus.Summary.failure.name)]))

/-- The response with a `Status` object that tells of a success. -/
def success : Response :=
  .answered 200 (Json.render (.obj [
    ("apiVersion", .str "v1"),
    ("kind", .str "Status"),
    ("status", .str ApiStatus.Summary.success.name)]))

/-- The response when there is no object of the kind `k` under `key`. -/
def missing (k : Kind) (key : ObjectKey) : Response :=
  refusal 404 "NotFound" (k.collection ++ " \"" ++ key.name ++ "\" not found")

/-- Creates the object `v` in the namespace `ns`. It is refused if there is one under its key. -/
def create (s : Server) (k : Kind) (ns : String) (v : Json) : Response × Server :=
  let key : ObjectKey := ⟨ns, (keyOf v).name⟩
  match s.get? k key with
  | some _ =>
    (refusal 409 "AlreadyExists" (k.collection ++ " \"" ++ key.name ++ "\" already exists"), s)
  | none =>
    let s := s.put k key v
    (found 201 ((s.get? k key).getD .null), s)

/-- Deletes the object under `key`. It is refused if there is none, or if the `options` name an
identity that is not its own. -/
def delete (s : Server) (k : Kind) (key : ObjectKey) (options : Json) : Response × Server :=
  match s.get? k key with
  | none => (missing k key, s)
  | some v =>
    match (options.get? "preconditions").bind fun p => p.get? "uid" with
    | some (.str uid) =>
      if metadataText "uid" v = some uid then (success, s.remove k key)
      else (refusal 409 "Conflict" "the UID in the precondition does not match", s)
    | _ => (success, s.remove k key)

/-- The object `v` with the status of `patch` in place of its own, without any merging. -/
def withStatus (patch v : Json) : Json :=
  match patch.get? "status" with
  | none => v
  | some status => .obj (Json.Members.set "status" status v.members)

/-- Gives the status of `patch`, all of it, to the object under `key`, which must be in the version
that the patch names. -/
def patchStatus (s : Server) (k : Kind) (key : ObjectKey) (patch : Json) : Response × Server :=
  match s.get? k key with
  | none => (missing k key, s)
  | some v =>
    if metadataText "resourceVersion" patch = metadataText "resourceVersion" v then
      let s := s.put k key (withStatus patch v)
      (found 200 ((s.get? k key).getD .null), s)
    else (refusal 409 "Conflict" "the object has been modified", s)

/-- What the request `r` asks of the server when no fault is in its way. -/
def serve (s : Server) (r : Request) : Response × Server :=
  let body := (r.body.map Body.content).getD .null
  match Route.ofPath? r.address.path with
  | none => (refusal 404 "NotFound" "the server could not find the requested resource", s)
  | some ⟨k, ns, place⟩ =>
    match r.method, place with
    | .get, .object name =>
      match s.get? k ⟨ns, name⟩ with
      | some v => (found 200 v, s)
      | none => (missing k ⟨ns, name⟩, s)
    | .post, .all => s.create k ns body
    | .delete, .object name => s.delete k ⟨ns, name⟩ body
    | .patch, .status name => s.patchStatus k ⟨ns, name⟩ body
    | _, _ => (refusal 405 "MethodNotAllowed" "the server does not allow this method", s)

/-- Takes out one use of the first fault that the request `r` meets, with the faults that are
left. -/
def takeFault (r : Request) : List Fault → Option Fault × List Fault
  | [] => (none, [])
  | f :: fs =>
    if f.isMetBy r then (some f, { f with times := f.times - 1 } :: fs)
    else
      let (met, rest) := takeFault r fs
      (met, f :: rest)

/-- The response to the request `r`, with the server after it. A request that meets a fault has no
effect. -/
def respond (s : Server) (r : Request) : Response × Server :=
  match takeFault r s.faults with
  | (some f, rest) => (.answered f.code f.body, { s with faults := rest })
  | (none, _) => s.serve r

end Server

end MailDomain.Cluster
