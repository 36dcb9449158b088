import MailDomain.Cluster.Request
import MailDomain.Text.Blank

/-!
# Routes

The paths of the API server lead to the objects of a kind in a namespace, to one of them, or to
its status.

## Main definitions

* `Cluster.segments` — the parts of a path between its slashes.
* `Cluster.Route`, `Cluster.Route.ofPath?` — what a path leads to.
* `Cluster.subjectOf` — the domain to which an object belongs.
-/

set_option relaxedAutoImplicit false
set_option autoImplicit false

namespace MailDomain.Cluster

/-- The parts of a path between its slashes, the first being empty if the path begins with one. -/
def segments (path : String) : List String :=
  (Text.pieces (· == '/') path.toList).map String.ofList

/-- What a path leads to within a namespace. -/
inductive Place
  /-- All objects of a kind, which is where new ones are created. -/
  | all
  | object (name : String)
  | status (name : String)
  deriving DecidableEq, Repr

/-- What a path leads to: a `place` among the objects of a kind in the namespace `ns`. -/
structure Route where
  kind : Kind
  ns : String
  place : Place
  deriving DecidableEq, Repr

namespace Route

/-- The kind whose objects are collected as `collection` in the API group `apiVersion`, if it is one
of the two. -/
def kindOf? (apiVersion collection : String) : Option Kind :=
  [Kind.domain, Kind.ingress].find? fun k =>
    k.apiVersion == apiVersion && k.collection == collection

/-- The place that the parts of a path after the collection stand for, if any. -/
def placeOf? : List String → Option Place
  | [] => some .all
  | [name] => some (.object name)
  | [name, "status"] => some (.status name)
  | _ => none

/-- What the path leads to, if to anything: it must be in the form that `collectionPath` gives. -/
def ofPath? (path : String) : Option Route :=
  match segments path with
  | "" :: "apis" :: group :: version :: "namespaces" :: ns :: collection :: rest => do
    let kind ← kindOf? (group ++ "/" ++ version) collection
    let place ← placeOf? rest
    return ⟨kind, ns, place⟩
  | _ => none

end Route

/-- The end of the name of a stats ingress, by which it is told from that of its domain. -/
def statsEnd : List Char := "-stats".toList

/-- The name of the domain to which an object belongs: a domain belongs to itself, and an ingress to
the domain whose name remains when `statsEnd` is taken from its own. -/
def subjectName : Kind → String → String
  | .domain, name => name
  | .ingress, name =>
    let cs := name.toList
    if statsEnd.isSuffixOf cs then String.ofList (cs.take (cs.length - statsEnd.length)) else name

/-- The key of the domain to which the object of the kind `k` under `key` belongs. It is in the same
namespace. -/
def subjectOf (k : Kind) (key : ObjectKey) : ObjectKey := ⟨key.ns, subjectName k key.name⟩

end MailDomain.Cluster
