import MailDomain.Cluster.Server
import MailDomain.Object.Ingress

/-!
# Watching

The controller is told about changes of domains and of ingresses. A change of a domain, unless
it is its deletion, calls for a pass for the domain, and any change of an object for a pass for
each domain that owns the object. The controller knows the domains that it was told about and
that are not deleted.

## Main definitions

* `Change`, `Notice` — what the controller is told.
* `Notice.subjects` — the domains that need a pass after a notice.
* `Notice.known` — the domains that are known after a notice.

## Main results

* `Notice.mem_known_of_deleted` — a deleted domain is not known.
-/

set_option relaxedAutoImplicit false
set_option autoImplicit false

namespace MailDomain

/-- How an object changed. -/
inductive Change
  | added
  | modified
  | deleted
  deriving DecidableEq, Repr

/-- What the controller is told: an object of some kind, as JSON, and how it changed. -/
structure Notice where
  change : Change
  kind : Kind
  object : Json

namespace Notice

/-- The key of the object `v`, if it has both a name and a namespace. -/
def key? (v : Json) : Option ObjectKey := do
  let name ← Cluster.Server.metadataText "name" v
  let ns ← Cluster.Server.metadataText "namespace" v
  return ⟨ns, name⟩

/-- The key of the domain to which the owner reference `r` within the namespace `ns` refers, if it
refers to a domain. -/
def owner? (ns : String) (r : OwnerReference) : Option ObjectKey :=
  if r.apiVersion = Kind.domain.apiVersion ∧ r.kind = Kind.domain.name then some ⟨ns, r.name⟩
  else none

/-- The keys of the domains that own the ingress `v`, whether they manage it or not. -/
def owners (v : Json) : List ObjectKey :=
  match Ingress.decode v with
  | .error _ => []
  | .ok i =>
    match i.metadata.ns with
    | none => []
    | some ns => i.metadata.owners.filterMap (owner? ns)

/-- The keys of the domains that need a pass after the notice `n`: the domain itself unless it was
deleted, or the owners of the ingress. -/
def subjects (n : Notice) : List ObjectKey :=
  match n.kind, n.change with
  | .domain, .deleted => []
  | .domain, _ => (key? n.object).toList
  | .ingress, _ => owners n.object

/-- The keys of the domains that are known after the notice `n`. Only notices about domains change
them. -/
def known (n : Notice) (before : List ObjectKey) : List ObjectKey :=
  match n.kind, key? n.object with
  | .domain, some key =>
    let others := before.filter (· != key)
    if n.change = .deleted then others else others ++ [key]
  | _, _ => before

/-- A domain that was deleted is not known after the notice. -/
theorem mem_known_of_deleted {n : Notice} {key : ObjectKey} (hk : n.kind = .domain)
    (hc : n.change = .deleted) (h : key? n.object = some key) (before : List ObjectKey) :
    key ∉ n.known before := by
  simp [known, hk, hc, h]

end Notice

end MailDomain
