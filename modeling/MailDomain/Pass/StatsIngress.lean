import MailDomain.Error.Pass
import MailDomain.Object.Ingress
import MailDomain.Pass.Config

/-!
# The stats ingress of a domain

A domain whose stats record resolves has one ingress, named after it, that routes its base
domain to the stats service. The ingress is owned by the domain.

## Main definitions

* `StatsIngress.nameOf`, `keyOf`, `labelsOf`, `ownerOf?` — its name, key, labels and owner.
* `StatsIngress.build` — the ingress of a domain.
* `StatsIngress.ownedByOther` — whether an ingress is managed by something else.
-/

set_option relaxedAutoImplicit false
set_option autoImplicit false

namespace MailDomain.StatsIngress

/-- The name of the ingress of a domain: the name of the domain, then `-stats`. -/
def nameOf (domainName : String) : String := domainName ++ "-stats"

/-- The key of the ingress of the domain under `key`, which is in the same namespace. -/
def keyOf (key : ObjectKey) : ObjectKey := ⟨key.ns, nameOf key.name⟩

/-- The labels of the ingress of a domain. The name of the domain is the value of
`app.kubernetes.io/instance`. -/
def labelsOf (domainName : String) : Json.TextMap := [
  ("app.kubernetes.io/component", "stats-ingress"),
  ("app.kubernetes.io/instance", domainName),
  ("app.kubernetes.io/managed-by", "Domain"),
  ("app.kubernetes.io/part-of", "maildomain-operator")]

/-- The reference to the domain `d` as the owner that manages an object. A domain that was never
stored has no identity to refer to, and no reference. -/
def ownerOf? (d : Domain) : Option OwnerReference :=
  d.metadata.uid.map fun uid => {
    apiVersion := Kind.domain.apiVersion
    kind := Kind.domain.name
    name := d.metadata.anyName
    uid
    controller := some true
    blockOwnerDeletion := some true }

/-- The path by which every request to a host leads to the stats service. -/
def pathTo (backend : StatsBackend) : IngressPath where
  path := some "/"
  pathType := "Prefix"
  backend := { service := some {
    name := backend.serviceName
    port := some { number := some backend.servicePort.toNat } } }

/-- The specification of the ingress of the domain `d`: its one rule leads from the base domain to
the stats service. -/
def specOf (d : Domain) (backend : StatsBackend) : IngressSpec where
  ingressClassName := backend.ingressClass
  rules := some [{ host := some d.spec.baseDomain, http := some { paths := [pathTo backend] } }]

/-- The ingress of the domain `d`, stored under `key`. It has the name `nameOf key.name`, the labels
`labelsOf key.name` and the owner `ownerOf? d`, without which it cannot be built. -/
def build (key : ObjectKey) (d : Domain) (backend : StatsBackend) : Except PassError Ingress :=
  match ownerOf? d with
  | none =>
    .error (.invariant key .convergeIngress "Domain has no uid, cannot set owner reference")
  | some owner => .ok {
      metadata := {
        name := some (nameOf key.name)
        ns := some key.ns
        labels := some (labelsOf key.name)
        ownerReferences := some [owner] }
      spec := some (specOf d backend) }

/-- Whether an object other than the domain `d` manages the ingress `i`: one of its owners is said
to be the managing one and has another identity than `d`. A domain that was never stored has no
identity to compare with, and nothing counts as other then. -/
def ownedByOther (i : Ingress) (d : Domain) : Bool :=
  match d.metadata.uid with
  | none => false
  | some uid => i.metadata.owners.any fun o => o.controller == some true && o.uid != uid

end MailDomain.StatsIngress
