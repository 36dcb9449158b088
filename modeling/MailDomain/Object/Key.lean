/-!
# Kinds and keys of objects

## Main definitions

* `Kind` — the two kinds of objects, with their API groups and collections.
* `ObjectKey` — the namespace and the name of an object, with the order of keys.
-/

set_option relaxedAutoImplicit false
set_option autoImplicit false

namespace MailDomain

/-- The kinds of objects that are read and written, each in a store of its own. -/
inductive Kind
  | domain
  | ingress
  deriving DecidableEq, Repr

namespace Kind

/-- The name of a kind, as the member `kind` of its manifests has it. -/
def name : Kind → String
  | .domain => "Domain"
  | .ingress => "Ingress"

/-- The group and version of the API that serves a kind, as the member `apiVersion` has it. -/
def apiVersion : Kind → String
  | .domain => "mail.firestoned.io/v1alpha1"
  | .ingress => "networking.k8s.io/v1"

/-- The collection that holds the objects of a kind, as paths and messages name it. -/
def collection : Kind → String
  | .domain => "domains"
  | .ingress => "ingresses"

end Kind

/-- The identity of an object among those of its `Kind`, which stays when the object is created
again. -/
structure ObjectKey where
  /-- The namespace. -/
  ns : String
  name : String
  deriving DecidableEq, Repr, Inhabited

namespace ObjectKey

/-- The namespace and the name with a slash between them, as messages name an object. -/
def text (k : ObjectKey) : String := k.ns ++ "/" ++ k.name

/-- Keys are ordered by namespace and then by name, both by the octets of their UTF-8 form,
which is the order of their characters. -/
def before (a b : ObjectKey) : Bool := a.ns < b.ns || (a.ns == b.ns && a.name < b.name)

/-- Keys in the order of `before`, equal ones in the order given. -/
def sort (ks : List ObjectKey) : List ObjectKey := ks.mergeSort fun a b => !b.before a

end ObjectKey

end MailDomain
