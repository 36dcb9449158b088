import MailDomain.Object.Metadata

/-!
# Objects

An object has metadata, a specification of what it should be, and a status that says what it
is. Reading and writing is uniform in the kinds of objects.

## Main definitions

* `Resource` — an object with a given type of specification and of status.
* `Manifest` — the kind and the JSON form of a type of objects.
-/

set_option relaxedAutoImplicit false
set_option autoImplicit false

namespace MailDomain

/-- An object of the cluster: metadata, what the object should be and, unless it is unset, what it
is. -/
structure Resource (Spec Status : Type) where
  metadata : ObjectMeta
  spec : Spec
  status : Option Status := none
  deriving DecidableEq

namespace Resource

variable {Spec Status : Type}

/-- The key of an object that has a name and a namespace, that of its metadata. -/
def key? (r : Resource Spec Status) : Option ObjectKey := r.metadata.key?

/-- The object with the status `s` in place of its own, the rest being as it was. -/
def withStatus (r : Resource Spec Status) (s : Option Status) : Resource Spec Status :=
  { r with status := s }

@[simp] theorem key?_withStatus (r : Resource Spec Status) (s : Option Status) :
    (r.withStatus s).key? = r.key? := rfl

end Resource

/-- The kind and the JSON form of a type of objects, which the store of its kind and the patches of
its status go by. -/
class Manifest (α : Type) where
  kind : Kind
  encode : α → Json
  decode : Json.Decoder α

end MailDomain
