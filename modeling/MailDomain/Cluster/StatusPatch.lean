import MailDomain.Error.Store
import MailDomain.Object.Resource

/-!
# Guarded status writes

The status of an object is written as a merge patch that names the version of the object, so
that the API server refuses it when the object has changed, and that holds the whole status.

## Main definitions

* `statusPatch` — the patch that writes the status of an object.
-/

set_option relaxedAutoImplicit false
set_option autoImplicit false

namespace MailDomain

/-- The merge patch that writes the status of `object`, which must be in the given version on the
server. For an object without a status, the patch removes it. -/
def patchOf (version : String) (object : Json) : Json :=
  .obj [
    ("metadata", .obj [("resourceVersion", .str version)]),
    ("status", (object.get? "status").getD .null)]

/-- The patch that writes the status of the object `r`. There is none if `r` has no version, which
is a failure that names the `kind`. -/
def statusPatch {Spec Status : Type} [Manifest (Resource Spec Status)] (kind : String)
    (r : Resource Spec Status) : Except StoreError Json :=
  match r.metadata.resourceVersion with
  | none => .error (.versionless kind)
  | some v => .ok (patchOf v (Manifest.encode r))

end MailDomain
