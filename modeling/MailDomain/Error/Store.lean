import MailDomain.Error.Api
import MailDomain.Object.Key

/-!
# Failed store operations

## Main definitions

* `StoreError` — why a store did not do what it was asked, with its `message` and its `causes`.
* `StoreError.isNotFound`, `StoreError.isConflict` — two classes of failures that callers tell
  apart.
-/

set_option relaxedAutoImplicit false
set_option autoImplicit false

namespace MailDomain

/-- Why an operation of a store on an object of the kind `kind` failed. -/
inductive StoreError
  /-- There is no object under the key. -/
  | notFound (kind : String) (key : ObjectKey)
  /-- The object changed since it was read, or one exists already where it was to be created. -/
  | conflict (kind : String) (key : ObjectKey) (reason : String)
  /-- The object lacks metadata that the operation needs, see `keyless` and `versionless`. -/
  | invalidObject (kind reason : String)
  /-- Any other failure of the API server, which the `fault` describes. -/
  | api (kind : String) (key : ObjectKey) (fault : ApiFault)
  /-- The object cannot be written as a patch. -/
  | serialization (kind reason : String)
  deriving DecidableEq, Repr

namespace StoreError

/-- Whether the failure is `notFound`: the object does not exist. -/
def isNotFound : StoreError → Bool
  | .notFound .. => true
  | _ => false

/-- Whether the failure is a `conflict` with another writer. -/
def isConflict : StoreError → Bool
  | .conflict .. => true
  | _ => false

/-- The causes of a failure, the outermost first, which are logged one by one. -/
def causes : StoreError → List String
  | .api _ _ fault => fault.message :: fault.causes
  | .serialization _ reason => [reason]
  | _ => []

/-- The wording of a failure. It names the kind of the object and, where there is one, its key. -/
def message : StoreError → String
  | .notFound kind key => kind ++ " " ++ key.text ++ " not found"
  | .conflict kind key reason => "Conflict writing " ++ kind ++ " " ++ key.text ++ ": " ++ reason
  | .invalidObject kind reason => "Invalid " ++ kind ++ " object: " ++ reason
  | .api kind key fault => "API error on " ++ kind ++ " " ++ key.text ++ ": " ++ fault.message
  | .serialization kind reason => "Failed to serialize " ++ kind ++ ": " ++ reason

/-- The failure of an operation on an object of the kind `kind` that has no key but needs one. -/
def keyless (kind : Kind) : StoreError :=
  .invalidObject kind.name "object must have a name and a namespace"

/-- The failure of a status write of an object of the kind `kind` that has no version. -/
def versionless (kind : String) : StoreError :=
  .invalidObject kind "status update requires metadata.resourceVersion"

end StoreError

end MailDomain
