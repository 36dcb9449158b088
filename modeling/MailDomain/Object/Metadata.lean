import MailDomain.Json.Decode
import MailDomain.Object.Key
import MailDomain.Time.Reader

/-!
# Metadata of objects

Null and absence mean the same in metadata, and so they do not differ once it is read.

## Main definitions

* `OwnerReference` — a reference from an object to one that owns it.
* `ObjectMeta` — the metadata of an object, with `key?`.
* `OwnerReference.encode`, `decode`, `ObjectMeta.encode`, `decode` — their JSON forms.
-/

set_option relaxedAutoImplicit false
set_option autoImplicit false

namespace MailDomain

open Json (Decoder Mismatch)

/-- A reference to an owner of an object, as its metadata hold it. -/
structure OwnerReference where
  apiVersion : String
  kind : String
  name : String
  uid : String
  /-- Whether the owner is the one that manages the object. -/
  controller : Option Bool := none
  /-- Whether the owner cannot be removed before the object. -/
  blockOwnerDeletion : Option Bool := none
  deriving DecidableEq, Repr

namespace OwnerReference

/-- An owner reference as a value; the two flags are left out where they are unset. -/
def encode (r : OwnerReference) : Json :=
  Json.ofFields [
    ("apiVersion", some (.str r.apiVersion)),
    ("blockOwnerDeletion", r.blockOwnerDeletion.map .bool),
    ("controller", r.controller.map .bool),
    ("kind", some (.str r.kind)),
    ("name", some (.str r.name)),
    ("uid", some (.str r.uid))]

/-- Reads an owner reference; a text that is missing is empty. -/
def decode : Decoder OwnerReference := fun d => do
  let ms ← Json.presentMembers "OwnerReference" [
    Json.perhaps "apiVersion" Json.text, Json.perhaps "blockOwnerDeletion" Json.flag,
    Json.perhaps "controller" Json.flag, Json.perhaps "kind" Json.text,
    Json.perhaps "name" Json.text, Json.perhaps "uid" Json.text] d
  return {
    apiVersion := (← Json.present? "apiVersion" Json.text ms).getD ""
    kind := (← Json.present? "kind" Json.text ms).getD ""
    name := (← Json.present? "name" Json.text ms).getD ""
    uid := (← Json.present? "uid" Json.text ms).getD ""
    controller := ← Json.present? "controller" Json.flag ms
    blockOwnerDeletion := ← Json.present? "blockOwnerDeletion" Json.flag ms }

end OwnerReference

/-- The metadata of an object, as far as they are looked at. Everything may be unset. -/
structure ObjectMeta where
  name : Option String := none
  /-- The start of a name that the API server completes, where the name is unset. -/
  generateName : Option String := none
  /-- The namespace. -/
  ns : Option String := none
  /-- The identity of one incarnation of an object: what is created again under the same `ObjectKey`
  has another. -/
  uid : Option String := none
  /-- The version of the object's content, which every write of the object changes. -/
  resourceVersion : Option String := none
  /-- The version of the object's desired state. -/
  generation : Option Int64 := none
  labels : Option Json.TextMap := none
  /-- The time from which the object is being removed, unset as long as it is not. -/
  deletionTimestamp : Option Timestamp := none
  ownerReferences : Option (List OwnerReference) := none
  deriving DecidableEq

namespace ObjectMeta

/-- The key of an object that has a name and a namespace, `none` for any other. -/
def key? (m : ObjectMeta) : Option ObjectKey := do
  let name ← m.name
  let ns ← m.ns
  return ⟨ns, name⟩

/-- The owners of an object, none where they are unset. -/
def owners (m : ObjectMeta) : List OwnerReference := m.ownerReferences.getD []

/-- The name of an object, or else the start of one, or else nothing. -/
def anyName (m : ObjectMeta) : String := m.name.getD (m.generateName.getD "")

/-- Metadata as a value, without what is unset. -/
def encode (m : ObjectMeta) : Json :=
  Json.ofFields [
    ("deletionTimestamp", m.deletionTimestamp.map fun t => .str t.text),
    ("generateName", m.generateName.map .str),
    ("generation", m.generation.map fun g => Json.ofInt g.toInt),
    ("labels", m.labels.map Json.ofTextMap),
    ("name", m.name.map .str),
    ("namespace", m.ns.map .str),
    ("ownerReferences", m.ownerReferences.map fun rs => .arr (rs.map OwnerReference.encode)),
    ("resourceVersion", m.resourceVersion.map .str),
    ("uid", m.uid.map .str)]

/-- Reads a point in time; a text that is none is `badFormat` with the reason. -/
def timestamp : Decoder Timestamp
  | .str s => (Timestamp.read s).mapError fun f => .badFormat f.message
  | d => .error (d.mismatch "a timestamp string")

/-- Reads metadata, of which everything may be null or missing. -/
def decode : Decoder ObjectMeta := fun d => do
  let owners := Json.list OwnerReference.decode
  let ms ← Json.presentMembers "ObjectMeta" [
    Json.perhaps "deletionTimestamp" timestamp, Json.perhaps "generateName" Json.text,
    Json.perhaps "generation" Json.word64, Json.perhaps "labels" Json.textMap,
    Json.perhaps "name" Json.text, Json.perhaps "namespace" Json.text,
    Json.perhaps "ownerReferences" owners, Json.perhaps "resourceVersion" Json.text,
    Json.perhaps "uid" Json.text] d
  return {
    name := ← Json.present? "name" Json.text ms
    generateName := ← Json.present? "generateName" Json.text ms
    ns := ← Json.present? "namespace" Json.text ms
    uid := ← Json.present? "uid" Json.text ms
    resourceVersion := ← Json.present? "resourceVersion" Json.text ms
    generation := ← Json.present? "generation" Json.word64 ms
    labels := ← Json.present? "labels" Json.textMap ms
    deletionTimestamp := ← Json.present? "deletionTimestamp" timestamp ms
    ownerReferences := ← Json.present? "ownerReferences" owners ms }

end ObjectMeta

end MailDomain
