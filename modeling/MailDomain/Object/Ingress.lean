import MailDomain.Object.Resource

/-!
# Ingresses

The part of an ingress that routes the host of a mail domain to a service. Null and absence
mean the same throughout, and texts that are missing are empty.

## Main definitions

* `IngressService`, `IngressPath`, `IngressRule`, `IngressSpec`, `IngressStatus`, `Ingress`.
* `encode` and `decode` of each — their JSON forms.
-/

set_option relaxedAutoImplicit false
set_option autoImplicit false

namespace MailDomain

open Json (Decoder Mismatch)

/-- The port of a service, of which only the number is looked at. -/
structure ServicePort where
  number : Option Int := none
  deriving DecidableEq, Repr

namespace ServicePort

/-- A port as a value, without a number that is unset. -/
def encode (p : ServicePort) : Json := Json.ofFields [("number", p.number.map Json.ofInt)]

/-- Reads an integer of 32 bits, called `i32`. -/
def word32 : Decoder Int := Json.integer "i32" (-2147483648) 2147483647

/-- Reads a port, whose number may be null or missing. -/
def decode : Decoder ServicePort := fun d => do
  let ms ← Json.presentMembers "ServiceBackendPort" [Json.perhaps "number" word32] d
  return ⟨← Json.present? "number" word32 ms⟩

end ServicePort

/-- A service and its port, to which an ingress forwards. -/
structure IngressService where
  name : String
  port : Option ServicePort := none
  deriving DecidableEq, Repr

namespace IngressService

/-- A service as a value, without a port that is unset. -/
def encode (s : IngressService) : Json :=
  Json.ofFields [("name", some (.str s.name)), ("port", s.port.map ServicePort.encode)]

/-- Reads a service; a name that is null or missing is empty. -/
def decode : Decoder IngressService := fun d => do
  let ms ← Json.presentMembers "IngressServiceBackend" [
    Json.perhaps "name" Json.text, Json.perhaps "port" ServicePort.decode] d
  return {
    name := (← Json.present? "name" Json.text ms).getD ""
    port := ← Json.present? "port" ServicePort.decode ms }

end IngressService

/-- Where requests go: the `service`, other backends being passed over. -/
structure IngressBackend where
  service : Option IngressService := none
  deriving DecidableEq, Repr

namespace IngressBackend

/-- A backend as a value, without a service that is unset. -/
def encode (b : IngressBackend) : Json :=
  Json.ofFields [("service", b.service.map IngressService.encode)]

/-- Reads a backend, whose service may be null or missing. -/
def decode : Decoder IngressBackend := fun d => do
  let ms ← Json.presentMembers "IngressBackend" [Json.perhaps "service" IngressService.decode] d
  return ⟨← Json.present? "service" IngressService.decode ms⟩

end IngressBackend

/-- The requests of a `path` and where they go. -/
structure IngressPath where
  path : Option String := none
  pathType : String := ""
  backend : IngressBackend := {}
  deriving DecidableEq, Repr

namespace IngressPath

/-- A path as a value; its type and its backend are always there. -/
def encode (p : IngressPath) : Json :=
  Json.ofFields [
    ("backend", some p.backend.encode),
    ("path", p.path.map .str),
    ("pathType", some (.str p.pathType))]

/-- Reads a path; a type that is null or missing is empty, and so is the backend. -/
def decode : Decoder IngressPath := fun d => do
  let ms ← Json.presentMembers "HTTPIngressPath" [
    Json.perhaps "backend" IngressBackend.decode, Json.perhaps "path" Json.text,
    Json.perhaps "pathType" Json.text] d
  return {
    path := ← Json.present? "path" Json.text ms
    pathType := (← Json.present? "pathType" Json.text ms).getD ""
    backend := (← Json.present? "backend" IngressBackend.decode ms).getD {} }

end IngressPath

/-- The paths of a rule, in their order. -/
structure IngressPaths where
  paths : List IngressPath := []
  deriving DecidableEq, Repr

namespace IngressPaths

/-- Paths as a value, an array also if there are none. -/
def encode (p : IngressPaths) : Json := .obj [("paths", .arr (p.paths.map IngressPath.encode))]

/-- Reads paths, of which there are none where they are null or missing. -/
def decode : Decoder IngressPaths := fun d => do
  let ms ← Json.presentMembers "HTTPIngressRuleValue" [
    Json.perhaps "paths" (Json.list IngressPath.decode)] d
  return ⟨(← Json.present? "paths" (Json.list IngressPath.decode) ms).getD []⟩

end IngressPaths

/-- The paths of a `host`; without a host they are those of every host. -/
structure IngressRule where
  host : Option String := none
  http : Option IngressPaths := none
  deriving DecidableEq, Repr

namespace IngressRule

/-- A rule as a value, without what is unset. -/
def encode (r : IngressRule) : Json :=
  Json.ofFields [("host", r.host.map .str), ("http", r.http.map IngressPaths.encode)]

/-- Reads a rule, of which everything may be null or missing. -/
def decode : Decoder IngressRule := fun d => do
  let ms ← Json.presentMembers "IngressRule" [
    Json.perhaps "host" Json.text, Json.perhaps "http" IngressPaths.decode] d
  return {
    host := ← Json.present? "host" Json.text ms
    http := ← Json.present? "http" IngressPaths.decode ms }

end IngressRule

/-- What an ingress should be, as far as `StatsIngress.build` sets it. -/
structure IngressSpec where
  ingressClassName : Option String := none
  rules : Option (List IngressRule) := none
  deriving DecidableEq, Repr

namespace IngressSpec

/-- A specification as a value, without what is unset. -/
def encode (s : IngressSpec) : Json :=
  Json.ofFields [
    ("ingressClassName", s.ingressClassName.map .str),
    ("rules", s.rules.map fun rs => .arr (rs.map IngressRule.encode))]

/-- Reads a specification, of which everything may be null or missing. -/
def decode : Decoder IngressSpec := fun d => do
  let ms ← Json.presentMembers "IngressSpec" [
    Json.perhaps "ingressClassName" Json.text,
    Json.perhaps "rules" (Json.list IngressRule.decode)] d
  return {
    ingressClassName := ← Json.present? "ingressClassName" Json.text ms
    rules := ← Json.present? "rules" (Json.list IngressRule.decode) ms }

end IngressSpec

/-- The status of an ingress, of which nothing is looked at: what the cluster reports in it is
passed over. -/
structure IngressStatus where
  deriving DecidableEq, Repr

namespace IngressStatus

/-- A status as a value, the object without members. -/
def encode (_ : IngressStatus) : Json := .obj []

/-- Reads a status; of the object only its faults matter. -/
def decode : Decoder IngressStatus := fun d => do
  let _ ← Json.presentMembers "IngressStatus" [] d
  return {}

end IngressStatus

/-- An ingress: a `Resource` whose specification may be missing. -/
abbrev Ingress := Resource (Option IngressSpec) IngressStatus

namespace Ingress

/-- An ingress as a value, without what is unset in it. -/
def encode (i : Ingress) : Json :=
  Json.ofFields [
    ("apiVersion", some (.str Kind.ingress.apiVersion)),
    ("kind", some (.str Kind.ingress.name)),
    ("metadata", some i.metadata.encode),
    ("spec", i.spec.map IngressSpec.encode),
    ("status", i.status.map IngressStatus.encode)]

/-- Reads a text that must be the `expected` one, else it is a `wrongValue`. -/
def exactly (expected : String) : Decoder Unit := fun d => do
  let s ← Json.text d
  if s = expected then .ok () else .error (.wrongValue (.str s) expected)

/-- Reads an ingress. The group and the kind, where given, must be those of `Kind.ingress`; metadata
that are null or missing are empty. -/
def decode : Decoder Ingress := fun d => do
  let ms ← Json.presentMembers "Ingress" [
    .of "apiVersion" (exactly Kind.ingress.apiVersion), .of "kind" (exactly Kind.ingress.name),
    Json.perhaps "metadata" ObjectMeta.decode, Json.perhaps "spec" IngressSpec.decode,
    Json.perhaps "status" IngressStatus.decode] d
  return {
    metadata := (← Json.present? "metadata" ObjectMeta.decode ms).getD {}
    spec := ← Json.present? "spec" IngressSpec.decode ms
    status := ← Json.present? "status" IngressStatus.decode ms }

end Ingress

instance : Manifest Ingress := ⟨.ingress, Ingress.encode, Ingress.decode⟩

end MailDomain
