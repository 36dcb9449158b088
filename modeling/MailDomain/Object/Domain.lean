import MailDomain.Object.Resource

/-!
# Mail domains

A domain declares the name that mail is sent from and the DKIM key published for it. Its
status holds the outcome of the latest DNS checks.

## Main definitions

* `DkimConfig`, `DomainSpec`, `DnsStatus`, `DomainStatus`, `Domain`.
* `DnsStatus.converged` — whether every check passes.
* `encode` and `decode` of each — their JSON forms.
-/

set_option relaxedAutoImplicit false
set_option autoImplicit false

namespace MailDomain

open Json (Decoder RecordField Mismatch)

/-- The DKIM key of a domain, as it should be published in a TXT record. -/
structure DkimConfig where
  /-- The selector under which the key is published. -/
  selector : String
  /-- The key in Base64. -/
  publicKey : String
  deriving DecidableEq, Repr

namespace DkimConfig

/-- A DKIM key as a value: the object of its two fields, which `decode` reads back. -/
def encode (c : DkimConfig) : Json :=
  .obj [("publicKey", .str c.publicKey), ("selector", .str c.selector)]

/-- The field `selector`. -/
def selectorField : RecordField String := { name := "selector", read := Json.text }

/-- The field `publicKey`. -/
def publicKeyField : RecordField String := { name := "publicKey", read := Json.text }

/-- The shape of the array form, as the mismatch `tooShort` names it. -/
def shape : String := "struct DkimConfig with 2 elements"

/-- Reads a DKIM key from an object or from the array of its fields. -/
def decode : Decoder DkimConfig
  | .obj ms e => do
    let ms ← Json.recordMembers [selectorField.expectation, publicKeyField.expectation] ms e
    let selector ← selectorField.ofMembers ms
    let publicKey ← publicKeyField.ofMembers ms
    return ⟨selector, publicKey⟩
  | .arr es e => do
    let selector ← selectorField.ofElems shape 0 es e
    let publicKey ← publicKeyField.ofElems shape 1 es e
    Json.checkLength 2 es e
    return ⟨selector, publicKey⟩
  | d => .error (d.mismatch "struct DkimConfig")

end DkimConfig

/-- What a domain should be: the `spec` of a `Domain`. -/
structure DomainSpec where
  /-- The name that mail is sent from, which is also the host of the stats ingress. -/
  baseDomain : String
  dkim : DkimConfig
  deriving DecidableEq, Repr

namespace DomainSpec

/-- A specification as a value, with its `DkimConfig` as a value in it. -/
def encode (s : DomainSpec) : Json :=
  .obj [("baseDomain", .str s.baseDomain), ("dkim", s.dkim.encode)]

/-- The field `baseDomain`. -/
def baseDomainField : RecordField String := { name := "baseDomain", read := Json.text }

/-- The field `dkim`. -/
def dkimField : RecordField DkimConfig := { name := "dkim", read := DkimConfig.decode }

/-- The shape of the array form, as the mismatch `tooShort` names it. -/
def shape : String := "struct DomainSpec with 2 elements"

/-- Reads a specification from an object or from the array of its fields. -/
def decode : Decoder DomainSpec
  | .obj ms e => do
    let ms ← Json.recordMembers [baseDomainField.expectation, dkimField.expectation] ms e
    let baseDomain ← baseDomainField.ofMembers ms
    let dkim ← dkimField.ofMembers ms
    return ⟨baseDomain, dkim⟩
  | .arr es e => do
    let baseDomain ← baseDomainField.ofElems shape 0 es e
    let dkim ← dkimField.ofElems shape 1 es e
    Json.checkLength 2 es e
    return ⟨baseDomain, dkim⟩
  | d => .error (d.mismatch "struct DomainSpec")

end DomainSpec

/-- The outcome of the DNS checks, one flag for each. -/
structure DnsStatus where
  /-- The DKIM record holds the domain's key. -/
  dkim : Bool
  /-- The base domain resolves to the stats endpoint. -/
  stats : Bool
  /-- The SPF policy delegates to the configured include. -/
  spf : Bool
  deriving DecidableEq, Repr, Inhabited

namespace DnsStatus

/-- Whether every check passes. The time to the next pass depends on it by `Intervals.next`. -/
def converged (s : DnsStatus) : Bool := s.dkim && s.stats && s.spf

/-- No check passes, the outcome before there is any. -/
def none : DnsStatus := ⟨false, false, false⟩

/-- An outcome as a value: the object of its three flags. -/
def encode (s : DnsStatus) : Json :=
  .obj [("dkim", .bool s.dkim), ("spf", .bool s.spf), ("stats", .bool s.stats)]

/-- The field `dkim`. -/
def dkimField : RecordField Bool := { name := "dkim", read := Json.flag }

/-- The field `stats`. -/
def statsField : RecordField Bool := { name := "stats", read := Json.flag }

/-- The field `spf`. -/
def spfField : RecordField Bool := { name := "spf", read := Json.flag }

/-- The shape of the array form, as the mismatch `tooShort` names it. -/
def shape : String := "struct DnsStatus with 3 elements"

/-- Reads an outcome from an object or from the array of its fields. -/
def decode : Decoder DnsStatus
  | .obj ms e => do
    let ms ← Json.recordMembers
      [dkimField.expectation, statsField.expectation, spfField.expectation] ms e
    let dkim ← dkimField.ofMembers ms
    let stats ← statsField.ofMembers ms
    let spf ← spfField.ofMembers ms
    return ⟨dkim, stats, spf⟩
  | .arr es e => do
    let dkim ← dkimField.ofElems shape 0 es e
    let stats ← statsField.ofElems shape 1 es e
    let spf ← spfField.ofElems shape 2 es e
    Json.checkLength 3 es e
    return ⟨dkim, stats, spf⟩
  | d => .error (d.mismatch "struct DnsStatus")

end DnsStatus

/-- What a domain is: the `status` of a `Domain`, which only the status write of a pass sets. -/
structure DomainStatus where
  dns : DnsStatus
  /-- The generation of the domain that was checked. -/
  observedGeneration : Option Int64
  deriving DecidableEq

namespace DomainStatus

/-- A status as a value. Both members are always there, with `null` for no generation, so that a
written status replaces all of the one before. -/
def encode (s : DomainStatus) : Json :=
  .obj [("dns", s.dns.encode),
    ("observedGeneration", match s.observedGeneration with
      | none => .null
      | some g => Json.ofInt g.toInt)]

/-- The field `dns`, which is `DnsStatus.none` where it is missing. -/
def dnsField : RecordField DnsStatus :=
  { name := "dns", read := DnsStatus.decode, absent := some .none, past := some .none }

/-- The field `observedGeneration`, which may be null and is unset where it is missing. -/
def observedGenerationField : RecordField (Option Int64) where
  name := "observedGeneration"
  read := Json.optional Json.word64
  absent := some none
  past := some none

/-- The shape of the array form, as the mismatch `tooShort` names it. -/
def shape : String := "struct DomainStatus with 2 elements"

/-- Reads a status from an object or from the array of its fields. -/
def decode : Decoder DomainStatus
  | .obj ms e => do
    let ms ← Json.recordMembers [dnsField.expectation, observedGenerationField.expectation] ms e
    let dns ← dnsField.ofMembers ms
    let observedGeneration ← observedGenerationField.ofMembers ms
    return ⟨dns, observedGeneration⟩
  | .arr es e => do
    let dns ← dnsField.ofElems shape 0 es e
    let observedGeneration ← observedGenerationField.ofElems shape 1 es e
    Json.checkLength 2 es e
    return ⟨dns, observedGeneration⟩
  | d => .error (d.mismatch "struct DomainStatus")

end DomainStatus

/-- A mail domain: a `Resource` that holds a `DomainSpec` and a `DomainStatus`. -/
abbrev Domain := Resource DomainSpec DomainStatus

namespace Domain

/-- A domain of which nothing but the name and the specification is set, as one that was never
stored. -/
def new (name : String) (spec : DomainSpec) : Domain where
  metadata := { name := some name }
  spec := spec

/-- A domain as a value: `Json.ofFields` leaves out a status that is unset. -/
def encode (d : Domain) : Json :=
  Json.ofFields [
    ("apiVersion", some (.str Kind.domain.apiVersion)),
    ("kind", some (.str Kind.domain.name)),
    ("metadata", some d.metadata.encode),
    ("spec", some d.spec.encode),
    ("status", d.status.map DomainStatus.encode)]

/-- The field `metadata`. -/
def metadataField : RecordField ObjectMeta := { name := "metadata", read := ObjectMeta.decode }

/-- The field `spec`. -/
def specField : RecordField DomainSpec := { name := "spec", read := DomainSpec.decode }

/-- The field `status`, which may be null or missing in an object. An array must have it. -/
def statusField : RecordField (Option DomainStatus) where
  name := "status"
  read := Json.optional DomainStatus.decode
  absent := some none

/-- The shape of the array form, as the mismatch `tooShort` names it. -/
def shape : String := "struct Domain with 3 elements"

/-- Reads a domain from an object or from the array of its fields. `apiVersion` and `kind` are
passed over as any other member is. -/
def decode : Decoder Domain
  | .obj ms e => do
    let ms ← Json.recordMembers
      [metadataField.expectation, specField.expectation, statusField.expectation] ms e
    let metadata ← metadataField.ofMembers ms
    let spec ← specField.ofMembers ms
    let status ← statusField.ofMembers ms
    return ⟨metadata, spec, status⟩
  | .arr es e => do
    let metadata ← metadataField.ofElems shape 0 es e
    let spec ← specField.ofElems shape 1 es e
    let status ← statusField.ofElems shape 2 es e
    Json.checkLength 3 es e
    return ⟨metadata, spec, status⟩
  | d => .error (d.mismatch "struct Domain")

end Domain

instance : Manifest Domain := ⟨.domain, Domain.encode, Domain.decode⟩

end MailDomain
