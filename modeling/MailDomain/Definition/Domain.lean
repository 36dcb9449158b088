import MailDomain.Definition.Schema
import MailDomain.Object.Domain

/-!
# The definition of domains

The API server learns about domains from a definition: how they are called, what they look
like, and which columns a listing shows.

## Main definitions

* `Definition.labelPattern`, `namePattern` — the selectors and the base domains that the API
  server admits.
* `Definition.domainSchema` — what a domain looks like.
* `Definition.domain` — the whole definition, as the object that is given to the API server.
* `DomainSpec.Admitted` — the specifications that the API server admits.
-/

set_option relaxedAutoImplicit false
set_option autoImplicit false

namespace MailDomain

namespace Definition

/-- The API group under which domains are served. -/
def group : String := "mail.firestoned.io"

/-- The one version of the definition, which domains are both served and stored in. -/
def version : String := "v1alpha1"

/-- One label of a name: letters, digits and inner hyphens, at most 63 of them. The selector of a
DKIM key is such a label. -/
def labelPattern : Pattern :=
  .seq (.one .alphanumeric)
    (.optional (.seq (.upTo .hyphenated 61) (.one .alphanumeric)))

/-- A name: one or more labels with points between them. How long it is as a whole is left open. -/
def namePattern : Pattern := .seq labelPattern (.many (.seq .point labelPattern))

/-- The schema of the DKIM key of a domain, in which the selector has to match `labelPattern`. -/
def dkimSchema : Schema := .object
  { description := some "DKIM configuration used to validate the published DKIM record." }
  [("publicKey", .text
    { description := some
        "Base64 public key that must appear as the `p=` tag of the DKIM TXT record." } none),
   ("selector", .text
    { description := some
        "DKIM selector. The public key is expected at `<selector>._domainkey.<baseDomain>`." }
    (some labelPattern))]
  ["publicKey", "selector"]

/-- The description of a specification in its schema, with an example. -/
def specDescription : String := "\n".intercalate [
  "`Domain` declares a mail sending domain whose DNS setup is verified by the operator.",
  "",
  "# Example",
  "",
  "```yaml",
  "apiVersion: mail.firestoned.io/v1alpha1",
  "kind: Domain",
  "metadata:",
  "  name: acme",
  "  namespace: mail",
  "spec:",
  "  baseDomain: mail.acme.com",
  "  dkim:",
  "    selector: kannon",
  "    publicKey: MIIBIjANBgkqh...",
  "```"]

/-- The schema of the specification of a domain, in which the base domain has to match
`namePattern`. -/
def specSchema : Schema := .object
  { description := some specDescription }
  [("baseDomain", .text
    { description := some
        "Sending domain (e.g., \"mail.example.com\"). Also the host served by the stats ingress." }
    (some namePattern)),
   ("dkim", dkimSchema)]
  ["baseDomain", "dkim"]

/-- The schema of the outcome of the DNS checks. One that is missing counts as `DnsStatus.none`. -/
def dnsSchema : Schema := .object
  { description := some "Results of the DNS checks for a domain."
    fallback := some DnsStatus.none.encode }
  [("dkim", .boolean
    { description := some "DKIM TXT record is published with the configured public key." }),
   ("spf", .boolean
    { description := some "SPF policy delegates to the configured include." }),
   ("stats", .boolean
    { description := some "The base domain resolves to the stats endpoint." })]
  ["dkim", "spf", "stats"]

/-- The description of a status in its schema. -/
def statusDescription : String := "\n".intercalate [
  "`Domain` status.",
  "",
  "All fields are always serialized so a status write replaces the previous value",
  "entirely."]

/-- The schema of the status of a domain, of which every part may be missing. -/
def statusSchema : Schema := .object
  { description := some statusDescription, nullable := true }
  [("dns", dnsSchema), ("observedGeneration", .word64 { nullable := true })]
  []

/-- The schema of a domain as a whole. -/
def domainSchema : Schema := .object
  { title := some Kind.domain.name
    description := some ("Domain declares a mail sending domain. The operator checks its DKIM, " ++
      "SPF and stats DNS records and publishes a stats Ingress once the stats record resolves.") }
  [("spec", specSchema), ("status", statusSchema)]
  ["spec"]

/-- A column of a listing: its name, the type of what it shows and the path to that. -/
def column (name type path : String) : Json :=
  .obj [("jsonPath", .str path), ("name", .str name), ("type", .str type)]

/-- The names by which domains are called, in the singular, in the plural and for short. -/
def names : Json := .obj [
  ("categories", .arr []),
  ("kind", .str Kind.domain.name),
  ("plural", .str Kind.domain.collection),
  ("shortNames", .arr [.str "mdom"]),
  ("singular", .str "domain")]

/-- The one version of the definition, with its schema and its columns. The status is written apart
from the rest. -/
def currentVersion : Json := .obj [
  ("additionalPrinterColumns", .arr [
    column "Base Domain" "string" ".spec.baseDomain",
    column "DKIM" "boolean" ".status.dns.dkim",
    column "SPF" "boolean" ".status.dns.spf",
    column "Stats" "boolean" ".status.dns.stats"]),
  ("name", .str version),
  ("schema", .obj [("openAPIV3Schema", domainSchema.encode)]),
  ("served", .bool true),
  ("storage", .bool true),
  ("subresources", .obj [("status", .obj [])])]

/-- The definition of domains, as it is given to the API server. -/
def domain : Json := .obj [
  ("apiVersion", .str "apiextensions.k8s.io/v1"),
  ("kind", .str "CustomResourceDefinition"),
  ("metadata", .obj [("name", .str (Kind.domain.collection ++ "." ++ group))]),
  ("spec", .obj [
    ("group", .str group),
    ("names", names),
    ("scope", .str "Namespaced"),
    ("versions", .arr [currentVersion])])]

/-- The `group` and the `version` make up the `apiVersion` under which domains are served. -/
theorem group_version : group ++ "/" ++ version = Kind.domain.apiVersion := rfl

end Definition

/-- The specification is one that the API server admits by `specSchema`: the base domain and the
selector match their patterns. The public key is not looked at. -/
def DomainSpec.Admitted (s : DomainSpec) : Prop :=
  Definition.namePattern.Matches s.baseDomain.toList ∧
    Definition.labelPattern.Matches s.dkim.selector.toList

end MailDomain
