/-!
# Checks and failed lookups

## Main definitions

* `Check` — the DNS checks of a domain.
* `ProbeError` — why a lookup gave no answer, with its `message`.
-/

set_option relaxedAutoImplicit false
set_option autoImplicit false

namespace MailDomain

/-- A DNS check of a domain. They are made in this order. -/
inductive Check
  /-- Whether the record of the DKIM key holds the domain's public key. -/
  | dkim
  /-- Whether the base domain has an address that is expected. -/
  | stats
  /-- Whether the SPF policy of the base domain includes that of the operator. -/
  | spf
  deriving DecidableEq, Repr

/-- The label of a check in messages and metrics. -/
def Check.label : Check → String
  | .dkim => "dkim"
  | .stats => "stats_dns"
  | .spf => "spf"

/-- Why a lookup gave no answer, so that its check neither passed nor failed. -/
inductive ProbeError
  /-- The name to look up is no DNS name, and nothing was asked. -/
  | invalidName (name reason : String)
  /-- The server could not be reached, or answered with a code that tells of a failure. -/
  | lookupFailed (name recordType server reason : String)
  /-- No answer came within the limit of a lookup. -/
  | timeout (name recordType : String) (limitMillis : Nat)
  deriving DecidableEq, Repr

/-- The wording of a failed lookup. It names what was asked for and, for a failed one, the
server. -/
def ProbeError.message : ProbeError → String
  | .invalidName name reason => "Invalid DNS name '" ++ name ++ "': " ++ reason
  | .lookupFailed name recordType server reason =>
    recordType ++ " lookup for '" ++ name ++ "' via " ++ server ++ " failed: " ++ reason
  | .timeout name recordType limit =>
    recordType ++ " lookup for '" ++ name ++ "' timed out after " ++ toString limit ++ "ms"

end MailDomain
