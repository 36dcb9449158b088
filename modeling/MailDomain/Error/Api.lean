import MailDomain.Error.ApiStatus

/-!
# Failures of the API server

## Main definitions

* `AddressFault` — why a text is no address.
* `ApiFault` — why a request did not succeed, with its `message` and its `causes`.
-/

set_option relaxedAutoImplicit false
set_option autoImplicit false

namespace MailDomain

/-- Why a text is no address of a request. -/
inductive AddressFault
  /-- The text has more octets than an address may have. -/
  | tooLong
  /-- A character stands in the path or in the query where it may not. -/
  | badCharacter
  deriving DecidableEq, Repr

/-- The wording of what is wrong with an address. -/
def AddressFault.message : AddressFault → String
  | .tooLong => "uri too long"
  | .badCharacter => "invalid uri character"

/-- Why a request to the API server did not succeed. -/
inductive ApiFault
  /-- The server answered with a status object that tells of a failure. -/
  | status (s : ApiStatus)
  /-- No answer came from the server. -/
  | service (text : String)
  /-- The answer could not be read as the object that was asked for. -/
  | unreadable (text : String)
  /-- The object to ask for has an empty name, so that the request was never made. -/
  | nameless
  /-- The request has an invalid address, so that it was never made. -/
  | badAddress (fault : AddressFault)
  deriving DecidableEq, Repr

namespace ApiFault

/-- The causes of a fault, the outermost first. They are logged one by one. -/
def causes : ApiFault → List String
  | .status s => [s.text]
  | .service t => [t]
  | .unreadable t => [t]
  | .nameless => ["failed to validate request: A non-empty name is required"]
  | .badAddress f => ["failed to build request: " ++ f.message, f.message]

/-- The wording of a fault as a whole, which contains those of its causes. -/
def message : ApiFault → String
  | .status s => "ApiError: " ++ s.text ++ " (" ++ s.detail ++ ")"
  | .service t => "ServiceError: " ++ t
  | .unreadable t => "Error deserializing response: " ++ t
  | .nameless => "Failed to build request: failed to validate request: A non-empty name is required"
  | .badAddress f => "Failed to build request: failed to build request: " ++ f.message

end ApiFault

end MailDomain
