import MailDomain.Error.Api
import MailDomain.Json.Reader

/-!
# Responses of the API server

A response that tells of a failure explains it with a status object, and if it does not, its
text is taken for the explanation. Any other response holds the object that was asked for.

## Main definitions

* `Cluster.Response` — what comes back for a request.
* `Json.readRecord` — a record from a text.
* `Cluster.Response.text`, `Cluster.Response.object` — what a response holds.

## Main results

* `Cluster.Response.text_of_success` — a response that tells of no failure holds its body.
-/

set_option relaxedAutoImplicit false
set_option autoImplicit false

namespace MailDomain

/-- The record that `read` makes of the text `s`, or the message why there is none. What is wrong
with the record comes before more text after it. An array with too many elements counts as one with
more text after the last field. -/
def Json.readRecord {α : Type} (read : Decoder α) (s : String) : Except String α :=
  let (d, rest) := Json.Draft.ofText s
  match read d with
  | .error (.tooLong _) => .error Fault.trailingText.message
  | .error m => .error m.message
  | .ok a =>
    match Json.atEnd rest with
    | .error f => .error f.message
    | .ok () => .ok a

/-- The status that explains a failure with the code `code`: the one in `body`, or one made up from
the text if that is no status object. -/
def ApiStatus.explaining (code : Nat) (body : String) : ApiStatus :=
  match Json.readRecord ApiStatus.decode body with
  | .ok s => s
  | .error _ => {
      summary := some .failure
      code := UInt16.ofNat code
      message := body
      reason := "Failed to parse error data" }

namespace Cluster

/-- What comes back for a request. -/
inductive Response
  /-- An answer with a code and a text, be it of success or of failure. -/
  | answered (code : Nat) (body : String)
  /-- No answer at all, for the reason given. -/
  | failed (reason : String)
  deriving DecidableEq, Repr

namespace Response

/-- Whether the code of an answer tells of a failure, of the client or of the server. -/
def isFailure (code : Nat) : Bool := 400 ≤ code && code < 600

/-- The text of a response that tells of no failure. One that does gives the status that explains
it, and no answer at all gives its reason. -/
def text : Response → Except ApiFault String
  | .failed reason => .error (.service reason)
  | .answered code body =>
    if isFailure code then .error (.status (.explaining code body)) else .ok body

/-- A response that tells of no failure holds its body as its `text`. -/
theorem text_of_success {code : Nat} (h : isFailure code = false) (body : String) :
    (answered code body).text = .ok body := by simp [text, h]

/-- The record that `read` makes of the text of a response. A text that cannot be read is a failure
of its own. -/
def object {α : Type} (read : Json.Decoder α) (r : Response) : Except ApiFault α := do
  let body ← r.text
  (Json.readRecord read body).mapError .unreadable

/-- Accepts a response to a deletion: the object that was deleted, by `read`, or a `Status` object.
Which of the two it should be is decided by its `kind`. -/
def deletion {α : Type} (read : Json.Decoder α) (r : Response) : Except ApiFault Unit := do
  let body ← r.text
  let v ← (Json.readRecord (Json.whole Json.maxDepth) body).mapError .unreadable
  if v.sorted.get? "kind" matches some (.str "Status") then
    let _ ← (Json.readRecord ApiStatus.decode body).mapError ApiFault.unreadable
  else
    let _ ← (Json.readRecord read body).mapError ApiFault.unreadable

end Response

end Cluster

end MailDomain
