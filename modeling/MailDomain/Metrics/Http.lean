import MailDomain.Metrics.Exposition

/-!
# Serving a registry over HTTP

The text form of a registry is found under one path, and a sign of life under another.

## Main definitions

* `Http.Answer` — an answer to a request.
* `Http.answer` — the answer to a method and a target.
-/

set_option relaxedAutoImplicit false
set_option autoImplicit false

namespace MailDomain.Http

/-- The answer to a request: its status code, the headers that are set and the body. -/
structure Answer where
  status : Nat
  contentType : Option String := none
  allow : Option String := none
  body : String := ""
  deriving DecidableEq, Repr

/-- Whether a character may stand in the scheme of a target, before `://`. -/
def inScheme (c : Char) : Bool := c.isAlphanum || c == '+' || c == '-' || c == '.'

/-- Whether a character ends the authority of a target, which is what stands after `://`. -/
def endsAuthority (c : Char) : Bool := c == '/' || c == '?' || c == '#'

/-- What follows the scheme and the authority of a target that begins with them, `none` for any
other target. -/
def afterAuthority? (target : List Char) : Option (List Char) :=
  match target.dropWhile inScheme with
  | ':' :: '/' :: '/' :: rest => some (rest.dropWhile fun c => !endsAuthority c)
  | _ => none

/-- The start of a text up to the `?` of a query or the `#` of a fragment. -/
def beforeQuery (cs : List Char) : String :=
  String.ofList (cs.takeWhile fun c => c != '?' && c != '#')

/-- The path of a target, which ends before a query or a fragment. After an authority, an empty
path stands for the root. -/
def pathOf (target : String) : String :=
  match afterAuthority? target.toList with
  | none => beforeQuery target.toList
  | some rest => if (beforeQuery rest).isEmpty then "/" else beforeQuery rest

/-- What is found under a path: the `Exposition.text` of the registry under `/metrics`, a sign of
life under `/healthz`, and nothing else. -/
def content? (r : Registry) (path : String) : Option String :=
  if path = "/metrics" then some (Exposition.text r)
  else if path = "/healthz" then some "ok"
  else none

/-- The answer to a request: 404 where there is no `content?`, whatever the method, and 405 for a
method other than `GET` and `HEAD`, of which the second is answered without the body. -/
def answer (r : Registry) (method target : String) : Answer :=
  match content? r (pathOf target) with
  | none => { status := 404 }
  | some body =>
    if method = "GET" then
      { status := 200, contentType := some "text/plain; charset=utf-8", body }
    else if method = "HEAD" then
      { status := 200, contentType := some "text/plain; charset=utf-8" }
    else { status := 405, allow := some "GET,HEAD" }

end MailDomain.Http
