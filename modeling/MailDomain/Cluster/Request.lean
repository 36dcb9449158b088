import MailDomain.Error.Api
import MailDomain.Object.Key

/-!
# Requests to the API server

## Main definitions

* `Cluster.Method`, `Cluster.Body`, `Cluster.Request` — what is sent to the API server.
* `Cluster.Address` — the path and the query of a request, with `Address.read`.
* `Cluster.collectionPath` — the path of the objects of a kind.

## Main results

* `Cluster.Address.isOk_read_iff` — the texts that are addresses.
-/

set_option relaxedAutoImplicit false
set_option autoImplicit false

namespace MailDomain.Cluster

/-- The methods that a store uses in its requests to the API server. -/
inductive Method
  | get
  | post
  | delete
  | patch
  deriving DecidableEq, Repr

/-- The name of a method, as it stands in a request and in the log of a `Site`. -/
def Method.name : Method → String
  | .get => "GET"
  | .post => "POST"
  | .delete => "DELETE"
  | .patch => "PATCH"

/-- What a request carries: a whole object or the options of a deletion as a `value`, or a
`mergePatch`. -/
inductive Body
  | value (v : Json)
  | mergePatch (v : Json)

namespace Body

/-- The value that is sent, whichever of the two it is. -/
def content : Body → Json
  | .value v => v
  | .mergePatch v => v

/-- The media type of a body, by which a server tells a patch from a value. -/
def mediaType : Body → String
  | .value _ => "application/json"
  | .mergePatch _ => "application/merge-patch+json"

end Body

/-- Where a request goes: a `path`, and a `query` if there is one. The host is that of the server
and left out. -/
structure Address where
  path : String
  query : Option String := none
  deriving DecidableEq, Repr

namespace Address

/-- Whether the character `c` can stand in an address at all: it is neither a space nor an ASCII
control character. -/
def isVisible (c : Char) : Bool := 0x20 < c.toNat && c.toNat != 0x7F

/-- Whether the character `c` may stand in the path of an address as it is. -/
def inPath (c : Char) : Bool := isVisible c && c != '<' && c != '>' && c != '\x60'

/-- Whether the character `c` may stand in the query of an address as it is. -/
def inQuery (c : Char) : Bool := isVisible c && c != '"' && c != '<' && c != '>'

/-- The most octets that the text of an address may have, its fragment included. -/
def maxLength : Nat := 65534

/-- The text `s` up to the first `#`, where a fragment begins. A fragment is never sent. -/
def beforeFragment (s : String) : List Char := s.toList.takeWhile (· != '#')

/-- The characters of `s` that make up its path, which ends before the first question mark. -/
def pathChars (s : String) : List Char := (beforeFragment s).takeWhile (· != '?')

/-- The characters of `s` after its path, the question mark first, if there is one. -/
def queryChars (s : String) : List Char := (beforeFragment s).dropWhile (· != '?')

/-- The address that the text `s` stands for, or the fault for which it is none: it is longer than
`maxLength`, or has a character in its path or in its query that may not stand there. -/
def read (s : String) : Except AddressFault Address :=
  if maxLength < s.utf8ByteSize then .error .tooLong
  else if (pathChars s).all inPath && (queryChars s).tail.all inQuery then
    .ok {
      path := String.ofList (pathChars s)
      query := match queryChars s with
        | [] => none
        | _ :: q => some (String.ofList q) }
  else .error .badCharacter

/-- A text is an address exactly if it has at most `maxLength` octets, each character of its path is
`inPath`, and each one after the question mark is `inQuery`. -/
theorem isOk_read_iff (s : String) :
    (read s).isOk ↔ s.utf8ByteSize ≤ maxLength ∧ (∀ c ∈ pathChars s, inPath c) ∧
      ∀ c ∈ (queryChars s).tail, inQuery c := by
  simp only [read]
  split
  · next h => simpa [Except.isOk, Except.toBool] using fun hs => absurd hs (by omega)
  · next h =>
    split <;> rename_i hc <;> simp [Except.isOk, Except.toBool] <;> simp at hc
    · exact ⟨by omega, hc⟩
    · exact fun _ => hc

end Address

/-- A request to the API server: what to do, where, and with what. -/
structure Request where
  method : Method
  address : Address
  body : Option Body := none

/-- The path of the API group of the kind `k`. -/
def groupPath (k : Kind) : String := "/apis/" ++ k.apiVersion

/-- The path of the objects of the kind `k` in a namespace, or in all of them for `none`. The
namespace stands in it as it is. -/
def collectionPath (k : Kind) : Option String → String
  | none => groupPath k ++ "/" ++ k.collection
  | some ns => groupPath k ++ "/namespaces/" ++ ns ++ "/" ++ k.collection

end MailDomain.Cluster
