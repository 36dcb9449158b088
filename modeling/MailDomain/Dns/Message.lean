import MailDomain.Dns.Name
import MailDomain.Net.Ipv4

/-!
# Questions and answers

## Main definitions

* `Dns.RecordType`, `Dns.Query` — what is asked.
* `Dns.ResponseCode`, `Dns.Record`, `Dns.Reply` — what is answered.
* `Dns.Exchange` — what comes of a question, `Exchange.unreachable` being one case of it.
-/

set_option relaxedAutoImplicit false
set_option autoImplicit false

namespace MailDomain.Dns

/-- The types of records that the checks ask for. -/
inductive RecordType
  | a
  | txt
  deriving DecidableEq, Repr

/-- The name of a type of records, as failures name it. -/
def RecordType.name : RecordType → String
  | .a => "A"
  | .txt => "TXT"

/-- A question: a name, as it was written and as it was read, and a type of records. -/
structure Query where
  written : String
  name : DnsName
  type : RecordType
  deriving DecidableEq, Repr

/-- The code of a reply: what was wrong with the question, or `noError`. Those from `badSignature`
on are extended codes, whose upper octet stands in a record of its own. -/
inductive ResponseCode
  | noError
  | formatError
  | serverFailure
  | noDomain
  | notImplemented
  | refused
  | domainExists
  | setExists
  | noSet
  | notAuthorized
  | notZone
  | badSignature
  | badKey
  | badTime
  | badMode
  | badName
  | badAlgorithm
  | badTruncation
  | badCookie
  | unknown (code : Nat)
  deriving DecidableEq, Repr

/-- The code with a given number. Number 16 stands for two codes, a bad version of the extension
and a bad signature; it is read as `badSignature`, so that the other has no constructor. -/
def ResponseCode.ofNat : Nat → ResponseCode
  | 0 => .noError
  | 1 => .formatError
  | 2 => .serverFailure
  | 3 => .noDomain
  | 4 => .notImplemented
  | 5 => .refused
  | 6 => .domainExists
  | 7 => .setExists
  | 8 => .noSet
  | 9 => .notAuthorized
  | 10 => .notZone
  | 16 => .badSignature
  | 17 => .badKey
  | 18 => .badTime
  | 19 => .badMode
  | 20 => .badName
  | 21 => .badAlgorithm
  | 22 => .badTruncation
  | 23 => .badCookie
  | n => .unknown n

/-- The wording of a code, which is the reason that a failed lookup gives: `Server Failure` for
`serverFailure`, and one wording for all codes that are `unknown`. -/
def ResponseCode.text : ResponseCode → String
  | .noError => "No Error"
  | .formatError => "Form Error"
  | .serverFailure => "Server Failure"
  | .noDomain => "Non-Existent Domain"
  | .notImplemented => "Not Implemented"
  | .refused => "Query Refused"
  | .domainExists => "Name should not exist"
  | .setExists => "RR Set should not exist"
  | .noSet => "RR Set does not exist"
  | .notAuthorized => "Not authorized"
  | .notZone => "Name not in zone"
  | .badSignature => "TSIG Failure"
  | .badKey => "Key not recognized"
  | .badTime => "Signature out of time window"
  | .badMode => "Bad TKEY mode"
  | .badName => "Duplicate key name"
  | .badAlgorithm => "Algorithm not supported"
  | .badTruncation => "Bad truncation"
  | .badCookie => "Bad server cookie"
  | .unknown _ => "Unknown response code"

/-- A record of a reply: an address, the character-strings of a text, or something else. -/
inductive Record
  | address (ip : Ipv4)
  | text (strings : List (List UInt8))
  | other (type : String)
  deriving DecidableEq, Repr

/-- A reply: its code, and the records that it brings as answers. -/
structure Reply where
  code : ResponseCode
  answers : List Record
  deriving DecidableEq, Repr

/-- What comes of putting a question to a server. -/
inductive Exchange
  | answered (r : Reply)
  /-- Nothing came within the time of a lookup. -/
  | silence
  /-- The question could not be put or its answer could not be taken. -/
  | broken (reason : String)
  deriving DecidableEq, Repr

/-- What comes of a question to a server that cannot be reached at all. -/
def Exchange.unreachable : Exchange := .broken "proto error"

end MailDomain.Dns
