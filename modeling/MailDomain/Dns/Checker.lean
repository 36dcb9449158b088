import MailDomain.Dns.Message
import MailDomain.Error.Probe
import MailDomain.Pass.Config
import MailDomain.Record.Dkim
import MailDomain.Record.Name
import MailDomain.Record.Spf
import MailDomain.Record.Stats
import MailDomain.Text.Utf8

/-!
# Checks against a resolver

Each check asks one question and judges the reply. A reply that says that there is no such
domain counts as one without answers; any other failure leaves the check without a result.

## Main definitions

* `Checker.nameOf`, `typeOf`, `query` — the question of a check.
* `Checker.answers` — the answers of a reply, or why there are none.
* `Checker.passes` — whether answers satisfy a check.
* `Checker.check` — a check, with the outcome of its question.

## Main results

* `Checker.answers_noDomain` — no domain means no answers.
-/

set_option relaxedAutoImplicit false
set_option autoImplicit false

namespace MailDomain.Checker

open Dns

/-- The name that the check `c` of the domain `d` asks about, with a dot at its end so that no
search list applies. -/
def nameOf (d : Domain) : Check → String
  | .dkim => Record.qualified (Record.dkimName d.spec.dkim.selector d.spec.baseDomain)
  | .stats => Record.qualified d.spec.baseDomain
  | .spf => Record.qualified d.spec.baseDomain

/-- The type of records that a check asks for. -/
def typeOf : Check → RecordType
  | .dkim => .txt
  | .stats => .a
  | .spf => .txt

/-- The question of the check `c` of the domain `d`, or the failure `invalidName` if its name is
none. -/
def query (d : Domain) (c : Check) : Except ProbeError Query :=
  let written := nameOf d c
  match DnsName.read written with
  | .ok name => .ok ⟨written, name, typeOf c⟩
  | .error f => .error (.invalidName written f.message)

/-- The failure of the lookup of the question `q` for the given reason. It names the server of
`config`. -/
def failed (config : ProbeConfig) (q : Query) (reason : String) : ProbeError :=
  .lookupFailed q.written q.type.name config.server.text reason

/-- The answers to the question `q`: none if there is no such domain, and a failure if the reply has
any other code than that and `noError`, if nothing came in time, or if the exchange broke off. -/
def answers (config : ProbeConfig) (q : Query) : Exchange → Except ProbeError (List Dns.Record)
  | .answered r =>
    match r.code with
    | .noError => .ok r.answers
    | .noDomain => .ok []
    | code => .error (failed config q ("server answered " ++ code.text))
  | .silence => .error (.timeout q.written q.type.name config.limit.millis)
  | .broken reason => .error (failed config q reason)

/-- A reply with the code `noDomain` counts as one without answers. -/
theorem answers_noDomain (config : ProbeConfig) (q : Query) (rs : List Dns.Record) :
    answers config q (.answered ⟨.noDomain, rs⟩) = .ok [] := rfl

/-- The text of the character-strings of a record: each is decoded on its own, and then they are
joined. -/
def joined (strings : List (List UInt8)) : String := String.join (strings.map Text.decode)

/-- The texts among the records, each with its character-strings joined. -/
def texts (rs : List Dns.Record) : List String :=
  rs.filterMap fun
    | .text strings => some (joined strings)
    | _ => none

/-- The addresses among the records. -/
def addresses (rs : List Dns.Record) : List Ipv4 :=
  rs.filterMap fun
    | .address ip => some ip
    | _ => none

/-- Whether the records `rs` satisfy the check `c` of the domain `d`: a text that holds its key, an
address that is expected, or a text that delegates to the include. -/
def passes (config : ProbeConfig) (d : Domain) (c : Check) (rs : List Dns.Record) : Bool :=
  match c with
  | .dkim => (texts rs).any fun t => Dkim.hasKey t d.spec.dkim.publicKey
  | .stats => Stats.resolvesTo (addresses rs) config.statsAddresses
  | .spf => (texts rs).any fun t => Spf.delegatesTo t config.spfInclude

/-- The check `c` of the domain `d` in any monad in which `exchange` gives what comes of a question.
Nothing is asked about a name that is invalid. -/
def check {m : Type → Type} [Monad m] (config : ProbeConfig) (exchange : Query → m Exchange)
    (c : Check) (d : Domain) : m (Except ProbeError Bool) :=
  match query d c with
  | .error e => return .error e
  | .ok q => do
    let e ← exchange q
    return (answers config q e).map (passes config d c)

end MailDomain.Checker
