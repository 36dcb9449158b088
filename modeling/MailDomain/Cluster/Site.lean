import MailDomain.Cluster.Server
import MailDomain.Cluster.Store
import MailDomain.Pass.Deadline

/-!
# Passes at a cluster

The store calls of a pass become requests. A site is a server with a log of the requests that
it answered and with what passes counted.

## Main definitions

* `Cluster.answer` — the answers to the calls of a pass, given how requests are sent and how
  checks are answered.
* `Cluster.Entry`, `Cluster.Site` — the log of a server.
* `Cluster.Site.environment` — a site as the environment of a pass.
-/

set_option relaxedAutoImplicit false
set_option autoImplicit false

namespace MailDomain.Cluster

/-- The answers to the calls of a pass over a store on the API server, in any monad in which `send`
sends a request and `check` answers a check. Each call but a check is one operation of
`ClusterStore`. -/
def answer {m : Type → Type} [Monad m] (send : Request → m Response)
    (check : Check → Domain → m (Except ProbeError Bool)) : (c : Call) → m c.Answer
  | .fetchDomain key => Operation.perform send (ClusterStore.get key)
  | .check c d => check c d
  | .fetchIngress key => Operation.perform send (ClusterStore.get key)
  | .createIngress i => Operation.perform send (ClusterStore.create i)
  | .deleteIngress i => Operation.perform send (ClusterStore.delete i)
  | .writeStatus d => Operation.perform send (ClusterStore.updateStatus d)

/-- A request in the log of a site, with the `time` at which it was sent and the `code` of its
answer. -/
structure Entry where
  time : Duration
  request : Request
  code : Nat

namespace Entry

/-- The method and the path of a request, without its query. -/
def call (e : Entry) : String := e.request.method.name ++ " " ++ e.request.address.path

/-- The status that a request writes, if it is a merge patch with one. -/
def status? (e : Entry) : Option Json :=
  match e.request.method, e.request.body with
  | .patch, some b => b.content.get? "status"
  | _, _ => none

/-- The key of the domain that a request concerns: the one named in its path, or for a creation in
its body. -/
def subject? (e : Entry) : Option ObjectKey := do
  let r ← Route.ofPath? e.request.address.path
  let name := match r.place with
    | .object name => name
    | .status name => name
    | .all => (Server.keyOf ((e.request.body.map Body.content).getD .null)).name
  return subjectOf r.kind ⟨r.ns, name⟩

end Entry

/-- A server with the log of the requests to it, the last one first, and what passes counted. -/
structure Site where
  server : Server := {}
  log : List Entry := []
  metrics : Registry := {}

namespace Site

/-- Sends the request `r` to the server of a site, at the time `now`, and logs it. A request without
an answer is logged with the code 0. -/
def send (now : Duration) (r : Request) : StateM Site Response := modifyGet fun s =>
  let (response, server) := s.server.respond r
  let code := match response with
    | .answered code _ => code
    | .failed _ => 0
  (response, { s with server, log := ⟨now, r, code⟩ :: s.log })

/-- Counts the observation `o` in the metrics of a site. -/
def observed (o : Observation) : StateM Site Unit :=
  modify fun s => { s with metrics := s.metrics.record o }

/-- A site as the environment of a pass, where `check` answers the checks at once. Each request is
waited for, so that a pass can be stopped at it, but takes no time. -/
def environment (check : Check → Domain → Except ProbeError Bool) : Environment Site where
  answer := answer
    (fun r => do
      Timed.yield
      let now := (← get).1.now
      Timed.act fun s => (send now r).run s)
    (fun c d => return check c d)
  observed o := Timed.act fun s => (observed o).run s

end Site

end MailDomain.Cluster
