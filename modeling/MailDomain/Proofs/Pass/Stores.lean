import MailDomain.Proofs.Pass.Protocol
import MailDomain.Proofs.Pass.Service
import MailDomain.Proofs.Store.Invariant

/-!
# Passes over two stores in memory

A pass is carried out over a store of domains and a store of ingresses, with a checker that answers
at once. Nobody else writes to the stores. A fate says how long each call of a pass takes and which
calls fail before they have any effect.

## Main definitions

* `Stores` — the two stores, and what was counted; `Stores.answer` and `Stores.note` are what calls
  and observations do.
* `Stores.carryOut` — a plan carried out without a clock and without failures.
* `Fate`, `Stores.environment` — the stores as an environment in which calls take time and fail.
* `Stores.respond` — what a call does that meets its fate.
* `Stores.service` — the stores as a service.

## Main results

* `Stores.carryOut_leads`, `Stores.environment_obeys` — both are ways of that service.
-/

set_option relaxedAutoImplicit false
set_option autoImplicit false

namespace MailDomain

/-- The type of the failures of a call: a `ProbeError` for a check, and a `StoreError` for any call
to a store. -/
abbrev Call.Failure : Call → Type
  | .check _ _ => ProbeError
  | _ => StoreError

/-- The answer that the failure `e` gives to the call `c`. -/
def Call.failed : (c : Call) → c.Failure → c.Answer
  | .fetchDomain _, e => .error e
  | .check _ _, e => .error e
  | .fetchIngress _, e => .error e
  | .createIngress _, e => .error e
  | .deleteIngress _, e => .error e
  | .writeStatus _, e => .error e

/-- Whether the answer to a call is a success. -/
def Call.isOk : (c : Call) → c.Answer → Bool
  | .fetchDomain _, a => a.isOk
  | .check _ _, a => a.isOk
  | .fetchIngress _, a => a.isOk
  | .createIngress _, a => a.isOk
  | .deleteIngress _, a => a.isOk
  | .writeStatus _, a => a.isOk

/-- The store in memory that a pass has its domains in. -/
abbrev DomainStore := MemoryStore DomainSpec DomainStatus

/-- The store in memory that a pass has its stats ingresses in. -/
abbrev IngressStore := MemoryStore (Option IngressSpec) IngressStatus

/-- For a domain that has an identity, storing `judged d f` with the version `v` changes the version
and the status, and keeps the identity. -/
lemma stamped_judged {d : Domain} (hd : d.metadata.uid.isSome) (f : DnsStatus) (v : Nat) :
    MemoryStore.stamped (Protocol.judged d f) v = { d with
      metadata := { d.metadata with resourceVersion := some (toString v) }
      status := some ⟨f, d.metadata.generation⟩ } := by
  obtain ⟨uid, hu⟩ := Option.isSome_iff_exists.1 hd
  simp [MemoryStore.stamped, Protocol.judged, Resource.withStatus, statusAfter, hu]

/-- The world of a pass in memory: a store of domains, one of ingresses, and the registry that its
observations are recorded in. -/
structure Stores where
  domains : DomainStore := {}
  ingresses : IngressStore := {}
  metrics : Registry := {}

/-- What a checker answers to the checks of a domain. It is any function, so that a theorem about
all checkers is one about all DNS answers. -/
abbrev Checker := Check → Domain → Except ProbeError Bool

/-- What befalls the calls of one pass: `delay c` is the time that the call `c` takes, and
`failure c` the failure that it meets before it has an effect, if any. A function of the call is
enough, since no call is made twice in a pass. -/
structure Fate where
  delay : Call → Duration
  failure : (c : Call) → Option c.Failure

namespace Stores

/-- What the call `c` does over two stores: its answer, and the stores after it. Fetches and checks
leave them as they are. -/
def answer (checker : Checker) : (c : Call) → Stores → c.Answer × Stores
  | .fetchDomain key, s => (.ok (s.domains.get key), s)
  | .check c d, s => (checker c d, s)
  | .fetchIngress key, s => (.ok (s.ingresses.get key), s)
  | .createIngress i, s =>
    ((s.ingresses.create i).1, { s with ingresses := (s.ingresses.create i).2 })
  | .deleteIngress i, s =>
    ((s.ingresses.delete i).1, { s with ingresses := (s.ingresses.delete i).2 })
  | .writeStatus d, s =>
    ((s.domains.updateStatus d).1, { s with domains := (s.domains.updateStatus d).2 })

/-- What the call `c` does if it meets `fate`: it fails and leaves the stores as they are, or does
what `answer` says. -/
def respond (checker : Checker) (fate : Fate) (c : Call) (s : Stores) : c.Answer × Stores :=
  match fate.failure c with
  | some e => (c.failed e, s)
  | none => answer checker c s

/-- An observation is recorded in the registry and leaves both stores as they are. -/
def note (o : Observation) (s : Stores) : Stores := { s with metrics := s.metrics.record o }

/-- A plan that may fail, carried out over the stores `s` without a clock and without failures other
than those that the stores give themselves. -/
def carryOut {α : Type} (checker : Checker) (p : Pass α) (s : Stores) :
    Except PassError α × Stores :=
  (p.run.run (m := StateM Stores) (fun c => modifyGet (answer checker c))
    (fun o => modify (note o))).run s

/-- The stores as an environment of `runPass`: the call `c` first waits for `fate.delay c`, and then
fails with `fate.failure c` or has its effect. A call at which the deadline stops the pass has no
effect. -/
def environment (checker : Checker) (fate : Fate) : Environment Stores where
  answer c := do
    Timed.wait (fate.delay c)
    match fate.failure c with
    | some e => return c.failed e
    | none => Timed.act (answer checker c)
  observed o := Timed.change (note o)

/-- The stores as a service, in which a call may fail with any `e` that `mayFail` allows and leave
the stores, or do what `answer` says. -/
def service (checker : Checker) (mayFail : (c : Call) → c.Failure → Prop) : Service Stores where
  answers c s a t := (∃ e, mayFail c e ∧ a = c.failed e ∧ t = s) ∨ (a, t) = answer checker c s
  noted := note

/-- The run `carryOut checker p s` has a complete story, of a service in which no call meets a
failure from outside. -/
lemma carryOut_leads {α : Type} (checker : Checker) (p : Pass α) (s : Stores) :
    ∃ h, p.run.Follows h (.done (carryOut checker p s).1) ∧
      (service checker fun _ _ => False).Leads h s (carryOut checker p s).2 :=
  Plan.run_leads (v := service checker fun _ _ => False) (fun _ _ => .inr rfl) (fun _ _ => rfl) p s

section Fates

variable {fate : Fate} {k : Clock} {c : Call} {s : Stores}

/-- If the time `fate.delay c` is left, the environment does what `respond` says. -/
lemma run_answer_of_inTime (checker : Checker) (hk : (k.advance (fate.delay c)).1 = true) :
    ((environment checker fate).answer c).run (k, s) =
      (some (respond checker fate c s).1, (k.advance (fate.delay c)).2,
        (respond checker fate c s).2) := by
  refine (Timed.run_bind_of_some (Timed.run_wait_of_inTime hk)).trans ?_
  cases he : fate.failure c with
  | some e =>
    rw [respond, he]
    rfl
  | none =>
    rw [respond, he]
    rfl

/-- If the time `fate.delay c` is not left, the environment stops and leaves the stores as they
are. -/
lemma run_answer_of_late (checker : Checker) (hk : (k.advance (fate.delay c)).1 = false) :
    ((environment checker fate).answer c).run (k, s) =
      (none, (k.advance (fate.delay c)).2, s) :=
  Timed.run_bind_of_none (Timed.run_wait_of_late hk)

/-- What `respond` does is allowed to the service in which a call may fail with what `fate` has for
it. -/
lemma answers_respond (checker : Checker) (fate : Fate) (c : Call) (s : Stores) :
    (service checker fun c e => fate.failure c = some e).answers c s
      (respond checker fate c s).1 (respond checker fate c s).2 := by
  cases he : fate.failure c with
  | some e =>
    rw [respond, he]
    exact .inl ⟨e, he, rfl, rfl⟩
  | none =>
    rw [respond, he]
    exact .inr rfl

/-- The environment of a `fate` obeys the service in which calls may fail as `fate` says, the worlds
of both being the same stores.

**Proof sketch.** Cases on whether the wait for a call ends in time, by `run_answer_of_inTime` and
`run_answer_of_late`. -/
lemma environment_obeys (checker : Checker) (fate : Fate) :
    (environment checker fate).Obeys (service checker fun c e => fate.failure c = some e) Eq where
  answered {c a k k' w w' s} hw hrun := by
    subst hw
    cases hk : (k.advance (fate.delay c)).1 with
    | false => cases (run_answer_of_late checker hk).symm.trans hrun
    | true =>
      cases (run_answer_of_inTime checker hk).symm.trans hrun
      exact ⟨_, rfl, answers_respond checker fate c w⟩
  stopped {c k k' w w' s} hw hrun := by
    subst hw
    cases hk : (k.advance (fate.delay c)).1 with
    | false =>
      cases (run_answer_of_late checker hk).symm.trans hrun
      rfl
    | true => cases (run_answer_of_inTime checker hk).symm.trans hrun
  observed o _ hw := ⟨_, rfl, congrArg (note o) hw⟩

end Fates

end Stores

end MailDomain
