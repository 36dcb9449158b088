import MailDomain.Proofs.Pass.Stores

/-!
# Passes among other clients, with a diary

Passes for any domains follow one another over two stores in memory. While a call of a pass takes
its time, other clients may revise domains that are stored, in everything but their key, identity
and specification. The diary of it all says what happened, and what the stores were after it.

## Main definitions

* `Revision` — what another client makes of a domain.
* `Happening`, `Diary` — what happened, and all that happened, with the stores.
* `Visit` — a pass, and what befalls it.
* `Diary.environment`, `Diary.service` — the stores among other clients, as an environment and as a
  service.
* `Diary.visits` — passes that follow one another.

## Main results

* `Diary.environment_obeys` — the environment is a way of that service.
-/

set_option relaxedAutoImplicit false
set_option autoImplicit false

namespace MailDomain

open MemoryStore

/-- What another client makes of the domain under `key`: other metadata and another status. Its key,
identity and specification are not up to a revision. -/
structure Revision where
  key : ObjectKey
  metadata : ObjectMeta
  status : Option DomainStatus

namespace Revision

/-- The domain `d` after the revision `r`. It keeps its name, namespace, identity and specification,
and has the version in which it was read. -/
def of (r : Revision) (d : Domain) : Domain where
  metadata := { r.metadata with
    name := d.metadata.name
    ns := d.metadata.ns
    uid := d.metadata.uid
    resourceVersion := d.metadata.resourceVersion }
  spec := d.spec
  status := r.status

/-- The store of domains after the revision, which is written by `updateStatus` in the version that
is stored and so never refused. Under a vacant key there is nothing to revise. -/
def perform (r : Revision) (s : DomainStore) : DomainStore :=
  match s.get r.key with
  | none => s
  | some d => (s.updateStatus (r.of d)).2

end Revision

/-- What happens to the stores: a pass does something, or another client revises a domain. -/
inductive Happening
  | deed (x : Deed)
  | revision (r : Revision)

/-- Whether the ingress under `key` begins to be there by what happens (`some true`), ends
(`some false`), or neither (`none`). Only creations and deletions that succeed count. -/
def Happening.turn? (key : ObjectKey) : Happening → Option Bool
  | .deed (.asked (.createIngress i) (.ok _)) => if i.key? = some key then some true else none
  | .deed (.asked (.deleteIngress i) (.ok _)) => if i.key? = some key then some false else none
  | _ => none

/-- Two stores, and all that happened so far, the earliest first, each with the stores after it. -/
structure Diary where
  stores : Stores
  past : List (Happening × Stores) := []

/-- A pass for the domain under `key`: the checker that answers its checks, the fate of its calls,
and what other clients do before each call has its effect. Functions of the call are enough, since
no call is made twice in a pass. -/
structure Visit where
  key : ObjectKey
  checker : Checker
  fate : Fate
  meanwhile : Call → List Revision

namespace Diary

/-- The diary after `x` happened, which left the stores `t`. -/
def record (w : Diary) (x : Happening) (t : Stores) : Diary := ⟨t, w.past ++ [(x, t)]⟩

/-- The diary after another client revised a domain. -/
def revise (w : Diary) (r : Revision) : Diary :=
  w.record (.revision r) { w.stores with domains := r.perform w.stores.domains }

/-- What the call `c` of the visit `v` does when it meets its fate, and the diary after it. -/
def respond (v : Visit) (c : Call) (w : Diary) : c.Answer × Diary :=
  let x := w.stores.respond v.checker v.fate c
  (x.1, w.record (.deed (.asked c x.1)) x.2)

/-- An observation is recorded in the registry. It is none of the happenings, since it changes no
store. -/
def note (o : Observation) (w : Diary) : Diary := { w with stores := w.stores.note o }

/-- The stores among other clients as an environment: the call `c` waits for `v.fate.delay c`, other
clients make the revisions `v.meanwhile c`, and then the call meets its fate. A call for which there
is no time does nothing, and neither do the clients at it. -/
def environment (v : Visit) : Environment Diary where
  answer c := do
    Timed.wait (v.fate.delay c)
    Timed.change fun w => (v.meanwhile c).foldl revise w
    Timed.act (respond v c)
  observed o := Timed.change (note o)

/-- The stores among other clients as a service, in which each answer is determined. -/
def service (v : Visit) : Service Diary where
  answers c w a t := (a, t) = respond v c ((v.meanwhile c).foldl revise w)
  noted := note

/-- Passes that follow one another over the same diary, each with its deadline; the results in their
order. -/
def visits (config : PassConfig) (vs : List Visit) :
    StateM (Clock × Diary) (List (Except PassError Outcome)) :=
  vs.mapM fun v => runPass (environment v) config v.key

variable {v : Visit} {k : Clock} {c : Call} {w : Diary}

/-- A call for which there is time meets its fate after the revisions that others made meanwhile. -/
lemma run_answer_of_inTime (hk : (k.advance (v.fate.delay c)).1 = true) :
    ((environment v).answer c).run (k, w) =
      let x := respond v c ((v.meanwhile c).foldl revise w)
      (some x.1, (k.advance (v.fate.delay c)).2, x.2) :=
  Timed.run_bind_of_some (Timed.run_wait_of_inTime hk)

/-- At a call for which there is no time the pass is stopped and the diary stays as it is. -/
lemma run_answer_of_late (hk : (k.advance (v.fate.delay c)).1 = false) :
    ((environment v).answer c).run (k, w) = (none, (k.advance (v.fate.delay c)).2, w) :=
  Timed.run_bind_of_none (Timed.run_wait_of_late hk)

/-- The environment of a visit answers as its service does, up to the call for which there is no
time. -/
lemma environment_obeys (v : Visit) : (environment v).Obeys (service v) Eq where
  answered {c a k k' w w' s} hw hrun := by
    subst hw
    cases hk : (k.advance (v.fate.delay c)).1 with
    | false => cases (run_answer_of_late hk).symm.trans hrun
    | true =>
      cases (run_answer_of_inTime hk).symm.trans hrun
      exact ⟨_, rfl, rfl⟩
  stopped {c k k' w w' s} hw hrun := by
    subst hw
    cases hk : (k.advance (v.fate.delay c)).1 with
    | false =>
      cases (run_answer_of_late hk).symm.trans hrun
      rfl
    | true => cases (run_answer_of_inTime hk).symm.trans hrun
  observed o _ hw := ⟨_, rfl, congrArg (note o) hw⟩

/-- No visits leave the diary and the time as they are. -/
lemma run_visits_nil (config : PassConfig) (x : Clock × Diary) :
    (visits config []).run x = ([], x) := rfl

/-- The visit `v` comes first, and the others go on from the diary and the time that it leaves. -/
lemma run_visits_cons (config : PassConfig) (v : Visit) (vs : List Visit) (x : Clock × Diary) :
    (visits config (v :: vs)).run x =
      let y := (runPass (environment v) config v.key).run x
      let z := (visits config vs).run y.2
      (y.1 :: z.1, z.2) := by
  rw [visits, List.mapM_cons]
  rfl

end Diary

end MailDomain
