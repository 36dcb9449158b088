import MailDomain.Cluster.Site
import MailDomain.Controller.Action
import MailDomain.Controller.Queue
import MailDomain.Controller.Watch

/-!
# Trying out the controller

The controller can be tried out at a site, with checks that follow a script and with events
from outside at given times. Time passes from one thing that happens to the next. At one time,
all events from outside come first, then the passes that waited, then the passes that are due,
and only then the controller is told of the events, of all together. Each domain has one pass at
a time at most.

Events at the very start come before the controller, which is not told of them but finds what
they left. A controller that is to stop at the very start does not begin.

## Main definitions

* `Script` — how the checks of a base domain go.
* `Plan.advance` — a plan carried out up to the next call that takes time.
* `Trial.Event` — what happens from outside.
* `Trial` — the state of a controller that is tried out, with `Trial.complete` and `Trial.run`.

## Main results

* `Trial.run_zero`, `Trial.run_of_next?_eq_none` — when a trial stands still.
-/

set_option relaxedAutoImplicit false
set_option autoImplicit false

namespace MailDomain

/-- How the checks of a base domain go: what each of them answers, and the time that each takes. -/
structure Script where
  answer : Check → Except ProbeError Bool := fun _ => .ok true
  delay : Duration := .zero

/-- Where a plan that is carried out stops: at its end, for some time with the `rest` to do
afterwards, or for good at a call that it cannot make any more. -/
inductive Plan.Halt (α : Type)
  | done (a : α)
  | waiting (delay : Duration) (rest : Plan α)
  | barred

/-- Carries a plan out up to the first call that takes time by `delay`, or that is `barred`. What a
call answers is settled at its start. -/
def Plan.advance {m : Type → Type} [Monad m] {α : Type} (barred : Call → Bool)
    (delay : Call → Duration) (answer : (c : Call) → m c.Answer)
    (observed : Observation → m Unit) : Plan α → m (Plan.Halt α)
  | .done a => return .done a
  | .ask c next =>
    if barred c then return .barred
    else do
      let a ← answer c
      if delay c = .zero then (next a).advance barred delay answer observed
      else return .waiting (delay c) (next a)
  | .note o next => do
    observed o
    next.advance barred delay answer observed

namespace Trial

/-- What happens to a trial from outside. -/
inductive Happening
  /-- From now on the checks of some base domains follow other scripts. -/
  | rescript (scripts : List (String × Script))
  /-- An object is stored on the server, and the controller is told of the change if `told` says
  which one. -/
  | put (object : Json) (told : Option Change)
  /-- An object is removed from the server, and the controller is told of the change if `told` says
  which one. -/
  | remove (kind : Kind) (key : ObjectKey) (told : Option Change)
  /-- The controller is told to stop. -/
  | stop

/-- What the controller is told: that an object changed, or to stop. -/
inductive Message
  | changed (n : Notice)
  | stop

/-- A happening from outside, with the time of it. -/
structure Event where
  time : Duration
  happening : Happening

/-- A pass that waits for the answer to a call, having started at `start`. -/
structure Waiting where
  key : ObjectKey
  start : Duration
  /-- The time at which the pass goes on, if its deadline does not come first. -/
  wake : Duration
  rest : Plan (Except PassError Outcome)

end Trial

/-- A controller that is tried out at a site, with all that is to happen to it. Time passes only
from one happening to the next. -/
structure Trial where
  config : PassConfig
  now : Duration := .zero
  site : Cluster.Site := {}
  scripts : List (String × Script) := []
  /-- The domains that the controller knows. Only these have passes. -/
  known : List ObjectKey := []
  queue : Queue := {}
  /-- The passes that wait, in the order in which they began to. -/
  waiting : List Trial.Waiting := []
  /-- The events to come from outside, in order. -/
  events : List Trial.Event := []
  /-- What the controller will be told next, in order. -/
  messages : List Trial.Message := []
  /-- Whether the controller has begun to watch. Before that it is told of nothing. -/
  watching : Bool := false
  stopping : Bool := false

namespace Trial

/-- The script that the checks of the domain `d` follow now, by its base domain. -/
def scriptOf (t : Trial) (d : Domain) : Script := (t.scripts.lookup d.spec.baseDomain).getD {}

/-- The time that a call takes: that of the script for a check, and none for a request. -/
def delayOf (t : Trial) : Call → Duration
  | .check _ d => (t.scriptOf d).delay
  | _ => .zero

/-- Whether a pass that began at `start` cannot make a call any more: at its deadline it cannot wait
for a request. Checks are not barred here, since their time is counted when they are waited for. -/
def bars (t : Trial) (start : Duration) : Call → Bool
  | .check .. => false
  | _ => start + t.config.limit ≤ t.now

/-- The plan `p` of a pass that began at `start`, carried out at the site of a trial as far as it
gets now. -/
def advance (t : Trial) (start : Duration) (p : Plan (Except PassError Outcome)) :
    Plan.Halt (Except PassError Outcome) × Cluster.Site :=
  (p.advance (t.bars start) t.delayOf
    (Cluster.answer (Cluster.Site.send t.now) fun c d => return (t.scriptOf d).answer c)
    Cluster.Site.observed).run t.site

/-- The time at which the pass `w` goes on, or is given up because its deadline comes first. -/
def Waiting.stop (limit : Duration) (w : Waiting) : Duration :=
  if w.wake ≤ w.start + limit then w.wake else w.start + limit

/-- The trial after a pass ended with `result`: its end is counted, and the next pass scheduled by
`actionAfter`, or at once if the key was held back. -/
def finish (t : Trial) (key : ObjectKey) (start : Duration) (result : Except PassError Outcome) :
    Trial :=
  let metrics := t.site.metrics.recordAll (Controller.report (t.now - start) result)
  let queue := match Controller.actionAfter t.config result with
    | .requeue delay => t.queue.schedule key (t.now + delay)
    | .awaitChange => t.queue
  let (again, queue) := queue.release key
  { t with
    site := { t.site with metrics }
    queue := if again then queue.schedule key t.now else queue }

/-- The trial after a pass went on with the plan `p`: it ended, or it waits again. -/
def carryOn (t : Trial) (key : ObjectKey) (start : Duration)
    (p : Plan (Except PassError Outcome)) : Trial :=
  let (halt, site) := t.advance start p
  let t := { t with site }
  match halt with
  | .done result => t.finish key start result
  | .waiting delay rest =>
    { t with waiting := t.waiting ++ [⟨key, start, t.now + delay, rest⟩] }
  | .barred => t.finish key start (.error (.cancelled key t.config.limit))

/-- The trial after the pass `w` that waited went on, or was given up as cancelled. -/
def resume (t : Trial) (w : Waiting) : Trial :=
  let t := { t with waiting := t.waiting.filter fun x => x.key != w.key }
  if w.wake ≤ w.start + t.config.limit then t.carryOn w.key w.start w.rest
  else t.finish w.key w.start (.error (.cancelled w.key t.config.limit))

/-- The trial after the time of `key` has come: it has a pass, unless it has one already or is not
known. -/
def begin (t : Trial) (key : ObjectKey) : Trial :=
  if t.waiting.any fun w => w.key == key then { t with queue := t.queue.hold key }
  else
    let t := { t with queue := t.queue.take key }
    if t.known.contains key then t.carryOn key t.now (reconcile t.config key).run else t

/-- The trial after the controller was told of the change `n`: what it knows is brought up to date,
and the domains concerned are scheduled. -/
def notify (t : Trial) (n : Notice) : Trial :=
  { t with
    known := n.known t.known
    queue := n.subjects.foldl (fun q key => q.schedule key t.now) t.queue }

/-- The trial after the controller was told one thing. -/
def tell (t : Trial) : Message → Trial
  | .changed n => t.notify n
  | .stop => { t with stopping := true }

/-- The trial after the controller was told all that there is to tell. -/
def deliver (t : Trial) : Trial := t.messages.foldl tell { t with messages := [] }

/-- The trial in which the controller will be told of a change of `object`, if there is one to tell
of. -/
def announce (t : Trial) (kind : Kind) (object : Json) : Option Change → Trial
  | none => t
  | some change => { t with messages := t.messages ++ [.changed ⟨change, kind, object⟩] }

/-- The trial with another server at its site. -/
def withServer (t : Trial) (s : Cluster.Server) : Trial :=
  { t with site := { t.site with server := s } }

/-- The trial after something happened from outside. -/
def happen (t : Trial) : Happening → Trial
  | .rescript scripts => { t with scripts := scripts ++ t.scripts }
  | .put v told =>
    let kind := Cluster.Server.kindOf v
    let key := Cluster.Server.keyOf v
    let server := t.site.server.put kind key v
    (t.withServer server).announce kind ((server.get? kind key).getD v) told
  | .remove kind key told =>
    match t.site.server.get? kind key with
    | none => t
    | some v => (t.withServer (t.site.server.remove kind key)).announce kind v told
  | .stop => { t with messages := t.messages ++ [.stop] }

/-- What happens next: an event from outside, a pass that goes on, a pass that is due, or the
telling of what there is to tell. -/
inductive Next
  | event (e : Event) (later : List Event)
  | resumed (w : Waiting)
  | due (key : ObjectKey)
  | told

/-- The earlier of two things that can happen next, which is the first if they are at the same
time. -/
def first : Option (Duration × Next) → Option (Duration × Next) → Option (Duration × Next)
  | none, b => b
  | a, none => a
  | some a, some b => if b.1 < a.1 then some b else some a

/-- The pass that goes on or is given up first, among those that wait. -/
def nextWaiting (limit : Duration) : List Waiting → Option (Duration × Next)
  | [] => none
  | w :: ws => first (some (w.stop limit, .resumed w)) (nextWaiting limit ws)

/-- The next event from outside. One whose time has passed happens now. -/
def nextEvent (t : Trial) : Option (Duration × Next) :=
  match t.events with
  | [] => none
  | e :: es => some (if e.time ≤ t.now then t.now else e.time, .event e es)

/-- The next pass that is due. No pass begins when the controller is to stop. -/
def nextDue (t : Trial) : Option (Duration × Next) :=
  if t.stopping then none
  else t.queue.next?.map fun e => (if e.2 ≤ t.now then t.now else e.2, .due e.1)

/-- The telling of what there is to tell, which is at once if there is anything. -/
def nextTold (t : Trial) : Option (Duration × Next) :=
  if t.messages.isEmpty then none else some (t.now, .told)

/-- Whether the controller has stopped: it was told to, and no pass waits any more. -/
def stopped (t : Trial) : Bool := t.stopping && t.waiting.isEmpty

/-- What happens next, and when. Of things at the same time, an event from outside comes first, then
a pass that goes on, then one that is due, and the telling last. -/
def upcoming (t : Trial) : Option (Duration × Next) :=
  first t.nextEvent
    (first (nextWaiting t.config.limit t.waiting) (first t.nextDue t.nextTold))

/-- Whether something can happen at the very end of a trial, which no pass can. -/
def Next.isOutside : Next → Bool
  | .event .. => true
  | .resumed _ => false
  | .due _ => false
  | .told => true

/-- What happens next before the time `ending`, and when, if anything does. -/
def next? (t : Trial) (ending : Duration) : Option (Duration × Next) :=
  if t.stopped then none
  else
    match t.upcoming with
    | none => none
    | some (time, n) =>
      if time < ending || (n.isOutside && time ≤ ending) then some (time, n) else none

/-- The trial after `n` happened at the given time, to which the clock is put. -/
def step (t : Trial) (time : Duration) (n : Next) : Trial :=
  let t := { t with now := time }
  match n with
  | .event e later => ({ t with events := later }).happen e.happening
  | .resumed w => t.resume w
  | .due key => t.begin key
  | .told => t.deliver

/-- The trial after at most `n` things happened before the time `ending`. -/
def run (ending : Duration) : (n : Nat) → Trial → Trial
  | 0, t => t
  | n + 1, t =>
    match t.next? ending with
    | none => t
    | some (time, next) => run ending n (t.step time next)

@[simp] theorem run_zero (ending : Duration) (t : Trial) : run ending 0 t = t := rfl

/-- A trial in which nothing happens any more stands still. -/
theorem run_of_next?_eq_none {ending : Duration} {t : Trial} (h : t.next? ending = none)
    (n : Nat) : run ending n t = t := by
  cases n <;> simp [run, h]

/-- The objects of the kind `k` that a controller lists when it begins, in one namespace or in all
of them. -/
def listed (s : Cluster.Server) (k : Kind) (ns : Option String) : List Json :=
  ((s.objects k).entries.filter fun e => ns.all (· == e.1.ns)).map Prod.snd

/-- The trial after the events at its very start, of which the controller is not told. -/
def prepare (t : Trial) : Trial :=
  let (early, later) := t.events.partition fun e => e.time ≤ t.now
  let t := early.foldl (fun t e => t.happen e.happening) { t with events := later }
  { t with messages := [] }

/-- Whether the controller is to stop at the very start. -/
def endsEarly (t : Trial) : Bool :=
  t.events.any fun e => e.time ≤ t.now && e.happening matches .stop

/-- The trial after the controller began in the namespace `ns`, or in all of them, and is told of
the objects that it lists. -/
def begins (t : Trial) (ns : Option String) : Trial :=
  [Kind.domain, .ingress].foldl (fun t k =>
    (listed t.site.server k ns).foldl (fun t v => t.notify ⟨.added, k, v⟩) t)
    { t with watching := true }

/-- A bound on the things that can happen in a trial: at each second and at each event every domain
can have a pass, which waits for three checks at most. -/
def steps (t : Trial) (ending : Duration) : Nat :=
  let domains := t.site.server.domains.size + t.events.length + 1
  8 * domains * (ending.secs + 2 * t.events.length + 2)

/-- The trial `t` from its start in the namespace `ns` to its end. -/
def complete (t : Trial) (ns : Option String) (ending : Duration) : Trial :=
  if t.endsEarly || ending = .zero then t.prepare
  else
    let t := t.prepare.begins ns
    t.run ending (t.steps ending)

end Trial

end MailDomain
