import MailDomain.Pass.Reconcile

/-!
# Passes that take time

A computation with a clock can wait. When it would wait beyond its deadline it stops there,
and what it did before stays done.

## Design

* **A stopped computation keeps its world.** `Timed σ` is `OptionT (StateM (Clock × σ))` and not
  `StateT (Clock × σ) Option`: the state stands outside the option, so that the result `none` comes
  with the clock and the world at which the computation was stopped. A pass that is cut off has its
  writes behind it, and nothing takes them back.
* **The clock is part of the state.** Time passes only in `Timed.wait`, by as much as is asked for,
  so that runs are functions and the same calls always take the same time. How long a call takes is
  up to the environment that answers it.
* **A computation is stopped only at a wait.** What is done between two waits takes no time and is
  done as a whole. The one exception is `Timed.yield`, a wait for something that is there at once,
  at which a computation whose deadline has come is stopped too.
* **The boundary is in time.** A wait that ends exactly at the deadline succeeds, as
  `Clock.advance_of_le` says; only a longer one does not.

## Main definitions

* `Clock` — the time and the deadline.
* `Timed` — computations over a world with a clock, which may be stopped.
* `Timed.wait`, `Timed.yield`, `Timed.within` — waiting for some time or for no time, and a
  computation with a deadline.
* `Environment` — what carries out calls and observations.
* `runPass` — a pass with its deadline.

## Main results

* `Clock.advance_of_le`, `Clock.advance_of_lt` — a wait that ends at the deadline succeeds, and
  a longer one does not.
-/

set_option relaxedAutoImplicit false
set_option autoImplicit false

namespace MailDomain

/-- The time `now`, and the time at which a computation is stopped, if it has a deadline. -/
structure Clock where
  now : Duration := .zero
  deadline : Option Duration := none
  deriving DecidableEq, Repr

namespace Clock

/-- Waiting for `d`: whether the wait ends by the deadline, and the clock afterwards, which is at
the deadline if it does not. -/
def advance (c : Clock) (d : Duration) : Bool × Clock :=
  match c.deadline with
  | none => (true, { c with now := c.now + d })
  | some t =>
    if c.now + d ≤ t then (true, { c with now := c.now + d }) else (false, { c with now := t })

/-- A wait that ends by the deadline succeeds. One that ends at the deadline is still in time. -/
theorem advance_of_le {c : Clock} {d t : Duration} (hc : c.deadline = some t)
    (h : c.now + d ≤ t) : c.advance d = (true, { c with now := c.now + d }) := by
  simp [advance, hc, h]

/-- A wait that would end after the deadline ends at the deadline, without success. -/
theorem advance_of_lt {c : Clock} {d t : Duration} (hc : c.deadline = some t)
    (h : ¬ c.now + d ≤ t) : c.advance d = (false, { c with now := t }) := by
  simp [advance, hc, h]

end Clock

/-- Computations over a world of type `σ` with a clock. The result is `none` for a computation that
was stopped; the world and the clock are then as the computation left them. -/
abbrev Timed (σ : Type) := OptionT (StateM (Clock × σ))

namespace Timed

variable {σ α : Type}

/-- The world, without a change. -/
def world : Timed σ σ := do return (← get).2

/-- Changes the world by `f`, which takes no time. -/
def change (f : σ → σ) : Timed σ Unit := modify fun s => (s.1, f s.2)

/-- Changes the world by `f` and returns the result of `f`, which takes no time. -/
def act (f : σ → α × σ) : Timed σ α := modifyGet fun s => ((f s.2).1, (s.1, (f s.2).2))

/-- Waits for `d`, or is stopped at the deadline if the wait would last longer. -/
def wait (d : Duration) : Timed σ Unit := do
  let s ← get
  let (inTime, clock) := s.1.advance d
  set (clock, s.2)
  if inTime then return () else failure

/-- Waits for something that takes no time. At the deadline there is no time to wait even for
that. -/
def yield : Timed σ Unit := do
  let c := (← get).1
  if c.deadline.any (· ≤ c.now) then failure

/-- The computation `body` with the deadline `limit` from now on, and with none afterwards. The
result is `none` if it was stopped. -/
def within (limit : Option Duration) (body : Timed σ α) : StateM (Clock × σ) (Option α) := do
  modify fun s => ({ s.1 with deadline := limit.map (s.1.now + ·) }, s.2)
  let result ← body.run
  modify fun s => ({ s.1 with deadline := none }, s.2)
  return result

end Timed

/-- What carries out the calls and observations of a plan over a world of type `σ`: a call may take
time and may be stopped. -/
structure Environment (σ : Type) where
  answer : (c : Call) → Timed σ c.Answer
  observed : Observation → Timed σ Unit

/-- A plan that may fail, carried out in the environment `env`. -/
def Environment.carryOut {σ α : Type} (env : Environment σ) (p : Pass α) :
    Timed σ (Except PassError α) := p.run.run env.answer env.observed

/-- The pass for the domain under `key`, carried out in `env` with the deadline `config.limit` from
now on. If it is stopped there it fails as `PassError.cancelled`, and what it did before stays
done. -/
def runPass {σ : Type} (env : Environment σ) (config : PassConfig) (key : ObjectKey) :
    StateM (Clock × σ) (Except PassError Outcome) := do
  match ← Timed.within (some config.limit) (env.carryOut (reconcile config key)) with
  | some result => return result
  | none => return .error (.cancelled key config.limit)

end MailDomain
