import MailDomain.Error.Store
import MailDomain.Error.Probe
import MailDomain.Metrics.Registry
import MailDomain.Object.Domain
import MailDomain.Object.Ingress

/-!
# Plans

A pass is a plan: a tree of calls to the stores and the checker, in which what follows a call
depends on its answer. What happens at a call is up to the one who runs the plan, who may
answer from memory or from a cluster, take time, or stop between two calls.

## Main definitions

* `Call`, `Call.Answer` — the calls of a pass and the type of the answer to each.
* `Plan` — calls, observations and a result.
* `Plan.run` — a plan carried out in a monad.

## Main results

* `Plan.bind_done`, `Plan.bind_assoc` — plans follow one another.
* `Plan.run_bind` — a sequence of plans is carried out one after the other.
-/

set_option relaxedAutoImplicit false
set_option autoImplicit false

namespace MailDomain

/-- A call of a pass, to one of its two stores or to the checker of DNS records. -/
inductive Call
  | fetchDomain (key : ObjectKey)
  | check (c : Check) (d : Domain)
  | fetchIngress (key : ObjectKey)
  | createIngress (i : Ingress)
  | deleteIngress (i : Ingress)
  /-- A write of the status that the domain `d` has. -/
  | writeStatus (d : Domain)

/-- The type of the answer to a call. Every call may fail, those of stores with a `StoreError` and
checks with a `ProbeError`. -/
abbrev Call.Answer : Call → Type
  | .fetchDomain _ => Except StoreError (Option Domain)
  | .check _ _ => Except ProbeError Bool
  | .fetchIngress _ => Except StoreError (Option Ingress)
  | .createIngress _ => Except StoreError Unit
  | .deleteIngress _ => Except StoreError Unit
  | .writeStatus _ => Except StoreError Unit

/-- A plan that ends with a result of type `α`: `done a` has ended, `ask c next` makes the call `c`
and goes on with `next a` after the answer `a`, and `note o next` makes the observation `o` and goes
on with `next`. -/
inductive Plan (α : Type) : Type
  | done (a : α)
  | ask (c : Call) (next : c.Answer → Plan α)
  | note (o : Observation) (next : Plan α)

namespace Plan

variable {α β γ : Type}

/-- A plan followed by another that depends on its result. The second is put in the place of each
`done a` of the first. -/
def bind : Plan α → (α → Plan β) → Plan β
  | .done a, f => f a
  | .ask c next, f => .ask c fun a => (next a).bind f
  | .note o next, f => .note o (next.bind f)

instance : Monad Plan where
  pure := .done
  bind := bind

/-- The plan that makes the call `c` and ends with its answer. -/
def call (c : Call) : Plan c.Answer := .ask c .done

/-- The plan that makes the observation `o` and ends. -/
def observe (o : Observation) : Plan Unit := .note o (.done ())

/-- A plan carried out in a monad `m`, where `answer c` is what the call `c` does and `observed o`
what the observation `o` does. The stores in memory, the cluster and the clock are such monads. -/
def run {m : Type → Type} [Monad m] (answer : (c : Call) → m c.Answer)
    (observed : Observation → m Unit) : Plan α → m α
  | .done a => pure a
  | .ask c next => do (next (← answer c)).run answer observed
  | .note o next => do
    observed o
    next.run answer observed

@[simp] theorem bind_done (a : α) (f : α → Plan β) : (Plan.done a).bind f = f a := rfl

/-- A plan followed by `done` is the plan. -/
@[simp] theorem bind_pure (p : Plan α) : p.bind .done = p := by
  induction p with
  | done a => rfl
  | ask c next ih => simp [bind, ih]
  | note o next ih => simp [bind, ih]

/-- Three plans one after the other are the same plan, whichever two are put together first. -/
theorem bind_assoc (p : Plan α) (f : α → Plan β) (g : β → Plan γ) :
    (p.bind f).bind g = p.bind fun a => (f a).bind g := by
  induction p with
  | done a => rfl
  | ask c next ih => simp [bind, ih]
  | note o next ih => simp [bind, ih]

instance : LawfulMonad Plan :=
  LawfulMonad.mk' Plan
    (fun p => bind_pure p)
    (fun _ _ => rfl)
    (fun p f g => bind_assoc p f g)

/-- A plan `p.bind f` is carried out by carrying out `p` and then `f a` for its result `a`, in every
lawful monad. -/
theorem run_bind {m : Type → Type} [Monad m] [LawfulMonad m]
    (answer : (c : Call) → m c.Answer) (observed : Observation → m Unit) (p : Plan α)
    (f : α → Plan β) :
    (p.bind f).run answer observed =
      p.run answer observed >>= fun a => (f a).run answer observed := by
  induction p with
  | done a => simp [run]
  | ask c next ih => simp [bind, run, ih]
  | note o next ih => simp [bind, run, ih]

end Plan

end MailDomain
