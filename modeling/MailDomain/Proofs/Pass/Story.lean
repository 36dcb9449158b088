import Mathlib.Tactic.Common
import MailDomain.Pass.Reconcile

/-!
# The story of a plan

What a plan does depends on what it is answered. Its story is the list of its deeds so far, each
call with its answer. A protocol says which moves are due after which deeds, and with which result
a plan may end after which; a plan that upholds a protocol does so whoever answers it.

## Main definitions

* `Deed`, `Move` — what a plan has done, and what it is about to do.
* `Plan.Follows` — what is left of a plan after some deeds.
* `Plan.Upholds` — a plan keeps to a protocol, whatever it is answered.
* `Plan.verdict?` — the result of a plan that makes no more calls.

## Main results

* `Plan.Upholds.seq`, `Pass.upholds_bind` — plans that follow one another uphold the protocols of
  both.
* `Plan.Upholds.of_follows` — what is left of a plan keeps to its protocol.
* `Plan.Upholds.verdict?_eq_some` — a plan to which the protocol leaves no call has a verdict.
-/

set_option relaxedAutoImplicit false
set_option autoImplicit false

namespace MailDomain

/-- One entry of a story: `asked c a` is a call `c` of a plan with the answer `a` that it got, and
`noted o` an observation `o` that the plan made. A story is a list of these, the earliest first. -/
inductive Deed
  | asked (c : Call) (a : c.Answer)
  | noted (o : Observation)

/-- What a plan is about to do. Other than a `Deed`, a move does not know the answer to its call. -/
inductive Move
  | ask (c : Call)
  | note (o : Observation)

namespace Plan

variable {α β : Type}

/-- The plan `q` is what is left of `p` after the story `h`. A story that a plan can have is thus
one with `p.Follows h q` for some `q`, and a complete one leads to some `.done a`. -/
inductive Follows : Plan α → List Deed → Plan α → Prop
  | here (p : Plan α) : Follows p [] p
  | asked {c : Call} {next : c.Answer → Plan α} {h : List Deed} {q : Plan α} (a : c.Answer) :
      Follows (next a) h q → Follows (.ask c next) (.asked c a :: h) q
  | noted {o : Observation} {next : Plan α} {h : List Deed} {q : Plan α} :
      Follows next h q → Follows (.note o next) (.noted o :: h) q

/-- The plan keeps to a protocol, the story before it being given: whatever its calls are answered,
each move is one that `does` allows after the story up to it, and the result is one that `ends`
allows after the whole story. The answers are universally quantified, so this is about every
environment. -/
def Upholds (does : List Deed → Move → Prop) (ends : List Deed → α → Prop) :
    Plan α → List Deed → Prop
  | .done a, h => ends h a
  | .ask c next, h => does h (.ask c) ∧ ∀ a, (next a).Upholds does ends (h ++ [.asked c a])
  | .note o next, h => does h (.note o) ∧ next.Upholds does ends (h ++ [.noted o])

/-- The result of a plan that makes no more calls, whatever it still observes, and `none` for a plan
that does make one. -/
def verdict? : Plan α → Option α
  | .done a => some a
  | .ask _ _ => none
  | .note _ next => next.verdict?

variable {does does' : List Deed → Move → Prop} {ends : List Deed → α → Prop}
  {ends' : List Deed → β → Prop}

/-- Protocols compose. If `p` keeps to `does` and `ends`, counting its story from where it starts,
and each `f a` goes on within `does'` and `ends'` after any story at which `p` may end with `a`,
then `p.bind f` keeps to `does'` and `ends'`, provided that `does'` allows after `h` what `does`
allows. -/
lemma Upholds.seq {p : Plan α} {f : α → Plan β} {g h : List Deed}
    (hp : p.Upholds does ends g)
    (hdoes : ∀ t m, does t m → does' (h ++ t) m)
    (hf : ∀ t a, ends t a → (f a).Upholds does' ends' (h ++ t)) :
    (p.bind f).Upholds does' ends' (h ++ g) := by
  induction p generalizing g with
  | done a => exact hf g a hp
  | ask c next ih =>
    obtain ⟨hc, hnext⟩ := hp
    refine ⟨hdoes g _ hc, fun a => ?_⟩
    rw [List.append_assoc]
    exact ih a (hnext a)
  | note o next ih =>
    obtain ⟨ho, hnext⟩ := hp
    refine ⟨hdoes g _ ho, ?_⟩
    rw [List.append_assoc]
    exact ih hnext

/-- What is left of a plan after the story `t` keeps to the protocol of the plan, `t` having come
before. -/
lemma Upholds.of_follows {p q : Plan α} {h t : List Deed} (hp : p.Upholds does ends h)
    (hq : p.Follows t q) : q.Upholds does ends (h ++ t) := by
  induction hq generalizing h with
  | here p => simpa using hp
  | asked a _ ih => simpa using ih (hp.2 a)
  | noted _ ih => simpa using ih hp.2

/-- If the protocol allows no call after `h`, nor after `h` and any observations, then `p.verdict?`
is some result `a`, and `ends` allows `a` after `h` and the observations that `p` still makes. -/
lemma Upholds.verdict?_eq_some {p : Plan α} {h : List Deed} (hp : p.Upholds does ends h)
    (hno : ∀ (os : List Observation) c, ¬ does (h ++ os.map .noted) (.ask c)) :
    ∃ (a : α) (os : List Observation), p.verdict? = some a ∧ ends (h ++ os.map .noted) a := by
  induction p generalizing h with
  | done a => exact ⟨a, [], rfl, by simpa [Upholds] using hp⟩
  | ask c next _ => exact absurd hp.1 (by simpa using hno [] c)
  | note o next ih =>
    obtain ⟨a, os, ha, he⟩ := ih hp.2 fun os c => by simpa using hno (o :: os) c
    exact ⟨a, o :: os, ha, by simpa using he⟩

/-- If the protocol allows no move at all after `h`, the plan is `.done a` with a result `a` that
`ends` allows. -/
lemma Upholds.eq_done {p : Plan α} {h : List Deed} (hp : p.Upholds does ends h)
    (hno : ∀ m, ¬ does h m) : ∃ a, p = .done a ∧ ends h a := by
  cases p with
  | done a => exact ⟨a, rfl, hp⟩
  | ask c next => exact absurd hp.1 (hno _)
  | note o next => exact absurd hp.1 (hno _)

/-- A story from `p` to `q` and one from `q` to `r` make one from `p` to `r`. -/
lemma Follows.trans {p q r : Plan α} {h t : List Deed} (hq : p.Follows h q) (hr : q.Follows t r) :
    p.Follows (h ++ t) r := by
  induction hq with
  | here p => exact hr
  | asked a _ ih => exact .asked a (ih hr)
  | noted _ ih => exact .noted (ih hr)

/-- Every cut `h ++ t` of a story from `p` to `r` has a plan `q` in between. With `Follows.trans`,
the stories of a plan are closed under taking parts and putting them together. -/
lemma Follows.of_append {p r : Plan α} {h t : List Deed} (hr : p.Follows (h ++ t) r) :
    ∃ q, p.Follows h q ∧ q.Follows t r := by
  induction h generalizing p with
  | nil => exact ⟨p, .here p, hr⟩
  | cons x h ih =>
    cases hr with
    | asked a hr =>
      obtain ⟨q, hq, hrest⟩ := ih hr
      exact ⟨q, .asked a hq, hrest⟩
    | noted hr =>
      obtain ⟨q, hq, hrest⟩ := ih hr
      exact ⟨q, .noted hq, hrest⟩

/-- A call `c` in a story of `p` was allowed by `does` after the part `g` of the story before it. -/
lemma Upholds.does_of_follows {p q : Plan α} {g h t : List Deed} {c : Call} {a : c.Answer}
    (hp : p.Upholds does ends h) (hq : p.Follows (g ++ .asked c a :: t) q) :
    does (h ++ g) (.ask c) := by
  obtain ⟨r, hr, hrest⟩ := hq.of_append
  have hupholds := hp.of_follows hr
  cases hrest with
  | asked a _ => exact hupholds.1

end Plan

namespace Pass

variable {α β : Type} {does does' : List Deed → Move → Prop}
  {ends : List Deed → Except PassError α → Prop} {ends' : List Deed → Except PassError β → Prop}

/-- The form of `Upholds.seq` for passes, where a plan may fail. A failure of `p` ends `p >>= f`
with the same failure (`herror`), and only after a success `f` is begun (`hok`). -/
lemma upholds_bind {p : Pass α} {f : α → Pass β} {h : List Deed}
    (hp : p.run.Upholds does ends [])
    (hdoes : ∀ t m, does t m → does' (h ++ t) m)
    (herror : ∀ t e, ends t (.error e) → ends' (h ++ t) (.error e))
    (hok : ∀ t a, ends t (.ok a) → (f a).run.Upholds does' ends' (h ++ t)) :
    (p >>= f).run.Upholds does' ends' h := by
  have hf : ∀ t r, ends t r → (ExceptT.bindCont f r).Upholds does' ends' (h ++ t) := by
    intro t r hr
    cases r with
    | ok a => exact hok t a hr
    | error e => exact herror t e hr
  have hseq := Plan.Upholds.seq hp hdoes hf
  rwa [List.append_nil] at hseq

end Pass

end MailDomain
