import MailDomain.Proofs.Pass.Story
import MailDomain.Pass.Deadline

/-!
# Stories in a world

A service says what a world may answer to a call, and what becomes of the world by it. A story
leads from one state of the world to another if each of its answers is one that the service may
give at that point. Carrying out a plan, with or without a clock, makes a story of it.

## Main definitions

* `Service` — what a world answers and what becomes of it.
* `Service.Leads` — a story leads from one state of the world to another.
* `Service.Functional` — a service that leaves no choice.
* `Environment.Obeys` — an environment answers as a service may, or stops before an answer.

## Main results

* `Service.leads_append` — stories follow one another.
* `Service.Functional.follows_of_follows` — a plan that is left no choice has one story.
* `Plan.run_leads` — a plan that is carried out to its end makes a story.
* `Environment.Obeys.run_leads`, `Environment.Obeys.runPass_leads` — so does one that may be
  stopped, and a pass with its deadline, up to the call at which it is.
-/

set_option relaxedAutoImplicit false
set_option autoImplicit false

namespace MailDomain

/-- A world of type `σ` as a relation: `answers c s a t` says that the call `c` may be answered with
`a` in the world `s`, which becomes `t` then. A relation leaves room for failures and for what
others do. An observation `o` makes `noted o s` of the world `s`. -/
structure Service (σ : Type) where
  answers : (c : Call) → σ → c.Answer → σ → Prop
  noted : Observation → σ → σ := fun _ s => s

namespace Service

variable {σ : Type} (v : Service σ)

/-- The story `h` leads from the world `s` to the world `t`: each answer of `h` is one that the
service may give in the world that was reached. -/
def Leads : List Deed → σ → σ → Prop
  | [], s, t => t = s
  | .asked c a :: h, s, t => ∃ u, v.answers c s a u ∧ Leads h u t
  | .noted o :: h, s, t => Leads h (v.noted o s) t

variable {v}

/-- An empty story leads from a world to itself only. -/
lemma leads_nil {s t : σ} : v.Leads [] s t ↔ t = s := Iff.rfl

/-- A story that begins with the call `c`, answered with `a`, leads from `s` through a world `u` in
which `a` leaves `s`. -/
lemma leads_asked {c : Call} {a : c.Answer} {h : List Deed} {s t : σ} :
    v.Leads (.asked c a :: h) s t ↔ ∃ u, v.answers c s a u ∧ v.Leads h u t := Iff.rfl

/-- A story that begins with the observation `o` leads on from `v.noted o s`. -/
lemma leads_noted {o : Observation} {h : List Deed} {s t : σ} :
    v.Leads (.noted o :: h) s t ↔ v.Leads h (v.noted o s) t := Iff.rfl

/-- A story `h ++ h'` leads from `s` to `t` exactly if there is a world `u` in between, to which `h`
leads and from which `h'` does. Proofs about a pass use this to cut its story at the stages. -/
theorem leads_append {h h' : List Deed} {s t : σ} :
    v.Leads (h ++ h') s t ↔ ∃ u, v.Leads h s u ∧ v.Leads h' u t := by
  induction h generalizing s with
  | nil => simp [leads_nil]
  | cons d h ih =>
    cases d with
    | asked c a =>
      simp only [List.cons_append, leads_asked, ih]
      constructor
      · rintro ⟨w, hw, u, hu, ht⟩
        exact ⟨u, ⟨w, hw, hu⟩, ht⟩
      · rintro ⟨u, ⟨w, hw, hu⟩, ht⟩
        exact ⟨w, hw, u, hu, ht⟩
    | noted o => simp only [List.cons_append, leads_noted, ih]

/-- A service that leaves no choice: to a call `c` in a world `s` there is one answer, and one world
that the answer leaves. -/
def Functional (v : Service σ) : Prop :=
  ∀ c s a a' t t', v.answers c s a t → v.answers c s a' t' → a = a' ∧ t = t'

/-- If the service is `Functional`, any story `h` of a plan that leads somewhere is a beginning of
the one complete story `g` of the plan from the same world, and the rest of `g` is a story of what
is left of the plan. -/
theorem Functional.follows_of_follows {α : Type} {p q : Plan α} {g h : List Deed} {r : α}
    {s t u : σ} (hv : v.Functional) (hend : p.Follows g (.done r)) (hg : v.Leads g s u)
    (hpart : p.Follows h q) (hh : v.Leads h s t) :
    ∃ rest, g = h ++ rest ∧ q.Follows rest (.done r) ∧ v.Leads rest t u := by
  induction hpart generalizing g s with
  | here p =>
    cases leads_nil.1 hh
    exact ⟨g, rfl, hend, hg⟩
  | @asked c next h q a _ ih =>
    obtain ⟨w, ha, hh⟩ := hh
    cases hend with
    | asked b hend =>
      obtain ⟨w', hb, hg⟩ := hg
      -- both stories have the same answer here, for there is no other
      obtain ⟨rfl, rfl⟩ := hv _ _ _ _ _ _ hb ha
      obtain ⟨rest, rfl, hrest⟩ := ih hend hg hh
      exact ⟨rest, rfl, hrest⟩
  | noted _ ih =>
    cases hend with
    | noted hend =>
      obtain ⟨rest, rfl, hrest⟩ := ih hend (leads_noted.1 hg) (leads_noted.1 hh)
      exact ⟨rest, rfl, hrest⟩

end Service

/-- A plan that is carried out in `StateM σ` has a complete story, which leads to the state at the
end, if each answer and each observation is one of the service `v`. So what holds of all stories of
a plan holds of every run of it.

**Proof sketch.** Induction on the plan: a call adds its answer to the story, and an observation
adds itself. -/
theorem Plan.run_leads {σ α : Type} {v : Service σ} {answer : (c : Call) → StateM σ c.Answer}
    {observed : Observation → StateM σ Unit}
    (hanswer : ∀ c s, v.answers c s ((answer c).run s).1 ((answer c).run s).2)
    (hobserved : ∀ o s, ((observed o).run s).2 = v.noted o s) (p : Plan α) (s : σ) :
    ∃ h, p.Follows h (.done ((p.run answer observed).run s).1) ∧
      v.Leads h s ((p.run answer observed).run s).2 := by
  induction p generalizing s with
  | done a => exact ⟨[], .here _, rfl⟩
  | ask c next ih =>
    obtain ⟨h, hfollows, hleads⟩ := ih ((answer c).run s).1 ((answer c).run s).2
    exact ⟨.asked c _ :: h, .asked _ hfollows, _, hanswer c s, hleads⟩
  | note o next ih =>
    obtain ⟨h, hfollows, hleads⟩ := ih ((observed o).run s).2
    refine ⟨.noted o :: h, .noted hfollows, ?_⟩
    rw [Service.leads_noted, ← hobserved]
    exact hleads

namespace Timed

variable {σ α β : Type} {x : Timed σ α} {f : α → Timed σ β} {w t : Clock × σ}

/-- In `Timed`, a computation `x` that ends with `a` goes on with `f a` from the world at its
end. -/
lemma run_bind_of_some {a : α} (h : x.run w = (some a, t)) : (x >>= f).run w = (f a).run t := by
  rw [OptionT.run_bind, Option.elimM]
  change (let (a?, t) := x.run w; (a?.elim (pure none) fun a => (f a).run : StateM _ _) t) = _
  rw [h]
  rfl

/-- In `Timed`, nothing of `f` is done if `x` is stopped, which is the result `none`. -/
lemma run_bind_of_none (h : x.run w = (none, t)) : (x >>= f).run w = (none, t) := by
  rw [OptionT.run_bind, Option.elimM]
  change (let (a?, t) := x.run w; (a?.elim (pure none) fun a => (f a).run : StateM _ _) t) = _
  rw [h]
  rfl

/-- A wait that `Clock.advance` finds to end before the deadline changes the clock and nothing
else. -/
lemma run_wait_of_inTime {k : Clock} {d : Duration} {s : σ} (h : (k.advance d).1 = true) :
    (Timed.wait d).run (k, s) = (some (), (k.advance d).2, s) := by
  change (if (k.advance d).1 then return () else failure : Timed σ Unit).run
    ((k.advance d).2, s) = _
  rw [h]
  rfl

/-- A wait that does not end before the deadline stops the computation and leaves the world `s` as
it is. -/
lemma run_wait_of_late {k : Clock} {d : Duration} {s : σ} (h : (k.advance d).1 = false) :
    (Timed.wait d).run (k, s) = (none, (k.advance d).2, s) := by
  change (if (k.advance d).1 then return () else failure : Timed σ Unit).run
    ((k.advance d).2, s) = _
  rw [h]
  rfl

/-- For a computation that begins with a wait there are two cases: it is stopped by the wait, and
the world is as before, or the rest `f ()` makes the whole result, from the clock after the wait. -/
lemma run_wait_bind_cases {d : Duration} {f : Unit → Timed σ β} {k k' : Clock} {s s' : σ}
    {b : Option β} (h : (Timed.wait d >>= f).run (k, s) = (b, k', s')) :
    b = none ∧ s' = s ∨ (f ()).run ((k.advance d).2, s) = (b, k', s') := by
  cases hk : (k.advance d).1 with
  | false =>
    rw [run_bind_of_none (run_wait_of_late hk)] at h
    cases h
    exact .inl ⟨rfl, rfl⟩
  | true => exact .inr ((run_bind_of_some (run_wait_of_inTime hk)).symm.trans h)

/-- What follows `Timed.change g` finds the world `g w`, at the same time. -/
lemma run_change_bind (g : σ → σ) (x : Unit → Timed σ β) (k : Clock) (w : σ) :
    (Timed.change g >>= x).run (k, w) = (x ()).run (k, g w) := rfl

/-- What follows `Timed.world` gets the world `w` and finds it unchanged. -/
lemma run_world_bind (x : σ → Timed σ β) (k : Clock) (w : σ) :
    (Timed.world >>= x).run (k, w) = (x w).run (k, w) := rfl

/-- What follows `Timed.act g` gets the result of `g w` and finds the world that `g` leaves. -/
lemma run_act_bind (g : σ → α × σ) (x : α → Timed σ β) (k : Clock) (w : σ) :
    (Timed.act g >>= x).run (k, w) = (x (g w).1).run (k, (g w).2) := rfl

end Timed

/-- The environment `env` shows the service `v` nothing but what `v` may do. The relation `R w s`
says that the world `w` of the environment is seen as the world `s` of the service. A call that
`env` answers is answered as `v` may answer it; one at which `env` stops leaves the world of the
service as it is (`stopped`); and an observation does what it does for `v` (`observed`). -/
structure Environment.Obeys {σ τ : Type} (env : Environment τ) (v : Service σ) (R : τ → σ → Prop) :
    Prop where
  answered : ∀ {c a k k' w w' s}, R w s → (env.answer c).run (k, w) = (some a, k', w') →
    ∃ t, R w' t ∧ v.answers c s a t
  stopped : ∀ {c k k' w w' s}, R w s → (env.answer c).run (k, w) = (none, k', w') → R w' s
  observed : ∀ {w s} o k, R w s →
    ∃ w', (env.observed o).run (k, w) = (some (), k, w') ∧ R w' (v.noted o s)

namespace Environment.Obeys

variable {σ τ α : Type} {env : Environment τ} {v : Service σ} {R : τ → σ → Prop}

/-- A plan that is carried out in an environment with a clock makes a story `h` that leads the
service from `s` to some `t` which the world at the end is seen as. If the plan ends, `h` is a
complete story, and if it is stopped, what is left of it begins with the call at which that was.

**Proof sketch.** Induction on the plan. A call that is answered adds its answer to the story of
what comes after it; one at which the plan is stopped leaves the world as it is. -/
theorem run_leads (henv : env.Obeys v R) (p : Plan α) (k : Clock) {w : τ} {s : σ} (hw : R w s) :
    let x := (p.run env.answer env.observed).run (k, w)
    ∃ h q t, p.Follows h q ∧ v.Leads h s t ∧ R x.2.2 t ∧
      ((∃ a, x.1 = some a ∧ q = .done a) ∨ (x.1 = none ∧ ∃ c next, q = .ask c next)) := by
  induction p generalizing k w s with
  | done a => exact ⟨[], _, s, .here _, rfl, hw, .inl ⟨a, rfl, rfl⟩⟩
  | ask c next ih =>
    rw [Plan.run]
    rcases hc : (env.answer c).run (k, w) with ⟨_ | a, k', w'⟩
    · rw [Timed.run_bind_of_none hc]
      exact ⟨[], _, s, .here _, rfl, henv.stopped hw hc, .inr ⟨rfl, c, next, rfl⟩⟩
    · rw [Timed.run_bind_of_some hc]
      obtain ⟨u, hu, hanswer⟩ := henv.answered hw hc
      obtain ⟨h, q, t, hfollows, hleads, ht, hq⟩ := ih a k' hu
      exact ⟨.asked c a :: h, q, t, .asked a hfollows, ⟨u, hanswer, hleads⟩, ht, hq⟩
  | note o next ih =>
    obtain ⟨w', hobserved, hw'⟩ := henv.observed o k hw
    obtain ⟨h, q, t, hfollows, hleads, ht, hq⟩ := ih k hw'
    rw [Plan.run, Timed.run_bind_of_some hobserved]
    exact ⟨.noted o :: h, q, t, .noted hfollows, hleads, ht, hq⟩

/-- The function `runPass` carries out `reconcile config key` with the deadline
`k.now + config.limit`, and makes `PassError.cancelled` of a stop. -/
lemma run_runPass (env : Environment τ) (config : PassConfig) (key : ObjectKey) (k : Clock)
    (w : τ) :
    (runPass env config key).run (k, w) =
      let x := ((reconcile config key).run.run env.answer env.observed).run
        ({ k with deadline := some (k.now + config.limit) }, w)
      (x.1.getD (.error (.cancelled key config.limit)),
        { x.2.1 with deadline := none }, x.2.2) := by
  have hwithin :
      (Timed.within (some config.limit) (env.carryOut (reconcile config key))).run (k, w) =
      let x := ((reconcile config key).run.run env.answer env.observed).run
        ({ k with deadline := some (k.now + config.limit) }, w)
      (x.1, { x.2.1 with deadline := none }, x.2.2) := rfl
  rw [runPass, StateT.run_bind, hwithin]
  rcases ((reconcile config key).run.run env.answer env.observed).run
    ({ k with deadline := some (k.now + config.limit) }, w) with ⟨_ | r, k', w'⟩
  · rfl
  · rfl

/-- The form of `run_leads` for `runPass`: a pass with its deadline makes a story of
`reconcile config key` that leads to where it ends, and either the story is complete and decides the
result, or a call was left and the result is `PassError.cancelled`. -/
theorem runPass_leads (henv : env.Obeys v R) (config : PassConfig) (key : ObjectKey) (k : Clock)
    {w : τ} {s : σ} (hw : R w s) :
    let x := (runPass env config key).run (k, w)
    ∃ h q t, (reconcile config key).run.Follows h q ∧ v.Leads h s t ∧ R x.2.2 t ∧
      ((∃ r, q = .done r ∧ x.1 = r) ∨
        ∃ c next, q = .ask c next ∧ x.1 = .error (.cancelled key config.limit)) := by
  obtain ⟨h, q, t, hfollows, hleads, ht, hq⟩ := henv.run_leads (reconcile config key).run
    { k with deadline := some (k.now + config.limit) } hw
  rw [run_runPass]
  refine ⟨h, q, t, hfollows, hleads, ht, ?_⟩
  rcases hq with ⟨r, hr, rfl⟩ | ⟨hnone, c, next, rfl⟩
  · exact .inl ⟨r, rfl, by simp only [hr, Option.getD_some]⟩
  · exact .inr ⟨c, next, rfl, by simp only [hnone, Option.getD_none]⟩

end Environment.Obeys

end MailDomain
