import MailDomain.Controller.Action
import MailDomain.Proofs.Pass.Protocol
import MailDomain.Proofs.Pass.Service

/-!
# What a world keeps during a pass

An invariant relates the story of a pass so far to the world. If every call and every observation
that the protocol of passes allows keeps it, it holds when the pass ends, together with what the
protocol says about that end. A pass that is stopped at a call leaves the weaker relation that the
call may leave behind.

A journal is a world that remembers the story. It shows what a pass was answered without having a
part in it, and what the controller counts afterwards.

## Main definitions

* `Environment.Keeps` — an environment keeps an invariant as long as a protocol is kept to.
* `Journal`, `Environment.journalled` — a world with the story so far, and an environment that
  writes it down.
* `Protocol.PassHalts` — how far a pass got and what came of it.
* `Environment.Counts` — observations always succeed and do nothing but change the world.

## Main results

* `Environment.Keeps.runPass_cases`, `Environment.Keeps.runPass_halts` — the invariant at the end
  of a pass.
* `Environment.Keeps.journalled` — a story that is written down is the one of the invariant.
* `Controller.run_attend`, `Controller.run_attend_journalled` — what the controller does after a
  pass, and the story that it leaves.
-/

set_option relaxedAutoImplicit false
set_option autoImplicit false

namespace MailDomain

open Protocol

variable {σ α : Type}

/-- The environment `env` keeps the invariant `I`, which relates the story so far to the world, at
every call that it answers and every observation, provided that `does` allows them there. A call at
which `env` stops has no answer to write down; after it only `J h c` has to hold, with the story `h`
before the call `c`. -/
structure Environment.Keeps (env : Environment σ) (does : List Deed → Move → Prop)
    (I : List Deed → σ → Prop) (J : List Deed → Call → σ → Prop) : Prop where
  answered : ∀ {h c k w a k' w'}, does h (.ask c) → I h w →
    (env.answer c).run (k, w) = (some a, k', w') → I (h ++ [.asked c a]) w'
  stopped : ∀ {h c k w k' w'}, does h (.ask c) → I h w →
    (env.answer c).run (k, w) = (none, k', w') → J h c w'
  observed : ∀ {h o} k {w}, does h (.note o) → I h w →
    ∃ w', (env.observed o).run (k, w) = (some (), k, w') ∧ I (h ++ [.noted o]) w'

namespace Environment.Keeps

variable {env : Environment σ} {does : List Deed → Move → Prop} {ends : List Deed → α → Prop}
  {I : List Deed → σ → Prop} {J : List Deed → Call → σ → Prop}

/-- A plan that keeps to its protocol ends with a result that `ends` allows and a world of which `I`
holds, or is stopped at a call, and then `J` holds.

**Proof sketch.** Induction on the plan, the protocol giving for each move that it is allowed. -/
theorem run (henv : env.Keeps does I J) {p : Plan α} {h : List Deed} (hp : p.Upholds does ends h)
    (k : Clock) {w : σ} (hw : I h w) :
    let x := (p.run env.answer env.observed).run (k, w)
    (∃ a g, x.1 = some a ∧ ends g a ∧ I g x.2.2) ∨
      (x.1 = none ∧ ∃ g c, does g (.ask c) ∧ J g c x.2.2) := by
  induction p generalizing h k w with
  | done a => exact .inl ⟨a, h, rfl, hp, hw⟩
  | ask c next ih =>
    obtain ⟨hc, hnext⟩ := hp
    rw [Plan.run]
    rcases hanswer : (env.answer c).run (k, w) with ⟨_ | a, k', w'⟩
    · rw [Timed.run_bind_of_none hanswer]
      exact .inr ⟨rfl, h, c, hc, henv.stopped hc hw hanswer⟩
    · rw [Timed.run_bind_of_some hanswer]
      exact ih a (hnext a) k' (henv.answered hc hw hanswer)
  | note o next ih =>
    obtain ⟨ho, hnext⟩ := hp
    obtain ⟨w', hobserved, hw'⟩ := henv.observed k ho hw
    rw [Plan.run, Timed.run_bind_of_some hobserved]
    exact ih hnext k hw'

/-- The form of `Environment.Keeps.run` for a pass with its deadline: it ends as `PassEnds` says
where `I` holds, or it is cancelled at a call that `PassDoes` allows, where `J` holds. -/
theorem runPass_cases {config : PassConfig} {key : ObjectKey}
    (henv : env.Keeps (PassDoes config key) I J) (k : Clock) {w : σ} (hw : I [] w) :
    let x := (runPass env config key).run (k, w)
    (∃ h, PassEnds config key h x.1 ∧ I h x.2.2) ∨
      (x.1 = .error (.cancelled key config.limit) ∧
        ∃ h c, PassDoes config key h (.ask c) ∧ J h c x.2.2) := by
  rw [Environment.Obeys.run_runPass]
  rcases henv.run (reconcile_upholds config key)
      { k with deadline := some (k.now + config.limit) } hw with
    ⟨r, h, hr, hends, hh⟩ | ⟨hnone, hstopped⟩
  · exact .inl ⟨h, by simpa only [hr, Option.getD_some] using hends, hh⟩
  · exact .inr ⟨by simp only [hnone, Option.getD_none], hstopped⟩

end Environment.Keeps

/-- How far a pass got, as a story, and what came of it: it ended by itself, as `PassEnds` says, or
it was cancelled at a call that came after the story. -/
inductive Protocol.PassHalts (config : PassConfig) (key : ObjectKey) :
    List Deed → Except PassError Outcome → Prop
  | ended {h : List Deed} {r : Except PassError Outcome} :
      PassEnds config key h r → PassHalts config key h r
  | cancelled {h : List Deed} {c : Call} : PassDoes config key h (.ask c) →
      PassHalts config key h (.error (.cancelled key config.limit))

/-- If `J` is no weaker than `I`, that is, if a call at which the pass is stopped leaves `I` as
well, then `I` holds of the world where the pass halts. -/
theorem Environment.Keeps.runPass_halts {env : Environment σ} {I : List Deed → σ → Prop}
    {config : PassConfig} {key : ObjectKey}
    (henv : env.Keeps (PassDoes config key) I fun h _ => I h) (k : Clock) {w : σ} (hw : I [] w) :
    let x := (runPass env config key).run (k, w)
    ∃ h, PassHalts config key h x.1 ∧ I h x.2.2 := by
  rcases henv.runPass_cases k hw with ⟨h, hends, hh⟩ | ⟨hr, h, c, hdoes, hh⟩
  · exact ⟨h, .ended hends, hh⟩
  · exact ⟨h, hr ▸ .cancelled hdoes, hh⟩

/-! ### Journals -/

/-- A world, with the story of the pass so far. It serves to speak about answers that are otherwise
lost once a pass has ended. -/
structure Journal (σ : Type) where
  world : σ
  story : List Deed := []

/-- The environment `env` on a `Journal`, which adds each answer and each observation to the story
and otherwise does what `env` does. Nothing is added at a call at which `env` stops. -/
def Environment.journalled (env : Environment σ) : Environment (Journal σ) where
  answer c := OptionT.mk fun x =>
    let y := (env.answer c).run (x.1, x.2.world)
    (y.1, y.2.1, ⟨y.2.2, x.2.story ++ (y.1.map (Deed.asked c)).toList⟩)
  observed o := OptionT.mk fun x =>
    let y := (env.observed o).run (x.1, x.2.world)
    (y.1, y.2.1, ⟨y.2.2, x.2.story ++ (y.1.map fun _ => Deed.noted o).toList⟩)

section Journals

variable {env : Environment σ} {c : Call} {o : Observation} {k k' : Clock} {w : Journal σ}

/-- What happens at a call in `env.journalled` is what happens in `env`, and the answer is written
down if there is one. -/
lemma run_answer_journalled (env : Environment σ) (c : Call) (k : Clock) (w : Journal σ) :
    (env.journalled.answer c).run (k, w) =
      let y := (env.answer c).run (k, w.world)
      (y.1, y.2.1, ⟨y.2.2, w.story ++ (y.1.map (Deed.asked c)).toList⟩) := rfl

/-- An observation that succeeds in `env` succeeds in `env.journalled` and is written down. -/
lemma run_observed_journalled {u : σ} (h : (env.observed o).run (k, w.world) = (some (), k', u)) :
    (env.journalled.observed o).run (k, w) = (some (), k', ⟨u, w.story ++ [.noted o]⟩) := by
  change (let y := (env.observed o).run (k, w.world)
    (y.1, y.2.1, Journal.mk y.2.2 (w.story ++ (y.1.map fun _ => Deed.noted o).toList))) = _
  rw [h]
  rfl

end Journals

/-- An invariant that `env` keeps is kept by `env.journalled`, and the story of the journal is the
one that the invariant speaks of, behind the story `g` that was there before. -/
theorem Environment.Keeps.journalled {env : Environment σ} {does : List Deed → Move → Prop}
    {I : List Deed → σ → Prop} {J : List Deed → Call → σ → Prop} (henv : env.Keeps does I J)
    (g : List Deed) :
    env.journalled.Keeps does (fun h w => w.story = g ++ h ∧ I h w.world)
      (fun h c w => w.story = g ++ h ∧ J h c w.world) where
  answered {h c k w a k' w'} hc hw hrun := by
    obtain ⟨hstory, hw⟩ := hw
    rw [run_answer_journalled] at hrun
    rcases hanswer : (env.answer c).run (k, w.world) with ⟨b, l, u⟩
    rw [hanswer] at hrun
    cases hrun
    refine ⟨?_, henv.answered hc hw hanswer⟩
    rw [hstory, List.append_assoc]
    rfl
  stopped {h c k w k' w'} hc hw hrun := by
    obtain ⟨hstory, hw⟩ := hw
    rw [run_answer_journalled] at hrun
    rcases hanswer : (env.answer c).run (k, w.world) with ⟨b, l, u⟩
    rw [hanswer] at hrun
    cases hrun
    exact ⟨hstory.symm ▸ List.append_nil _, henv.stopped hc hw hanswer⟩
  observed {h o} k {w} ho hw := by
    obtain ⟨hstory, hw⟩ := hw
    obtain ⟨u, hobserved, hu⟩ := henv.observed k ho hw
    exact ⟨_, run_observed_journalled hobserved, by rw [hstory, List.append_assoc], hu⟩

/-! ### What is counted after a pass -/

/-- Observations always succeed, take no time, and change the world by the function `note`. -/
def Environment.Counts (env : Environment σ) (note : Observation → σ → σ) : Prop :=
  ∀ o k w, (env.observed o).run (k, w) = (some (), k, note o w)

namespace Environment.Counts

variable {env : Environment σ} {note : Observation → σ → σ}

/-- Observations that are made one after the other change the world by `note` one after the
other. -/
lemma run_forM (henv : env.Counts note) (os : List Observation) (k : Clock) (w : σ) :
    (os.forM env.observed).run (k, w) = (some (), k, os.foldl (fun w o => note o w) w) := by
  induction os generalizing w with
  | nil => rfl
  | cons o os ih => exact (Timed.run_bind_of_some (henv o k w)).trans (ih (note o w))

/-- The trivial invariant is kept by every environment whose observations succeed. It serves where
only the story of a pass is of interest, as for the controller. -/
lemma keeps (henv : env.Counts note) (does : List Deed → Move → Prop) :
    env.Keeps does (fun _ _ => True) fun _ _ _ => True where
  answered _ _ _ := trivial
  stopped _ _ _ := trivial
  observed {_ o} k {w} _ _ := ⟨note o w, henv o k w, trivial⟩

/-- Observations succeed in `env.journalled` if they do in `env`, and are written down. -/
lemma journalled (henv : env.Counts note) :
    env.journalled.Counts fun o w => ⟨note o w.world, w.story ++ [.noted o]⟩ :=
  fun o k w => run_observed_journalled (henv o k w.world)

end Environment.Counts

/-- Noting the observations `os` in a journal one after the other changes the world by all of them
and adds them to the story. -/
lemma Journal.foldl_note (note : Observation → σ → σ) (os : List Observation) (w : Journal σ) :
    os.foldl (fun w o => ⟨note o w.world, w.story ++ [.noted o]⟩) w =
      ⟨os.foldl (fun s o => note o s) w.world, w.story ++ os.map .noted⟩ := by
  induction os generalizing w with
  | nil => simp
  | cons o os ih => simp [ih]

namespace Controller

variable {env : Environment σ} {note : Observation → σ → σ} {config : PassConfig} {d : Domain}

/-- The controller leaves a domain alone that has no key, and waits for a change of it. -/
lemma run_attend_of_keyless (hd : d.key? = none) (x : Clock × σ) :
    (attend env config d).run x = (.awaitChange, x) := by
  rw [attend, hd]
  rfl

/-- For a domain with a key, `Controller.attend` makes a pass, counts by `report` how that ended,
and gives the action `actionAfter`. There is no deadline any more afterwards. -/
theorem run_attend (henv : env.Counts note) {key : ObjectKey} (hd : d.key? = some key)
    (k : Clock) (w : σ) :
    (attend env config d).run (k, w) =
      let y := (runPass env config key).run (k, w)
      (actionAfter config y.1, { y.2.1 with deadline := none },
        (report (y.2.1.now - k.now) y.1).foldl (fun w o => note o w) y.2.2) := by
  rw [attend, hd]
  change (let y := (runPass env config key).run (k, w)
    let z := ((report (y.2.1.now - k.now) y.1).forM env.observed).run
      ({ y.2.1 with deadline := none }, y.2.2)
    (actionAfter config y.1, { z.2.1 with deadline := none }, z.2.2)) = _
  simp only [henv.run_forM]

/-- Attending to a domain in `env.journalled` leaves in the story what the pass did, as far as it
got (`PassHalts`), and then the observations of `report`. The invariant `I` holds of the world in
between. -/
theorem run_attend_journalled {I : List Deed → σ → Prop} {key : ObjectKey}
    (hcounts : env.Counts note) (hkeeps : env.Keeps (PassDoes config key) I fun h _ => I h)
    (hd : d.key? = some key) (k : Clock) {w : Journal σ} (hw : I [] w.world) :
    let r := ((runPass env.journalled config key).run (k, w)).1
    let x := (attend env.journalled config d).run (k, w)
    ∃ h elapsed u, PassHalts config key h r ∧ I h u ∧ x.1 = actionAfter config r ∧
      x.2.2 = ⟨(report elapsed r).foldl (fun s o => note o s) u,
        w.story ++ (h ++ (report elapsed r).map .noted)⟩ := by
  obtain ⟨h, hhalts, hstory, hh⟩ :=
    (hkeeps.journalled w.story).runPass_halts k ⟨(List.append_nil _).symm, hw⟩
  intro r x
  have hx : x = _ := run_attend hcounts.journalled hd k w
  let y := (runPass env.journalled config key).run (k, w)
  refine ⟨h, y.2.1.now - k.now, y.2.2.world, hhalts, hh, congrArg Prod.fst hx, ?_⟩
  calc x.2.2 = (report (y.2.1.now - k.now) r).foldl
          (fun w o => ⟨note o w.world, w.story ++ [.noted o]⟩) y.2.2 := congrArg (·.2.2) hx
    _ = _ := Journal.foldl_note note _ _
    _ = _ := by rw [show y.2.2.story = w.story ++ h from hstory, List.append_assoc]

end Controller

end MailDomain
