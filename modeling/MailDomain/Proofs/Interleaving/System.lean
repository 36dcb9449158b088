import Mathlib.Data.List.Induction
import Mathlib.Logic.Function.Basic
import MailDomain.Proofs.Pass.Service

/-!
# Plans that run beside one another

Any number of plans share a world with others, who act whenever they like. One event is one call
with its answer, one observation, or one act of the others, in any order. What a plan did is the
part of the events that are its own, and nothing else decides what is left of it.

## Main definitions

* `System.Rules` — what the shared world answers and what others may do to it.
* `System.State`, `System.Event`, `System.Step`, `System.Run` — plans side by side.
* `System.deedsOf` — the deeds of one plan.

## Main results

* `System.Run.follows` — what is left of a plan is what its own deeds leave.
* `System.Run.of_deedsOf_eq_cons` — a run parted where a plan began.
* `System.Run.preserves` — what every event keeps holds after a run, its events included.
* `System.Run.invariant`, `System.Run.once` — what every event keeps, and what one of them brings
  about, holds at the end of a run.
-/

set_option relaxedAutoImplicit false
set_option autoImplicit false

namespace MailDomain.System

/-- A world of type `σ` that is shared: as a `Service` it says how calls may be answered, and
`others` says by which acts `ε` the others may change it. -/
structure Rules (σ ε : Type) extends Service σ where
  others : ε → σ → σ → Prop

/-- The shared world, with what is left to do of each of the plans, which are told apart by `ι`. -/
structure State (σ ι α : Type) where
  shared : σ
  plans : ι → Plan α

/-- What happens next: the plan `i` does the deed `d`, or the others do the act `e`. -/
inductive Event (ι ε : Type)
  | deed (i : ι) (d : Deed)
  | other (e : ε)

variable {σ ε ι α : Type} [DecidableEq ι]

/-- One event. The plan that makes a call gets one of the answers that `v` allows, and goes on with
it; every other plan rests. The others may act whatever the plans are at. -/
inductive Step (v : Rules σ ε) : State σ ι α → Event ι ε → State σ ι α → Prop
  | asked {s t : σ} {plans : ι → Plan α} {i : ι} {c : Call} {next : c.Answer → Plan α}
      {a : c.Answer} : plans i = .ask c next → v.answers c s a t →
      Step v ⟨s, plans⟩ (.deed i (.asked c a)) ⟨t, Function.update plans i (next a)⟩
  | noted {s : σ} {plans : ι → Plan α} {i : ι} {o : Observation} {next : Plan α} :
      plans i = .note o next →
      Step v ⟨s, plans⟩ (.deed i (.noted o)) ⟨v.noted o s, Function.update plans i next⟩
  | other {s t : σ} {plans : ι → Plan α} {e : ε} : v.others e s t →
      Step v ⟨s, plans⟩ (.other e) ⟨t, plans⟩

/-- A run is any number of events, one after the other, in whichever order they can happen. -/
inductive Run (v : Rules σ ε) : State σ ι α → List (Event ι ε) → State σ ι α → Prop
  | nil (s : State σ ι α) : Run v s [] s
  | cons {s t u : State σ ι α} {e : Event ι ε} {es : List (Event ι ε)} :
      Step v s e t → Run v t es u → Run v s (e :: es) u

/-- The deeds of the plan `i` among the events `es`, in their order. They are the story of the
plan. -/
def deedsOf (i : ι) (es : List (Event ι ε)) : List Deed :=
  es.filterMap fun
    | .deed j d => if j = i then some d else none
    | .other _ => none

variable {v : Rules σ ε} {s t u : State σ ι α} {e : Event ι ε} {es es' : List (Event ι ε)} {i : ι}

/-- If the deeds of the plan `i` begin with `d`, the events can be parted at the event in which it
did `d`, and the rest of its deeds are among those after it. -/
lemma exists_of_deedsOf_eq_cons {d : Deed} {h : List Deed} (hdeeds : deedsOf i es = d :: h) :
    ∃ before after, es = before ++ .deed i d :: after ∧ deedsOf i after = h := by
  obtain ⟨before, e, after, rfl, -, he, hafter⟩ := List.filterMap_eq_cons_iff.1 hdeeds
  refine ⟨before, after, ?_, hafter⟩
  cases e with
  | deed j d' =>
    dsimp only at he
    split at he
    · next hj => rw [hj, Option.some.inj he]
    · cases he
  | other e => cases he

/-- A deed of the plan `i` in `deedsOf i es` is one of the events `es`. -/
lemma mem_of_mem_deedsOf {d : Deed} (hd : d ∈ deedsOf i es) : .deed i d ∈ es := by
  obtain ⟨e, he, hed⟩ := List.mem_filterMap.1 hd
  cases e with
  | deed j d' =>
    dsimp only at hed
    split at hed
    · next hj => rwa [← hj, ← Option.some.inj hed]
    · cases hed
  | other e => cases hed

/-- The deeds of a plan in events that follow one another are those in the first, and then those in
the second. -/
lemma deedsOf_append : deedsOf i (es ++ es') = deedsOf i es ++ deedsOf i es' :=
  List.filterMap_append

/-- A plan that does nothing in `es ++ es'` does nothing in `es`. -/
lemma deedsOf_eq_nil_of_append (h : deedsOf i (es ++ es') = []) : deedsOf i es = [] := by
  rw [deedsOf_append] at h
  exact (List.append_eq_nil_iff.1 h).1

@[simp] lemma deedsOf_nil : deedsOf i ([] : List (Event ι ε)) = [] := rfl

/-- An event of the plan `i` adds its deed to `deedsOf i`. -/
@[simp] lemma deedsOf_cons_self (d : Deed) : deedsOf i (.deed i d :: es) = d :: deedsOf i es := by
  simp [deedsOf]

/-- An event of another plan adds nothing to `deedsOf i`. -/
lemma deedsOf_cons_of_ne {j : ι} (hj : j ≠ i) (d : Deed) :
    deedsOf i (.deed j d :: es) = deedsOf i es := by
  simp [deedsOf, hj]

/-! ### Runs -/

/-- If the plan `i` had the call `c` answered with `a`, then it was about to make `c`, it goes on
with what comes after `a`, and the answer was one that `v` allows. -/
lemma Step.of_asked {c : Call} {a : c.Answer} (hstep : Step v s (.deed i (.asked c a)) t) :
    ∃ next, s.plans i = .ask c next ∧ t.plans i = next a ∧ v.answers c s.shared a t.shared := by
  cases hstep with
  | asked hi ha => exact ⟨_, hi, Function.update_self _ _ _, ha⟩

/-- After one event, what is left of the plan `i` is what its deed in that event leaves, if the
event is one of its own, and otherwise what was left before. -/
lemma Step.follows (hstep : Step v s e t) (i : ι) :
    (s.plans i).Follows (deedsOf i [e]) (t.plans i) := by
  cases hstep with
  | @asked s t plans j c next a hj _ =>
    by_cases hij : j = i
    · subst hij
      simp only [deedsOf_cons_self, Function.update_self, hj]
      exact .asked a (.here _)
    · simp only [deedsOf_cons_of_ne hij, Function.update_of_ne (Ne.symm hij)]
      exact .here _
  | @noted s plans j o next hj =>
    by_cases hij : j = i
    · subst hij
      simp only [deedsOf_cons_self, Function.update_self, hj]
      exact .noted (.here _)
    · simp only [deedsOf_cons_of_ne hij, Function.update_of_ne (Ne.symm hij)]
      exact .here _
  | other _ => exact .here _

/-- **What is left of a plan after a run is what its own deeds leave**, whatever the other plans and
the others did in between.

**Proof sketch.** Induction on the run, with `Step.follows` for each event. -/
theorem Run.follows (hrun : Run v s es t) (i : ι) :
    (s.plans i).Follows (deedsOf i es) (t.plans i) := by
  induction hrun with
  | nil s => exact .here _
  | @cons s t u e es hstep _ ih =>
    rw [← List.singleton_append, deedsOf_append]
    exact (hstep.follows i).trans ih

/-- A run can be parted between any two of its events. -/
lemma Run.of_append (hrun : Run v s (es ++ es') u) : ∃ t, Run v s es t ∧ Run v t es' u := by
  induction es generalizing s with
  | nil => exact ⟨s, .nil s, hrun⟩
  | cons e es ih =>
    cases hrun with
    | cons hstep hrest =>
      obtain ⟨t, hbefore, hafter⟩ := ih hrest
      exact ⟨t, .cons hstep hbefore, hafter⟩

/-- A run that begins where another ended continues it. -/
lemma Run.append (hrun : Run v s es t) (hrest : Run v t es' u) : Run v s (es ++ es') u := by
  induction hrun with
  | nil s => exact hrest
  | cons hstep _ ih => exact .cons hstep (ih hrest)

/-- **What every event keeps holds after a run.** If `P` holds at the start, of no events, and is
kept by each event that follows a run, then it holds after every run, of all its events.

**Proof sketch.** Induction on the events from the last one on, so that `P` may speak of all events
before. -/
theorem Run.preserves {P : List (Event ι ε) → State σ ι α → Prop} (hnil : P [] s)
    (hkeep : ∀ {es : List (Event ι ε)} {e : Event ι ε} {t u : State σ ι α},
      Run v s es t → P es t → Step v t e u → P (es ++ [e]) u) (hrun : Run v s es t) : P es t := by
  induction es using List.reverseRecOn generalizing t with
  | nil =>
    cases hrun
    exact hnil
  | append_singleton es e ih =>
    obtain ⟨w, hbefore, hlast⟩ := hrun.of_append
    cases hlast with
    | cons hstep hend =>
      cases hend
      exact hkeep hbefore (ih hbefore) hstep

/-- **A run is parted where a plan made its first call**: before it there is a run to the world in
which the call was answered, and after it there is one with the rest of the deeds of the plan. -/
theorem Run.of_deedsOf_eq_cons {c : Call} {a : c.Answer} {h : List Deed} (hrun : Run v s es u)
    (hdeeds : deedsOf i es = .asked c a :: h) :
    ∃ before after s₁ s₂, es = before ++ .deed i (.asked c a) :: after ∧ deedsOf i after = h ∧
      Run v s before s₁ ∧ v.answers c s₁.shared a s₂.shared ∧ Run v s₂ after u := by
  obtain ⟨before, after, rfl, hafter⟩ := exists_of_deedsOf_eq_cons hdeeds
  obtain ⟨s₁, hbefore, hrest⟩ := hrun.of_append
  cases hrest with
  | @cons _ s₂ _ _ _ hstep hrest =>
    obtain ⟨-, -, -, hanswer⟩ := hstep.of_asked
    exact ⟨before, after, s₁, s₂, rfl, hafter, hbefore, hanswer, hrest⟩

/-- If each event that satisfies `Q` keeps `P` of the shared world, then so does a run of such
events. -/
lemma Run.invariant {P : σ → Prop} {Q : Event ι ε → Prop}
    (hkeep : ∀ {s t : State σ ι α} {e : Event ι ε}, Step v s e t → Q e → P s.shared → P t.shared)
    (hrun : Run v s es t) (hes : ∀ e ∈ es, Q e) (hs : P s.shared) : P t.shared := by
  induction hrun with
  | nil s => exact hs
  | cons hstep _ ih =>
    rw [List.forall_mem_cons] at hes
    exact ih hes.2 (hkeep hstep hes.1 hs)

/-- If each event keeps `P`, each event that satisfies `Q` brings about `R`, and the others keep
`R`, then `R` holds after a run in which some event satisfies `Q`. -/
lemma Run.once {P R : σ → Prop} {Q : Event ι ε → Prop}
    (hkeep : ∀ {s t : State σ ι α} {e : Event ι ε}, Step v s e t → P s.shared → P t.shared)
    (hbring : ∀ {s t : State σ ι α} {e : Event ι ε},
      Step v s e t → Q e → P s.shared → R t.shared)
    (hstay : ∀ {s t : State σ ι α} {e : Event ι ε},
      Step v s e t → ¬ Q e → P s.shared → R s.shared → R t.shared)
    (hrun : Run v s es t) (hes : ∃ e ∈ es, Q e) (hs : P s.shared) : R t.shared := by
  suffices h : R s.shared ∨ (∃ e ∈ es, Q e) → R t.shared from h (.inr hes)
  clear hes
  induction hrun with
  | nil s => simp
  | @cons s t u e es hstep _ ih =>
    intro h
    refine ih (hkeep hstep hs) ?_
    by_cases he : Q e
    · exact .inl (hbring hstep he hs)
    · rcases h with hr | ⟨e', hmem, he'⟩
      · exact .inl (hstay hstep he hs hr)
      · rcases List.mem_cons.1 hmem with rfl | hmem
        · exact absurd he' he
        · exact .inr ⟨e', hmem, he'⟩

end MailDomain.System
