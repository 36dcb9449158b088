import MailDomain.Proofs.Cluster.Mirror

/-!
# Two plans side by side

A plan is carried out at a server, and one like it over two stores in memory that keep the same
objects. What is shown of the two together is put together from their moves, as the plans are.

## Main definitions

* `Call.unversioned`, `Move.unversioned` — calls and moves apart from versions.
* `StoreError.plain`, `PassError.plain` — failures apart from the wording of conflicts.
* `Scene` — what answers the calls of a plan, and what others do between them.
* `ApiServer.Related`, `ApiServer.Alike` — two answers and two plans, one got or carried out at a
  server and one over stores in memory.

## Main results

* `ApiServer.sent_carryOut` — a plan takes back nothing that a server sent.
* `ApiServer.Alike.ask`, `Alike.observe`, `Alike.bind` — plans that are put together alike.
-/

set_option relaxedAutoImplicit false
set_option autoImplicit false

namespace MailDomain

open Cluster Json

/-! ### What a store is free in -/

/-- The call `c` with the `resourceVersion` of the object in it, if there is one, taken out. -/
def Call.unversioned : Call → Call
  | .fetchDomain key => .fetchDomain key
  | .check c d => .check c d.unversioned
  | .fetchIngress key => .fetchIngress key
  | .createIngress i => .createIngress i.unversioned
  | .deleteIngress i => .deleteIngress i.unversioned
  | .writeStatus d => .writeStatus d.unversioned

/-- The move with the `resourceVersion` of the object in it, if there is one, taken out. -/
def Move.unversioned : Move → Move
  | .ask c => .ask c.unversioned
  | .note o => .note o

/-- The failure `e` without the reason of a conflict, in which a server may put what it likes. -/
def StoreError.plain : StoreError → StoreError
  | .conflict kind key _ => .conflict kind key ""
  | e => e

/-- The failure of a pass with what its store told, if it is that, made `plain`. -/
def PassError.plain : PassError → PassError
  | .store key stage e => .store key stage e.plain
  | e => e

/-- Making a failure `plain` does not decide whether it is `isNotFound`, which is all that a pass
asks about it. -/
lemma StoreError.isNotFound_plain (e : StoreError) : e.plain.isNotFound = e.isNotFound := by
  cases e <;> rfl

/-! ### Scenes -/

/-- A world of type `σ`, with the moves that a plan has made in it so far, the oldest first. -/
structure Logged (σ : Type) where
  world : σ
  moves : List Move := []

/-- What surrounds a plan in worlds of type `σ`: `answer n` answers the call that is the plan's
`n`-th move, and `others n` is what others do before that move. -/
structure Scene (σ : Type) where
  answer : Nat → (c : Call) → σ → c.Answer × σ
  others : Nat → σ → σ

namespace Scene

variable {σ α β : Type} (x : Scene σ)

/-- The world in which the next move of the plan takes place, after `others` acted. -/
def met (s : Logged σ) : σ := x.others s.moves.length s.world

/-- Makes the call `c` in the scene `x`: others act first, then `x.answer` gives the answer, and the
call is logged. -/
def ask (c : Call) : StateM (Logged σ) c.Answer := modifyGet fun s =>
  let (a, w) := x.answer s.moves.length c (x.met s)
  (a, ⟨w, s.moves ++ [.ask c]⟩)

/-- Makes an observation in the scene `x`. It is logged as a move, and others act before it as
before a call. -/
def note (o : Observation) : StateM (Logged σ) Unit :=
  modify fun s => ⟨x.met s, s.moves ++ [.note o]⟩

/-- The plan `p` carried out in the scene `x` from `s` on, with its result and the log
afterwards. -/
def carryOut (p : Plan α) (s : Logged σ) : α × Logged σ := (p.run x.ask x.note).run s

/-- A plan that begins with a call goes on with the answer, in the world that the answer leaves. -/
lemma carryOut_ask (c : Call) (next : c.Answer → Plan α) (s : Logged σ) :
    x.carryOut (.ask c next) s =
      x.carryOut (next (x.answer s.moves.length c (x.met s)).1)
        ⟨(x.answer s.moves.length c (x.met s)).2, s.moves ++ [.ask c]⟩ := rfl

/-- A plan `p.bind f` is carried out as `p` first, and then as what `f` makes of its result, from
where `p` ended. -/
lemma carryOut_bind (p : Plan α) (f : α → Plan β) (s : Logged σ) :
    x.carryOut (p.bind f) s = x.carryOut (f (x.carryOut p s).1) (x.carryOut p s).2 :=
  congrArg (fun q : StateM (Logged σ) β => q.run s) (Plan.run_bind x.ask x.note p f)

end Scene

namespace ApiServer

/-! ### What a server sent -/

/-- Every value that the server ever sent can be read from the text in which the manner `m` printed
it. A server whose JSON is wrong breaks this, and with it all that is said here. -/
def Readable (m : Manner) (s : ApiServer) : Prop := ∀ v ∈ s.sent, IsTextOf (m.print v) v

/-- If an operation `Yields` an answer and all that the server sent is `Readable`, then the
operation has that answer, and leaves the server it should with one more value sent. -/
lemma Manner.Yields.eq {α : Type} {m : Manner} {x : α × ApiServer} {a : α} {t : ApiServer}
    (h : m.Yields x a t) (hr : Readable m x.2) : ∃ v, x = (a, t.sending v) := by
  obtain ⟨v, hx, ha⟩ := h
  refine ⟨v, Prod.ext (ha (hr v ?_)) hx⟩
  rw [hx]
  exact List.mem_cons_self ..

/-- A response adds a value to those that the server `sent`, and takes none back. -/
lemma sent_serve (m : Manner) (r : Request) (s : ApiServer) :
    s.sent ⊆ (m.serve r s).2.sent := by
  unfold Manner.serve
  dsimp only
  repeat' split
  all_goals exact List.subset_cons_self _ _

/-- An operation takes back nothing that the server `sent`, be it that it makes a request or fails
before. -/
lemma sent_perform {α : Type} (m : Manner) (o : Except StoreError (Operation α)) (s : ApiServer) :
    s.sent ⊆ ((Operation.perform m.send o).run s).2.sent := by
  cases o with
  | error e => exact List.Subset.refl _
  | ok o => exact sent_serve m o.request s

/-- An act of another client leaves what the server `sent`: its answer goes to that client. -/
lemma sent_act (m : Manner) (s : ApiServer) (a : Act) : (a.onServer m s).sent = s.sent := by
  obtain ⟨k, key, c⟩ := a
  cases c with
  | put v => rfl
  | touch =>
    simp only [Act.onServer, Change.onServer]
    split <;> rfl
  | remove => rfl

/-- Acts of other clients leave what the server `sent`, by induction on the acts. -/
lemma sent_acts (m : Manner) (s : ApiServer) (as : List Act) :
    (as.foldl (Act.onServer m) s).sent = s.sent := by
  induction as generalizing s with
  | nil => rfl
  | cons a as ih => exact (ih _).trans (sent_act m s a)

variable (m : Manner) (checker : Nat → Checker) (acts : Nat → List Act)

/-- What the call `c` of a pass does at the server, where every store operation is a request. Checks
are answered by `check`, to which the version of the domain is not shown. -/
def answer (m : Manner) (check : Checker) (c : Call) (s : ApiServer) : c.Answer × ApiServer :=
  (Cluster.answer m.send (fun c d => pure (check c d.unversioned)) c).run s

/-- What the call `c` of a pass does over two stores in memory, with checks that are answered in the
same way. -/
def answerInMemory (check : Checker) (c : Call) (t : Stores) : c.Answer × Stores :=
  Stores.answer (fun c d => check c d.unversioned) c t

/-- The scene at the server: `m` says how it behaves, `checker n` answers the checks at the `n`-th
move, and `acts n` are the acts of other clients before it. -/
def atServer : Scene ApiServer where
  answer n := answer m (checker n)
  others n s := (acts n).foldl (Act.onServer m) s

/-- The scene over two stores in memory, with the same answers to checks and the same acts of
others. -/
def inMemory : Scene Stores where
  answer n := answerInMemory (checker n)
  others n t := (acts n).foldl Act.inMemory t

/-- A call of a pass takes back nothing that the server `sent`. -/
lemma sent_answer (check : Checker) (c : Call) (s : ApiServer) :
    s.sent ⊆ (answer m check c s).2.sent := by
  cases c with
  | fetchDomain key => exact sent_perform m _ s
  | check c d => exact List.Subset.refl _
  | fetchIngress key => exact sent_perform m _ s
  | createIngress i => exact sent_perform m _ s
  | deleteIngress i => exact sent_perform m _ s
  | writeStatus d => exact sent_perform m _ s

/-- **A plan takes back nothing that the server sent**, and neither do others while it is carried
out.

**Proof sketch.** Induction on the plan, with `sent_acts` for the others and `sent_answer` for each
call. Hence what an early call made the server send is `Readable` if everything is at the end. -/
theorem sent_carryOut {α : Type} (p : Plan α) (s : Logged ApiServer) :
    s.world.sent ⊆ ((atServer m checker acts).carryOut p s).2.world.sent := by
  induction p generalizing s with
  | done a => exact List.Subset.refl _
  | ask c next ih =>
    refine List.Subset.trans ?_ (ih _ _)
    refine List.Subset.trans ?_ (sent_answer m _ c _)
    exact (sent_acts m s.world _).symm ▸ List.Subset.refl _
  | note o next ih =>
    refine List.Subset.trans ?_ (ih _)
    exact (sent_acts m s.world _).symm ▸ List.Subset.refl _

/-! ### Two plans side by side -/

/-- The relation `R` between two results and the worlds after them, of a result at the server and
one over two stores. -/
def Related {α β : Type} (R : α → β → ApiServer → Stores → Prop) (x : α × ApiServer)
    (y : β × Stores) : Prop :=
  R x.1 y.1 x.2 y.2

/-- The plans `p` and `q` are alike: `p` at the server and `q` over two stores, from worlds related
by `W` and with the same moves so far, make the same moves up to versions, and end with results and
in worlds related by `Q`, if all that the server sent in the end is `Readable`. -/
def Alike {α β : Type} (W : ApiServer → Stores → Prop) (p : Plan α) (q : Plan β)
    (Q : α → β → ApiServer → Stores → Prop) : Prop :=
  ∀ (s : Logged ApiServer) (t : Logged Stores), W s.world t.world →
    s.moves.map Move.unversioned = t.moves.map Move.unversioned →
    Readable m ((atServer m checker acts).carryOut p s).2.world →
    let x := (atServer m checker acts).carryOut p s
    let y := (inMemory checker acts).carryOut q t
    Q x.1 y.1 x.2.world y.2.world ∧
      x.2.moves.map Move.unversioned = y.2.moves.map Move.unversioned

/-- How two passes for the domain under `key` end alike: both well, with results and worlds related
by `R`, or both with failures that are the same when `plain`, in worlds that mirror each other. -/
inductive Ends {α β : Type} (key : ObjectKey) (R : α → β → ApiServer → Stores → Prop) :
    Except PassError α → Except PassError β → ApiServer → Stores → Prop
  | ok {a : α} {b : β} {s : ApiServer} {t : Stores} : R a b s t → Ends key R (.ok a) (.ok b) s t
  | error {e e' : PassError} {s : ApiServer} {t : Stores} : e.plain = e'.plain →
      Mirrors (some (StatsIngress.keyOf key)) s t → Ends key R (.error e) (.error e') s t

variable {m checker acts} {α β γ δ : Type} {key : ObjectKey} {made : Option ObjectKey}
  {fetched : Option (Domain × Domain)} {W : ApiServer → Stores → Prop}
  {Q : α → β → ApiServer → Stores → Prop}

/-- Two passes that end well with related results are `Alike`. -/
lemma Alike.pure {a : α} {b : β} (h : ∀ {s t}, W s t → Q a b s t) :
    Alike m checker acts W (pure a : Pass α).run (pure b : Pass β).run (Ends key Q) :=
  fun _ _ hW hmoves _ => ⟨.ok (h hW), hmoves⟩

/-- Two passes that fail with failures that are the same when `plain` are `Alike`. -/
lemma Alike.throw {e e' : PassError} (he : e.plain = e'.plain)
    (h : ∀ {s t}, W s t → Mirrors (some (StatsIngress.keyOf key)) s t) :
    Alike m checker acts W (throw e : Pass α).run (throw e' : Pass β).run (Ends key Q) :=
  fun _ _ hW hmoves _ => ⟨.error he (h hW), hmoves⟩

/-- Two plans that go on with one value are `Alike` if they are so for each value. -/
lemma Alike.of_eq {f : α → Plan γ} {g : α → Plan δ} {R : γ → δ → ApiServer → Stores → Prop}
    (h : ∀ a, Alike m checker acts W (f a) (g a) R) (a b : α) :
    Alike m checker acts (fun s t => a = b ∧ W s t) (f a) (g b) R := by
  rintro s t ⟨rfl, hW⟩
  exact h a s t hW

/-- Two passes that begin with the same observation are `Alike` if what follows it is. The acts of
others before it keep `Keeping`. -/
lemma Alike.observe (hacts : ∀ n, ∀ a ∈ acts n, a.Sound) {o : Observation} {f : Unit → Pass α}
    {g : Unit → Pass β} {R : Except PassError α → Except PassError β → ApiServer → Stores → Prop}
    (h : Alike m checker acts (Keeping key made fetched) (f ()).run (g ()).run R) :
    Alike m checker acts (Keeping key made fetched) (Pass.observe o >>= f).run
      (Pass.observe o >>= g).run R := by
  intro s t hW hmoves hread
  have hlength : s.moves.length = t.moves.length := by
    simpa using congrArg List.length hmoves
  refine h ⟨_, _⟩ ⟨_, _⟩ ?_ ?_ hread
  · rw [Scene.met, Scene.met, ← hlength]
    exact hW.acts m (hacts _)
  · simp [hmoves]

/-- Two passes that begin with the same call, up to versions, are `Alike` if the answers are related
by `A`, given that the worlds are `Keeping`, and what follows is alike from worlds related by
`A`. -/
lemma Alike.ask (hacts : ∀ n, ∀ a ∈ acts n, a.Sound) {c e : Call} {f : c.Answer → Pass α}
    {g : e.Answer → Pass β} {A : c.Answer → e.Answer → ApiServer → Stores → Prop}
    {R : Except PassError α → Except PassError β → ApiServer → Stores → Prop}
    (hc : c.unversioned = e.unversioned)
    (hstep : ∀ {check : Checker} {s : ApiServer} {t : Stores}, Keeping key made fetched s t →
      Readable m (answer m check c s).2 →
      Related A (answer m check c s) (answerInMemory check e t))
    (h : ∀ a b, Alike m checker acts (A a b) (f a).run (g b).run R) :
    Alike m checker acts (Keeping key made fetched) (Pass.ask c >>= f).run
      (Pass.ask e >>= g).run R := by
  intro s t hW hmoves hread
  have hlength : s.moves.length = t.moves.length := by
    simpa using congrArg List.length hmoves
  refine h _ _ ⟨_, _⟩ ⟨_, _⟩ ?_ ?_ hread
  · -- What the call made the server send can be read, since the rest of the plan keeps it.
    rw [Scene.met, Scene.met, ← hlength]
    exact hstep (hW.acts m (hacts _)) fun v hv =>
      hread v (sent_carryOut m checker acts (f _).run ⟨_, _⟩ hv)
  · simp [hmoves, Move.unversioned, hc]

/-- Two passes that are put together by `>>=` are `Alike` if their parts are. After a failure
nothing follows. -/
lemma Alike.bind {p : Pass α} {q : Pass β} {f : α → Pass γ} {g : β → Pass δ}
    {R : γ → δ → ApiServer → Stores → Prop}
    (hp : Alike m checker acts W p.run q.run (Ends key Q))
    (hf : ∀ a b, Alike m checker acts (Q a b) (f a).run (g b).run (Ends key R)) :
    Alike m checker acts W (p >>= f).run (q >>= g).run (Ends key R) := by
  intro s t hW hmoves hread
  rw [show (p >>= f).run = p.run.bind _ from rfl, Scene.carryOut_bind] at hread ⊢
  rw [show (q >>= g).run = q.run.bind _ from rfl, Scene.carryOut_bind]
  have hmid := hp s t hW hmoves fun v hv => hread v (sent_carryOut m checker acts _ _ hv)
  generalize (atServer m checker acts).carryOut p.run s = x,
    (inMemory checker acts).carryOut q.run t = y at hmid hread ⊢
  obtain ⟨hend, hsame⟩ := hmid
  obtain ⟨a, s'⟩ := x
  obtain ⟨b, t'⟩ := y
  cases hend with
  | ok hQ => exact hf _ _ _ _ hQ hsame hread
  | error he hW' => exact ⟨.error he hW', hsame⟩

end ApiServer

end MailDomain
