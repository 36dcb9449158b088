import MailDomain.Proofs.Pass.Stores
import MailDomain.Proofs.Pass.Upkeep

/-!
# Ingresses that take their time to go

Where objects have finalizers, a deletion that succeeds may only mark an object with the time of its
deletion. It stays under its key until the finalizers are done, and passes come across it. The
course of the ingress under one key is the list of all that passes did and of what became of it by
others, each with what stood under the key before and after.

## Main definitions

* `MemoryStore.retire` — a deletion that removes an object or marks it.
* `Course` — two stores, and what has happened about the ingress under a key.
* `Course.Attempt`, `Course.environment` — a pass with what befalls it, among others.
* `Course.attempts` — passes for one domain, one after the other.
* `Course.Lawful` — what nothing does to an ingress that is marked.

## Main results

* `MemoryStore.retire_of_current` — what a deletion does to an object that is not marked.
* `Course.Orderly.perform`, `Course.Orderly.act` — what a call and what others do is lawful.
* `Course.vacated_between` — between two deletions the key is vacant at some time.
* `Course.attempts_spare_marked` — passes leave an ingress that is marked alone.
-/

set_option relaxedAutoImplicit false
set_option autoImplicit false

namespace MailDomain

open Protocol MemoryStore

/-! ### Deletions that wait for finalizers -/

namespace MemoryStore

variable {Spec Status : Type}

/-- The object `r`, marked with the `time` of its deletion. Its finalizers have yet to be done, and
until then it stays where it is. -/
def marked (r : Resource Spec Status) (time : Timestamp) : Resource Spec Status :=
  { r with metadata := { r.metadata with deletionTimestamp := some time } }

variable [Manifest (Resource Spec Status)] {s : MemoryStore Spec Status}
  {r : Resource Spec Status} {key : ObjectKey}

/-- Deletes the object `r` as `MemoryStore.delete` does, if `time` is `none`. With a `time`, the
stored object stays and is `marked` with it, under a new version, and an object that is marked
already is left as it is. What `delete` refuses is refused in either case. -/
def retire (time : Option Timestamp) (s : MemoryStore Spec Status) (r : Resource Spec Status) :
    Except StoreError Unit × MemoryStore Spec Status :=
  match time, r.key? with
  | some time, some key =>
    match (s.delete r).1, s.get key with
    | .ok (), some stored =>
      if stored.metadata.deletionTimestamp.isSome then (.ok (), s)
      else (.ok (), s.put key (marked stored time))
    | result, _ => (result, s)
  | _, _ => s.delete r

/-- Deleting by `retire` leaves a store `Valid`, whether it removes the object or marks it. -/
lemma Valid.retire (hs : s.Valid) (time : Option Timestamp) (r : Resource Spec Status) :
    (s.retire time r).2.Valid := by
  unfold MemoryStore.retire
  split
  · next time key _ =>
    split
    · next stored _ hstored =>
      split
      · exact hs
      · have hmakes : (Mutation.rewritten key (marked stored time)).Makes s
            (s.put key (marked stored time)) := ⟨rfl, rfl⟩
        have hkey : stored.key? = some key := hs.key_eq hstored
        exact hmakes.valid ⟨stored, hstored, .inl hkey, rfl⟩ hs
    · exact hs
  · exact hs.perform (.delete r)

/-- A `retire` succeeds for an object that is stored as given and not marked, and afterwards there
is nothing under its key, or an object that is marked. -/
lemma retire_of_current (time : Option Timestamp) (hr : r.key? = some key)
    (hs : s.get key = some r) (hmark : r.metadata.deletionTimestamp = none) :
    (s.retire time r).1 = .ok () ∧ ((s.retire time r).2.get key = none ∨
      ∃ i, (s.retire time r).2.get key = some i ∧ i.metadata.deletionTimestamp.isSome) := by
  have hdelete := delete_of_uid_eq hr hs fun _ => rfl
  cases time with
  | none =>
    have hretire : s.retire none r = s.delete r := rfl
    rw [hretire, hdelete]
    exact ⟨rfl, .inl (Table.get?_erase_self ..)⟩
  | some time =>
    have hretire : s.retire (some time) r = (.ok (), s.put key (marked r time)) := by
      simp [retire, hr, hdelete, hs, hmark]
    rw [hretire]
    exact ⟨rfl, .inr ⟨_, Table.get?_insert_self .., rfl⟩⟩

end MemoryStore

/-! ### The course of an ingress -/

/-- What happens to the ingress under a key, as a `Course` records it. -/
inductive Course.Event
  /-- A pass makes the call `c`, which has yet to arrive at the stores. -/
  | called (c : Call)
  /-- The call `c` has its effect, with the answer `a`. Whether the pass is told is another matter:
  the answer may be lost on its way, or the pass cancelled. -/
  | performed (c : Call) (a : c.Answer)
  /-- The finalizers of the ingress are done, and so it is removed by whoever was to do them. -/
  | removed

/-- An `event`, with the ingress that stood under the key `before` it and the one `after` it. -/
structure Course.Moment where
  event : Course.Event
  before : Option Ingress
  after : Option Ingress

/-- The `domains` and `ingresses` of two stores, with the moments so far in the life of the ingress
under a key, the oldest first. -/
structure Course where
  domains : DomainStore
  ingresses : IngressStore
  past : List Course.Moment := []

namespace Course

/-- What others may do between the calls of a pass: `remove` the ingress under the key if it is
marked, or write an ingress under another key, or any domain. -/
inductive Act
  | remove
  | ingress (w : Write (Option IngressSpec) IngressStatus)
  | domain (w : Write DomainSpec DomainStatus)

/-- What befalls one pass. `checker` answers its checks, and a deletion marks with `mark` or
removes. Calls take the time and meet the failures of `there` before they have their effect, and
their answers those of `back` afterwards; in these times others do what `before` and `after` say. -/
structure Attempt where
  checker : Checker
  mark : Option Timestamp
  there : Fate
  back : Fate
  before : Call → List Act
  after : Call → List Act

/-- The event `e` happens to the ingress under `key` and leaves the ingresses `t`. What stood under
`key` before and after is recorded with it. -/
def record (key : ObjectKey) (w : Course) (e : Event) (t : IngressStore) : Course :=
  { w with ingresses := t, past := w.past ++ [⟨e, w.ingresses.get key, t.get key⟩] }

/-- What another does. `Act.remove` has no effect on an ingress that is not marked, and a write of
an ingress is made only under another key than `key`, so that only passes create the ingress under
`key`. -/
def act (key : ObjectKey) (w : Course) : Act → Course
  | .remove =>
    match w.ingresses.get key with
    | some i =>
      if i.metadata.deletionTimestamp.isSome then
        w.record key .removed { w.ingresses with objects := w.ingresses.objects.erase key }
      else w
    | none => w
  | .ingress u =>
    if (u.mutation w.ingresses).key? = some key then w
    else { w with ingresses := (u.perform w.ingresses).2 }
  | .domain u => { w with domains := (u.perform w.domains).2 }

/-- A pass makes the call `c`. This changes no store, but it is recorded, so that a call can be
spoken of which never has its effect. -/
def call (key : ObjectKey) (c : Call) (w : Course) : Course := w.record key (.called c) w.ingresses

/-- What the call `c` does to the domains and the ingresses, with its answer: as over stores in
memory, except that a deletion is `retire` with the attempt's `mark`. -/
def effect (v : Attempt) :
    (c : Call) → DomainStore × IngressStore → c.Answer × DomainStore × IngressStore
  | .fetchDomain key, s => (.ok (s.1.get key), s)
  | .check c d, s => (v.checker c d, s)
  | .fetchIngress key, s => (.ok (s.2.get key), s)
  | .createIngress i, s => ((s.2.create i).1, s.1, (s.2.create i).2)
  | .deleteIngress i, s => ((s.2.retire v.mark i).1, s.1, (s.2.retire v.mark i).2)
  | .writeStatus d, s => ((s.1.updateStatus d).1, (s.1.updateStatus d).2, s.2)

/-- The call `c` has its `effect`, which is recorded with its answer. -/
def perform (key : ObjectKey) (v : Attempt) (c : Call) (w : Course) : c.Answer × Course :=
  let x := effect v c (w.domains, w.ingresses)
  (x.1, { w.record key (.performed c x.1) x.2.2 with domains := x.2.1 })

/-- Two stores that others write as well, as an environment for a pass. A call takes its time
`there`, and others act; then it is refused, or it has its effect and its answer takes its time
`back`, while others act again, and is told or lost. -/
def environment (key : ObjectKey) (v : Attempt) : Environment Course where
  answer c := do
    Timed.change (call key c)
    Timed.wait (v.there.delay c)
    Timed.change fun w => (v.before c).foldl (act key) w
    match v.there.failure c with
    | some e => return c.failed e
    | none =>
      let a ← Timed.act (perform key v c)
      Timed.wait (v.back.delay c)
      Timed.change fun w => (v.after c).foldl (act key) w
      match v.back.failure c with
      | some e => return c.failed e
      | none => return a
  observed _ := Timed.change id

/-- The passes `vs` for the domain under `key`, one after the other, each with its deadline and over
what those before it left. -/
def attempts (config : PassConfig) (key : ObjectKey) (vs : List Attempt) :
    StateM (Clock × Course) (List (Except PassError Outcome)) :=
  vs.mapM fun v => runPass (environment (StatsIngress.keyOf key) v) config key

/-- What was found under a key is an ingress with a `deletionTimestamp`. -/
def Marked (found : Option Ingress) : Prop :=
  ∃ i, found = some i ∧ i.metadata.deletionTimestamp.isSome

/-- The event is a creation or deletion of an ingress by a pass, be it the call or its effect. -/
def Event.IsWrite : Event → Prop
  | .called (.createIngress _) | .called (.deleteIngress _) => True
  | .performed (.createIngress _) _ | .performed (.deleteIngress _) _ => True
  | _ => False

/-- The moment is the effect of a deletion that succeeds, whether or not the pass is told. -/
def Moment.Deletes (e : Moment) : Prop :=
  ∃ i, e.event = .performed (.deleteIngress i) (.ok ())

/-! ### What is lawful -/

/-- The law that each moment `e` obeys: what nothing does to an ingress that is `Marked`, and what a
deletion leaves. -/
structure Lawful (e : Moment) : Prop where
  /-- Passes neither delete an ingress that is `Marked` nor create another in its place: they do not
  even make the call. -/
  spares : e.event.IsWrite → ¬ Marked e.before
  /-- An ingress that is `Marked` stays as it is or goes. Nothing replaces or unmarks it. -/
  keeps : Marked e.before → e.after = e.before ∨ e.after = none
  /-- A deletion that succeeds leaves nothing under the key, or an ingress that is `Marked`. -/
  marks : e.Deletes → e.after = none ∨ Marked e.after

/-- Each moment begins with what the one before it left, and the last left `now`. -/
def Linked (past : List Moment) (now : Option Ingress) : Prop :=
  past.IsChain (fun e e' => e'.before = e.after) ∧ ∀ e ∈ past.getLast?, e.after = now

/-- Along moments that are `Lawful` and follow from one another, an ingress that is `Marked` after
`e` is still so before `e'`, unless the key was vacant at some moment between the two. -/
lemma marked_of_chain {ys zs : List Moment} {e e' : Moment} (hlawful : ∀ x ∈ ys, Lawful x)
    (hchain : (e :: (ys ++ e' :: zs)).IsChain fun e e' => e'.before = e.after)
    (hthere : ∀ x ∈ ys, x.after ≠ none) (he : Marked e.after) : Marked e'.before := by
  induction ys generalizing e with
  | nil =>
    rw [List.nil_append, List.isChain_cons_cons] at hchain
    rwa [hchain.1]
  | cons y ys ih =>
    rw [List.cons_append, List.isChain_cons_cons] at hchain
    have hy : Marked y.before := hchain.1 ▸ he
    have hkept : y.after = y.before :=
      ((hlawful y List.mem_cons_self).keeps hy).resolve_right (hthere y List.mem_cons_self)
    exact ih (fun x hx => hlawful x (List.mem_cons_of_mem y hx)) hchain.2
      (fun x hx => hthere x (List.mem_cons_of_mem y hx)) (hkept ▸ hy)

/-- **No ingress is deleted twice**: between two moments at which a deletion succeeds, the key is
vacant at some moment.

**Proof sketch.** By `Lawful.marks` the first deletion leaves nothing, or an ingress that is
`Marked`. If the key were never vacant, that ingress would still be there and marked before the
second deletion, by `marked_of_chain`, and `Lawful.spares` forbids to delete it. -/
theorem vacated_between {past xs ys zs : List Moment} {now : Option Ingress} {e e' : Moment}
    (hlawful : ∀ x ∈ past, Lawful x) (hlinked : Linked past now)
    (hpast : past = xs ++ e :: (ys ++ e' :: zs)) (he : e.Deletes) (he' : e'.Deletes) :
    ∃ x ∈ e :: ys, x.after = none := by
  subst hpast
  by_contra hnone
  have hthere : ∀ x ∈ e :: ys, x.after ≠ none := fun x hx h => hnone ⟨x, hx, h⟩
  have hmarked : Marked e.after :=
    ((hlawful e (by simp)).marks he).resolve_left (hthere e List.mem_cons_self)
  have hbefore : Marked e'.before :=
    marked_of_chain (fun x hx => hlawful x (by simp [hx])) hlinked.1.right_of_append
      (fun x hx => hthere x (List.mem_cons_of_mem e hx)) hmarked
  obtain ⟨i, hi⟩ := he'
  exact (hlawful e' (by simp)).spares (by rw [hi]; trivial) hbefore

/-! ### Every call and every act is lawful -/

/-- The invariant of a course: the ingresses are `Valid`, all moments are `Lawful`, and they are
`Linked` up to what stands under `key` now. -/
structure Orderly (key : ObjectKey) (w : Course) : Prop where
  valid : w.ingresses.Valid
  lawful : ∀ e ∈ w.past, Lawful e
  linked : Linked w.past (w.ingresses.get key)

/-- What a pass `found` under a key is there `now`, or it was `Marked` and is gone. This is what a
look-up is still worth when others act after it. -/
def Seen (found now : Option Ingress) : Prop := now = found ∨ Marked found ∧ now = none

/-- The call fits what stands under `key`: a creation under `key` needs a vacant place, and a
deletion an ingress that is there as given and not marked. Other calls fit always. -/
def Fit (key : ObjectKey) (now : Option Ingress) : Call → Prop
  | .createIngress i => now = none ∧ i.key? = some key
  | .deleteIngress i => now = some i ∧ i.metadata.deletionTimestamp = none
  | _ => True

variable {key : ObjectKey} {w : Course} {e : Event} {t : IngressStore}

/-- An event whose moment is `Lawful` keeps a course `Orderly`, if it leaves the ingresses
`Valid`. -/
lemma Orderly.record (hw : w.Orderly key) (ht : t.Valid)
    (he : Lawful ⟨e, w.ingresses.get key, t.get key⟩) : (w.record key e t).Orderly key where
  valid := ht
  lawful x hx := by
    rcases List.mem_append.1 hx with hx | hx
    · exact hw.lawful x hx
    · exact List.mem_singleton.1 hx ▸ he
  linked := by
    obtain ⟨hchain, hlast⟩ := hw.linked
    refine ⟨List.isChain_append.2 ⟨hchain, .singleton _, ?_⟩, ?_⟩
    · intro x hx y hy
      cases hy
      exact (hlast x hx).symm
    · intro x hx
      rw [Course.record, List.getLast?_concat] at hx
      cases hx
      rfl

/-- Nothing is `Marked` where nothing stands. -/
lemma not_marked_none : ¬ Marked none := fun ⟨_, hi, _⟩ => nomatch hi

/-- An ingress without `deletionTimestamp` is not `Marked`. -/
lemma not_marked_some {i : Ingress} (hi : i.metadata.deletionTimestamp = none) :
    ¬ Marked (some i) := by
  rintro ⟨j, hj, hmark⟩
  cases hj
  simp [hi] at hmark

namespace Seen

variable {a b c : Option Ingress}

/-- What is `Seen` from one time to the next, and from there to a third, is seen from the first to
the third. -/
lemma trans (h : Seen a b) (h' : Seen b c) : Seen a c := by
  rcases h with rfl | ⟨hmarked, rfl⟩
  · exact h'
  · rcases h' with rfl | ⟨hnone, -⟩
    · exact .inr ⟨hmarked, rfl⟩
    · exact absurd hnone not_marked_none

/-- What was found and is not `Marked` is still there as it was found. -/
lemma eq_of_not_marked (h : Seen a b) (ha : ¬ Marked a) : b = a :=
  h.resolve_right fun h => ha h.1

end Seen

/-- A call that fits what was found fits what is there now, for what `Fit` speaks of is not
`Marked`. -/
lemma Fit.of_seen {c : Call} {a b : Option Ingress} (hc : Fit key a c) (h : Seen a b) :
    Fit key b c := by
  cases c with
  | createIngress i =>
    obtain ⟨rfl, hi⟩ := hc
    exact ⟨h.eq_of_not_marked not_marked_none, hi⟩
  | deleteIngress i =>
    obtain ⟨rfl, hi⟩ := hc
    exact ⟨h.eq_of_not_marked (not_marked_some hi), hi⟩
  | fetchDomain _ | check _ _ | fetchIngress _ | writeStatus _ => trivial

/-- A creation or deletion that fits what stands under the key is made, or has its effect, where
nothing is `Marked`. -/
lemma Fit.not_marked {c : Call} {a : Option Ingress} (hc : Fit key a c) {e : Event}
    (he : e = .called c ∨ ∃ b, e = .performed c b) (hwrite : e.IsWrite) : ¬ Marked a := by
  cases c with
  | createIngress i =>
    obtain ⟨rfl, -⟩ := hc
    exact not_marked_none
  | deleteIngress i =>
    obtain ⟨rfl, hi⟩ := hc
    exact not_marked_some hi
  | fetchDomain _ | check _ _ | fetchIngress _ | writeStatus _ =>
    rcases he with rfl | ⟨b, rfl⟩ <;> exact hwrite.elim

/-- **What others do keeps a course orderly**, and what stood under the key before is `Seen` after
it.

**Proof sketch.** By cases on the act. Removing a marked ingress is a `Lawful` moment, since the
ingress goes. A write of an ingress leaves what is under `key` alone, for its key is another, and a
write of a domain touches no ingress. -/
theorem Orderly.act (hw : w.Orderly key) (x : Act) :
    (w.act key x).Orderly key ∧ Seen (w.ingresses.get key) ((w.act key x).ingresses.get key) := by
  have hidle (h : w.act key x = w) : (w.act key x).Orderly key ∧
      Seen (w.ingresses.get key) ((w.act key x).ingresses.get key) := by
    rw [h]
    exact ⟨hw, .inl rfl⟩
  cases x with
  | remove =>
    cases hget : w.ingresses.get key with
    | none => exact hget ▸ hidle (by simp [Course.act, hget])
    | some i =>
      by_cases hi : i.metadata.deletionTimestamp.isSome = true
      · let t : IngressStore := { w.ingresses with objects := w.ingresses.objects.erase key }
        have hact : w.act key .remove = w.record key .removed t := by
          simp [Course.act, hget, hi, t]
        have hmakes : Mutation.Makes w.ingresses t (.removed key) := ⟨rfl, rfl⟩
        -- the ingress goes, which ends its marking lawfully
        have hmarked : Marked (some i) := ⟨i, rfl, hi⟩
        rw [hact]
        refine ⟨hw.record (hmakes.valid ⟨i, hget⟩ hw.valid) ?_, .inr ⟨hmarked, hmakes.get_removed⟩⟩
        exact ⟨False.elim, fun _ => .inr hmakes.get_removed, fun ⟨_, h⟩ => nomatch h⟩
      · exact hget ▸ hidle (by simp [Course.act, hget, hi])
  | ingress u =>
    by_cases hk : (u.mutation w.ingresses).key? = some key
    · exact hidle (by simp [Course.act, hk])
    · have hact : w.act key (.ingress u) = { w with ingresses := (u.perform w.ingresses).2 } := by
        simp [Course.act, hk]
      -- the write is not one under the key, so that the ingress there is as it was
      have hget : (u.perform w.ingresses).2.get key = w.ingresses.get key :=
        (u.makes w.ingresses).1.get_of_ne hk
      rw [hact]
      exact ⟨⟨hw.valid.perform u, hw.lawful, hget.symm ▸ hw.linked⟩, .inl hget⟩
  | domain u => exact ⟨⟨hw.valid, hw.lawful, hw.linked⟩, .inl rfl⟩

/-- The same of all that others do while a call or its answer is on its way, by induction on the
list `xs` of their acts. -/
lemma Orderly.acts (hw : w.Orderly key) (xs : List Act) :
    (xs.foldl (Course.act key) w).Orderly key ∧
      Seen (w.ingresses.get key) ((xs.foldl (Course.act key) w).ingresses.get key) := by
  induction xs generalizing w with
  | nil => exact ⟨hw, .inl rfl⟩
  | cons x xs ih =>
    obtain ⟨hx, hseen⟩ := hw.act x
    obtain ⟨hxs, hrest⟩ := ih hx
    exact ⟨hxs, hseen.trans hrest⟩

/-- Making a call that `Fit`s keeps a course `Orderly`. -/
lemma Orderly.call {c : Call} (hw : w.Orderly key) (hc : Fit key (w.ingresses.get key) c) :
    (w.call key c).Orderly key :=
  hw.record hw.valid {
    spares := hc.not_marked (.inl rfl)
    keeps := fun _ => .inl rfl
    marks := fun ⟨_, hi⟩ => nomatch hi }

/-- **A call that fits keeps a course orderly** when it has its effect.

**Proof sketch.** By cases on the call. A creation that fits finds a vacant key, and so spares what
is marked. A deletion that fits removes the ingress or marks it, by `retire_of_current`. The other
calls do nothing to the ingresses. -/
theorem Orderly.perform {c : Call} (hw : w.Orderly key) (v : Attempt)
    (hc : Fit key (w.ingresses.get key) c) : (w.perform key v c).2.Orderly key := by
  let x := effect v c (w.domains, w.ingresses)
  have hspares : (Event.performed c x.1).IsWrite → ¬ Marked (w.ingresses.get key) :=
    hc.not_marked (.inr ⟨x.1, rfl⟩)
  suffices h : (w.record key (.performed c x.1) x.2.2).Orderly key from
    ⟨h.valid, h.lawful, h.linked⟩
  cases c with
  | createIngress i =>
    exact hw.record (hw.valid.perform (.create i))
      ⟨hspares, fun h => absurd h (hspares trivial), fun ⟨_, h⟩ => nomatch h⟩
  | deleteIngress i =>
    obtain ⟨hget, hi⟩ := hc
    refine hw.record (hw.valid.retire v.mark i)
      ⟨hspares, fun h => absurd h (hspares trivial), fun _ => ?_⟩
    -- a deletion marks the ingress or takes it away, depending on its finalizers
    exact (retire_of_current v.mark (hw.valid.key_eq hget) hget hi).2
  | fetchDomain _ | check _ _ | fetchIngress _ | writeStatus _ =>
    exact hw.record hw.valid ⟨hspares, fun _ => .inl rfl, fun ⟨_, h⟩ => nomatch h⟩

/-! ### Calls among others -/

/-- The course when the call `c` arrives at the stores: it was made, and others acted while it was
on its way. -/
def arrived (key : ObjectKey) (v : Attempt) (c : Call) (w : Course) : Course :=
  (v.before c).foldl (Course.act key) (w.call key c)

/-- The answer to the call `c` when it arrives, with the course after its effect. -/
def answered (key : ObjectKey) (v : Attempt) (c : Call) (w : Course) : c.Answer × Course :=
  (arrived key v c w).perform key v c

/-- The course when the answer to the call `c` arrives: others acted while it was on its way. -/
def returned (key : ObjectKey) (v : Attempt) (c : Call) (w : Course) : Course :=
  (v.after c).foldl (Course.act key) (answered key v c w).2

/-- How a call ends for a pass, as the answer it gets, if any, and the course there is then. The
call is too `late`, or `refused` on its arrival; it has its effect, but the answer comes too late
and is `unheard`; or the answer is `lost`, or `told`. -/
inductive Met (key : ObjectKey) (v : Attempt) (c : Call) (w : Course) :
    Option c.Answer → Course → Prop
  | late : Met key v c w none (w.call key c)
  | refused (e : c.Failure) : Met key v c w (some (c.failed e)) (arrived key v c w)
  | unheard : Met key v c w none (answered key v c w).2
  | lost (e : c.Failure) : Met key v c w (some (c.failed e)) (returned key v c w)
  | told : Met key v c w (some (answered key v c w).1) (returned key v c w)

/-- A call in `environment` ends in one of the ways of `Met`, at whichever time. -/
lemma met_of_run {v : Attempt} {c : Call} {k k' : Clock} {a : Option c.Answer} {w' : Course}
    (hrun : ((environment key v).answer c).run (k, w) = (a, k', w')) : Met key v c w a w' := by
  rw [environment, Timed.run_change_bind] at hrun
  rcases Timed.run_wait_bind_cases hrun with ⟨rfl, rfl⟩ | hrun
  · exact .late
  rw [Timed.run_change_bind] at hrun
  cases hthere : v.there.failure c with
  | some e =>
    rw [hthere] at hrun
    cases hrun
    exact .refused e
  | none =>
    simp only [hthere] at hrun
    -- the call has its effect now, whatever becomes of its answer
    rw [Timed.run_act_bind] at hrun
    rcases Timed.run_wait_bind_cases hrun with ⟨rfl, rfl⟩ | hrun
    · exact .unheard
    rw [Timed.run_change_bind] at hrun
    cases hback : v.back.failure c with
    | some e =>
      rw [hback] at hrun
      cases hrun
      exact .lost e
    | none =>
      rw [hback] at hrun
      cases hrun
      exact .told

/-! ### Passes -/

/-- The invariant within a pass: the course is `Orderly`, and what the last deed of the history `h`
looked up, if it looked anything up, is `Seen`. -/
structure Known (key : ObjectKey) (h : List Deed) (w : Course) : Prop where
  orderly : w.Orderly (StatsIngress.keyOf key)
  seen : ∀ g found, h = g ++ [lookedUp key found] →
    Seen found (w.ingresses.get (StatsIngress.keyOf key))

variable {config : PassConfig} {h : List Deed}

/-- A call that `PassDoes` allows after a history that is `Known` fits: by the protocol, a pass
deletes only an ingress that it has just found and that is not marked, and creates one only where it
has just found none. -/
lemma Known.fit {key : ObjectKey} {c : Call} (hw : Known key h w)
    (hdoes : PassDoes config key h (.ask c)) :
    Fit (StatsIngress.keyOf key) (w.ingresses.get (StatsIngress.keyOf key)) c := by
  cases hdoes with
  | fetch => trivial
  | check hdoes =>
    cases hdoes <;> next hc => cases hc; trivial
  | @converge d s t _ hdoes =>
    cases hdoes with
    | lookUp => trivial
    | @delete i hi =>
      have hseen := hw.seen (checked key d s) (some i) rfl
      exact ⟨hseen.eq_of_not_marked (not_marked_some hi.present), hi.present⟩
    | create _ hbuild =>
      have hseen := hw.seen (checked key d s) none rfl
      exact ⟨hseen.eq_of_not_marked not_marked_none, StatsIngress.key?_build hbuild⟩
  | write _ _ => trivial

/-- If the answer to a call makes it the deed `lookedUp key found`, the call was the look-up of the
domain's ingress, and `found` is what stood there. -/
lemma seen_of_answered {key k : ObjectKey} {v : Attempt} {c : Call} {found : Option Ingress}
    (ha : Deed.asked c (answered k v c w).1 = lookedUp key found) :
    (answered k v c w).2.ingresses.get (StatsIngress.keyOf key) = found := by
  cases c with
  | fetchIngress k' =>
    have hanswer : (answered k v (.fetchIngress k') w).1 =
        .ok ((arrived k v (.fetchIngress k') w).ingresses.get k') := rfl
    rw [hanswer] at ha
    cases ha
    rfl
  | _ => simp [lookedUp] at ha

/-- The answer of a call that failed does not make it a look-up that found something, or nothing. -/
lemma failed_ne_lookedUp {key : ObjectKey} {c : Call} {e : c.Failure} {found : Option Ingress} :
    Deed.asked c (c.failed e) ≠ lookedUp key found := by
  cases c <;> simp [lookedUp, Call.failed]

/-- A call that `Fit`s what stands under the key keeps a course `Orderly`, in whichever of the ways
of `Met` it ends. -/
lemma Orderly.met {key : ObjectKey} {v : Attempt} {c : Call} {a : Option c.Answer} {w' : Course}
    (hw : w.Orderly key) (hc : Fit key (w.ingresses.get key) c) (hmet : Met key v c w a w') :
    w'.Orderly key := by
  have hcall : (w.call key c).Orderly key := hw.call hc
  obtain ⟨harrived, hseen⟩ := hcall.acts (v.before c)
  have hanswered : (answered key v c w).2.Orderly key := harrived.perform v (hc.of_seen hseen)
  have hreturned : (returned key v c w).Orderly key := (hanswered.acts (v.after c)).1
  cases hmet with
  | late => exact hcall
  | refused e => exact harrived
  | unheard => exact hanswered
  | lost e => exact hreturned
  | told => exact hreturned

/-- **The environment keeps a course orderly** at every call that a pass makes, whether it is
answered or the pass is cancelled at it.

**Proof sketch.** By `Known.fit` a call that a pass makes fits what stands under the key, and by
`Fit.of_seen` it goes on to fit until it has its effect, since others only remove what is marked. So
making it and its effect are lawful, by `Orderly.met`. Later on others may remove what a look-up has
found, but only if that was marked, and it stays `Seen`. -/
theorem environment_keeps (config : PassConfig) (key : ObjectKey) (v : Attempt) :
    (environment (StatsIngress.keyOf key) v).Keeps (PassDoes config key) (Known key)
      fun _ _ w => w.Orderly (StatsIngress.keyOf key) where
  answered {h c k w a k' w'} hdoes hw hrun := by
    have hmet := met_of_run hrun
    have hc := hw.fit hdoes
    refine ⟨hw.orderly.met hc hmet, fun g found hg => ?_⟩
    obtain ⟨-, hlast⟩ := List.append_inj' hg rfl
    have ha : Deed.asked c a = lookedUp key found := List.head_eq_of_cons_eq hlast
    cases hmet with
    | refused e => exact absurd ha failed_ne_lookedUp
    | lost e => exact absurd ha failed_ne_lookedUp
    | told =>
      rw [← seen_of_answered ha]
      exact ((hw.orderly.met hc .unheard).acts (v.after c)).2
  stopped {h c k w k' w'} hdoes hw hrun := hw.orderly.met (hw.fit hdoes) (met_of_run hrun)
  observed {h o} k {w} _ hw := by
    refine ⟨w, rfl, hw.orderly, fun g found hg => ?_⟩
    have hlast := congrArg List.getLast? hg
    simp [lookedUp] at hlast

/-- A pass keeps a course `Orderly`, wherever it ends or is cancelled, for the protocol
`reconcile_upholds` allows only calls at which the environment keeps it. -/
lemma Orderly.runPass {key : ObjectKey} (config : PassConfig) (v : Attempt) (k : Clock)
    (hw : w.Orderly (StatsIngress.keyOf key)) :
    ((MailDomain.runPass (environment (StatsIngress.keyOf key) v) config key).run
      (k, w)).2.2.Orderly (StatsIngress.keyOf key) := by
  have hstart : Known key [] w := ⟨hw, fun g found hg => by simp at hg⟩
  rcases (environment_keeps config key v).runPass_cases k hstart with
    ⟨h, -, hknown⟩ | ⟨-, h, c, -, horderly⟩
  · exact hknown.orderly
  · exact horderly

/-- **Passes that follow one another keep a course orderly**, by induction on the attempts and
`Orderly.runPass` for each of them. -/
theorem Orderly.attempts {key : ObjectKey} (config : PassConfig) (vs : List Attempt)
    {x : Clock × Course} (hx : x.2.Orderly (StatsIngress.keyOf key)) :
    ((Course.attempts config key vs).run x).2.2.Orderly (StatsIngress.keyOf key) := by
  induction vs generalizing x with
  | nil => exact hx
  | cons v vs ih =>
    rw [Course.attempts, List.mapM_cons]
    exact ih (hx.runPass config v x.1)

/-- **An ingress that is being deleted is left alone.** Passes for one domain follow one another
over stores that hold anything, in which a deletion removes an ingress or marks it and leaves its
removal to others at some later time. Whatever the checks are answered from one pass to the next,
whichever calls are refused or lose their answers, and wherever passes are cancelled: as long as the
ingress of the domain is `Marked`, no pass makes a call that deletes an ingress or creates one, and
no such call has its effect. Between two deletions that succeed the key of the ingress is vacant at
some time, so that each incarnation of the ingress is deleted at most once.

**Proof sketch.** Nothing has happened in the beginning, so that the course is `Orderly`, and
`Orderly.attempts` carries this over all passes. The first two parts are its fields `linked` and
`lawful`, and the third follows from them by `vacated_between`. -/
theorem attempts_spare_marked (config : PassConfig) (key : ObjectKey) (vs : List Attempt)
    (k : Clock) (domains : DomainStore) (ws : List (Write (Option IngressSpec) IngressStatus)) :
    let x := (attempts config key vs).run (k, ⟨domains, after ws, []⟩)
    let past := x.2.2.past
    Linked past (x.2.2.ingresses.get (StatsIngress.keyOf key)) ∧
      (∀ e ∈ past, e.event.IsWrite → ¬ Marked e.before) ∧
      ∀ xs e ys e' zs, past = xs ++ e :: (ys ++ e' :: zs) → e.Deletes → e'.Deletes →
        ∃ x ∈ e :: ys, x.after = none := by
  intro x past
  have hstart : Orderly (StatsIngress.keyOf key) ⟨domains, after ws, []⟩ := {
    valid := valid_after ws
    lawful := by simp
    linked := ⟨.nil, by simp⟩ }
  have hend := hstart.attempts config vs (x := (k, ⟨domains, after ws, []⟩))
  exact ⟨hend.linked, fun e he => (hend.lawful e he).spares,
    fun xs e ys e' zs hpast => vacated_between hend.lawful hend.linked hpast⟩

/-- The stats check passes only at the second of three passes, and the finalizers of the ingress
take their time: it is marked once, and no pass creates another one. -/
example :
    let key : ObjectKey := ⟨"mail", "acme"⟩
    let d : Domain := {
      metadata := { name := some "acme", ns := some "mail" }
      spec := { baseDomain := "acme.example", dkim := ⟨"s1", "key"⟩ } }
    let i : Ingress := {
      metadata := { name := some "acme-stats", ns := some "mail" }
      spec := none }
    let v (stats : Bool) : Attempt := {
      checker := fun c _ => .ok (c ≠ .stats || stats)
      mark := some ⟨0⟩
      there := ⟨fun _ => .zero, fun _ => none⟩
      back := ⟨fun _ => .zero, fun _ => none⟩
      before := fun _ => []
      after := fun _ => [] }
    let x := (attempts {} key [v false, v true, v false]).run
      ({}, ⟨after [.insert d], after [.insert i], []⟩)
    (x.2.2.ingresses.writes.creates, x.2.2.ingresses.version, x.1.map Except.isOk) =
      (0, 2, [true, true, true]) := by
  decide +kernel

end Course

end MailDomain
