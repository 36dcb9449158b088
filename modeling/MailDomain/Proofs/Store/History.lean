import Mathlib
import MailDomain.Object.Domain
import MailDomain.Proofs.Store.Invariant

/-!
# Histories of a store

Clients read and write objects of a store, in whatever order their requests come. A status write is
based on a read if it names the version that was read. It succeeds exactly if nothing has happened
under its key since, whatever happened under others: an object that was deleted and created anew, or
only bumped, is not taken for the one that was read.

## Main definitions

* `MemoryStore.Request`, `MemoryStore.Reply` — what clients ask for and what they are told.
* `MemoryStore.Exchange` — a request, made to a store in some state, with its `reply` and the store
  `after` it.
* `MemoryStore.history` — the exchanges of a store with its clients.
* `MemoryStore.Exchange.Touches` — a request took effect under a key.
* `MemoryStore.Outdated` — a version was given and does not stand under a key.

## Main results

* `MemoryStore.Exchange.touches_iff` — a request took effect under a key exactly if something else
  stands there afterwards.
* `MemoryStore.Outdated.of_exchange` — what is outdated stays outdated.
* `MemoryStore.no_lost_update` — a status write succeeds exactly if nothing has happened to its
  object since it was read.
-/

set_option relaxedAutoImplicit false
set_option autoImplicit false

namespace MailDomain.MemoryStore

variable {Spec Status : Type}

/-! ### Requests and replies -/

/-- What a client asks for: the object under a key, or a write. -/
inductive Request (Spec Status : Type)
  | get (key : ObjectKey)
  | write (w : Write Spec Status)

/-- What a client is told: what was found, or the result of its write. -/
inductive Reply (Spec Status : Type)
  | found (r : Option (Resource Spec Status))
  | written (result : Except StoreError Unit)

/-- A request that is made to a store, in the state `before` it. -/
structure Exchange (Spec Status : Type) where
  before : MemoryStore Spec Status
  request : Request Spec Status

/-- The version `v` was given by the store `s`, and the object under `key`, if there is one, has
another. A status write that names `v` is refused from then on. -/
structure Outdated (s : MemoryStore Spec Status) (key : ObjectKey) (v : Option String) : Prop where
  issued : s.Issued v
  version_ne : ∀ {r}, s.get key = some r → r.metadata.resourceVersion ≠ v

variable [Manifest (Resource Spec Status)] {s : MemoryStore Spec Status} {key : ObjectKey}

namespace Exchange

/-- What the client is told about its request. -/
def reply (e : Exchange Spec Status) : Reply Spec Status :=
  match e.request with
  | .get key => .found (e.before.get key)
  | .write w => .written (w.perform e.before).1

/-- The store after the request. A read leaves it as it is. -/
def after (e : Exchange Spec Status) : MemoryStore Spec Status :=
  match e.request with
  | .get _ => e.before
  | .write w => (w.perform e.before).2

/-- What the request did to the objects of the store. -/
def mutation (e : Exchange Spec Status) : Mutation Spec Status :=
  match e.request with
  | .get _ => .nothing
  | .write w => w.mutation e.before

/-- The request took effect under `key`: it put, replaced or removed the object there. -/
def Touches (e : Exchange Spec Status) (key : ObjectKey) : Prop := e.mutation.key? = some key

/-- The request was a read of `key` that found the object `o`. -/
def Reads (e : Exchange Spec Status) (key : ObjectKey) (o : Resource Spec Status) : Prop :=
  e.request = .get key ∧ e.reply = .found (some o)

/-- The request was to write the status of the object `u`. -/
def Updates (e : Exchange Spec Status) (u : Resource Spec Status) : Prop :=
  e.request = .write (.updateStatus u)

/-- The request was to write a status under `key` that is based on a read of `o`: its object has the
version of `o`. -/
def UpdatesSince (e : Exchange Spec Status) (key : ObjectKey) (o : Resource Spec Status) : Prop :=
  ∃ u, e.Updates u ∧ u.key? = some key ∧
    u.metadata.resourceVersion = o.metadata.resourceVersion

/-- The client is told that its write was done. -/
def Succeeds (e : Exchange Spec Status) : Prop := e.reply = .written (.ok ())

/-- The client is told that its object has changed or is not there, and the store is as it was. -/
def Refused (e : Exchange Spec Status) : Prop :=
  (∃ err, e.reply = .written (.error err) ∧ (err.isConflict ∨ err.isNotFound)) ∧
    e.after = e.before

variable {e : Exchange Spec Status} {o u : Resource Spec Status}

/-- A request does what its mutation says, and that fits the store before it. -/
theorem makes (e : Exchange Spec Status) :
    e.mutation.Makes e.before e.after ∧ e.mutation.Fits e.before := by
  rcases e with ⟨s, key | w⟩
  · exact ⟨rfl, trivial⟩
  · exact w.makes s

/-- A request leaves a valid store valid. -/
lemma valid_after (he : e.before.Valid) : e.after.Valid := e.makes.1.valid e.makes.2 he

/-- A request that takes no effect under `key` leaves what stands there. -/
lemma get_of_not_touches (he : ¬ e.Touches key) : e.after.get key = e.before.get key :=
  e.makes.1.get_of_ne he

/-- A request that takes effect under `key` outdates there every version that was given before
it. -/
lemma outdated_of_touches {v : Option String} (he : e.Touches key) (hv : e.before.Issued v) :
    e.after.Outdated key v where
  issued := hv.mono e.makes.1.version_le
  version_ne hr := e.makes.1.version_ne he hv hr

/-- A request took effect under `key` exactly if something else stands there afterwards. So
`Exchange.Touches`, which is about what was done, is a fact about the two stores. -/
theorem touches_iff (he : e.before.Valid) :
    e.Touches key ↔ e.after.get key ≠ e.before.get key := by
  refine ⟨fun htouch => ?_, fun hne => by_contra fun hnot => hne (get_of_not_touches hnot)⟩
  intro hsame
  cases hold : e.before.get key with
  | some r =>
    have hnew : e.after.get key = some r := hsame.trans hold
    exact (outdated_of_touches htouch (he.issued hold)).version_ne hnew rfl
  | none =>
    have hnone : e.after.get key = none := hsame.trans hold
    -- Only a removal leaves nothing under its key, and it finds something there.
    cases hc : e.mutation with
    | nothing => simp [Touches, hc, Mutation.key?] at htouch
    | added k r =>
      obtain rfl : k = key := by simpa [Touches, hc, Mutation.key?] using htouch
      rw [(hc ▸ e.makes.1 : (Mutation.added k r).Makes _ _).get_added] at hnone
      cases hnone
    | rewritten k r =>
      obtain rfl : k = key := by simpa [Touches, hc, Mutation.key?] using htouch
      rw [(hc ▸ e.makes.1 : (Mutation.rewritten k r).Makes _ _).get_rewritten] at hnone
      cases hnone
    | removed k =>
      obtain rfl : k = key := by simpa [Touches, hc, Mutation.key?] using htouch
      obtain ⟨old, hthere⟩ : Mutation.Fits e.before (.removed k) := hc ▸ e.makes.2
      rw [hold] at hthere
      cases hthere

/-! ### One status write -/

/-- The reply to a status write is the answer of `updateStatus`. -/
lemma reply_of_updates (he : e.Updates u) : e.reply = .written (e.before.updateStatus u).1 := by
  rw [reply, he]
  rfl

/-- The store after a status write is the one that `updateStatus` leaves. -/
lemma after_of_updates (he : e.Updates u) : e.after = (e.before.updateStatus u).2 := by
  rw [after, he]
  rfl

/-- A status write of `u` succeeds exactly if under its key there is an object in the version of
`u`. -/
theorem succeeds_iff (he : e.Updates u) (hu : u.key? = some key) :
    e.Succeeds ↔ ∃ stored, e.before.get key = some stored ∧
      stored.metadata.resourceVersion = u.metadata.resourceVersion := by
  rw [Succeeds, reply_of_updates he]
  cases hs : e.before.get key with
  | none => simp [updateStatus_of_vacant hu hs]
  | some stored =>
    by_cases hv : stored.metadata.resourceVersion = u.metadata.resourceVersion
    · simp [updateStatus_of_current hu hs hv, hv]
    · simp [updateStatus_of_stale hu hs hv, hv]

/-- A status write that does not succeed is refused, which leaves the store as it was. -/
lemma refused_of_not_succeeds (he : e.Updates u) (hu : u.key? = some key) (hfail : ¬ e.Succeeds) :
    e.Refused := by
  rw [succeeds_iff he hu] at hfail
  rw [Refused, reply_of_updates he, after_of_updates he]
  cases hs : e.before.get key with
  | none => simp [updateStatus_of_vacant hu hs, StoreError.isNotFound]
  | some stored =>
    have hv : stored.metadata.resourceVersion ≠ u.metadata.resourceVersion :=
      fun hv => hfail ⟨stored, hs, hv⟩
    simp [updateStatus_of_stale hu hs hv, StoreError.isConflict]

/-- A status write that succeeds takes effect under the key of its object. -/
lemma touches_of_succeeds (he : e.Updates u) (hu : u.key? = some key) (hok : e.Succeeds) :
    e.Touches key := by
  rw [Succeeds, reply_of_updates he] at hok
  have hok : e.before.updateStatus u = (.ok (), (e.before.updateStatus u).2) :=
    Prod.ext (Reply.written.inj hok) rfl
  rw [Touches, mutation, he]
  exact (Write.key?_mutation_updateStatus hok).trans hu

/-- A status write of an object without a version does not succeed in a valid store, in which every
object has one. -/
lemma not_succeeds_of_versionless (hs : e.before.Valid) (he : e.Updates u)
    (hv : u.metadata.resourceVersion = none) : ¬ e.Succeeds := by
  intro hok
  rw [Succeeds, reply_of_updates he] at hok
  obtain ⟨key, old, -, hold, hversion, -⟩ :=
    updateStatus_ok (Prod.ext (Reply.written.inj hok) rfl :
      e.before.updateStatus u = (.ok (), (e.before.updateStatus u).2))
  obtain ⟨n, -, hn⟩ := hs.issued hold
  rw [hversion, hv] at hn
  cases hn

end Exchange

/-- A version that is outdated under `key` stays so, whatever is asked for: a later object gets a
greater version. -/
theorem Outdated.of_exchange {e : Exchange Spec Status} {v : Option String}
    (h : e.before.Outdated key v) : e.after.Outdated key v := by
  by_cases he : e.Touches key
  · exact Exchange.outdated_of_touches he h.issued
  · refine ⟨h.issued.mono e.makes.1.version_le, fun {r} hr => h.version_ne ?_⟩
    rwa [Exchange.get_of_not_touches he] at hr

/-! ### Histories -/

/-- The exchanges of the store `s` with its clients, in the order in which the requests come. -/
def history (s : MemoryStore Spec Status) :
    List (Request Spec Status) → List (Exchange Spec Status)
  | [] => []
  | q :: qs => ⟨s, q⟩ :: history (Exchange.after ⟨s, q⟩) qs

variable {qs : List (Request Spec Status)} {read e : Exchange Spec Status}
  {earlier between later : List (Exchange Spec Status)}

/-- The rest `ys` of a history is a history of the store in the state in which the rest begins. -/
lemma history_eq_append {xs ys : List (Exchange Spec Status)} (h : history s qs = xs ++ ys) :
    ∃ t qs', ys = history t qs' := by
  induction xs generalizing s qs with
  | nil => exact ⟨s, qs, h.symm⟩
  | cons x xs ih =>
    cases qs with
    | nil => cases h
    | cons q qs => exact ih (List.cons.inj h).2

/-- After its first exchange a history is one of the store that this leaves. -/
lemma history_eq_cons {xs : List (Exchange Spec Status)} (h : history s qs = e :: xs) :
    e.before = s ∧ ∃ qs', xs = history e.after qs' := by
  cases qs with
  | nil => cases h
  | cons q qs =>
    obtain ⟨rfl, hxs⟩ := List.cons.inj h
    exact ⟨rfl, qs, hxs.symm⟩

/-- A store that begins valid is valid at each exchange of its history. -/
lemma valid_of_mem_history (hs : s.Valid) (he : e ∈ history s qs) : e.before.Valid := by
  induction qs generalizing s with
  | nil => cases he
  | cons q qs ih =>
    rcases List.mem_cons.1 he with rfl | he
    · exact hs
    · exact ih (Exchange.valid_after hs) he

/-- What stands under `key` is still there at a later exchange if no request in `between` takes
effect there. -/
lemma get_of_untouched (h : history s qs = between ++ e :: later)
    (hnot : ∀ x ∈ between, ¬ x.Touches key) : e.before.get key = s.get key := by
  induction between generalizing s qs with
  | nil => rw [(history_eq_cons h).1]
  | cons x between ih =>
    obtain ⟨rfl, qs', hrest⟩ := history_eq_cons h
    rw [ih hrest.symm fun y hy => hnot y (List.mem_cons_of_mem x hy),
      Exchange.get_of_not_touches (hnot x List.mem_cons_self)]

/-- A version that is outdated is so at every later exchange. -/
lemma Outdated.of_history {v : Option String} (h : history s qs = between ++ e :: later)
    (hs : s.Outdated key v) : e.before.Outdated key v := by
  induction between generalizing s qs with
  | nil => rwa [(history_eq_cons h).1]
  | cons x between ih =>
    obtain ⟨rfl, qs', hrest⟩ := history_eq_cons h
    exact ih hrest.symm hs.of_exchange

/-- A version that was given is outdated under `key` at a later exchange if a request in `between`
takes effect there. -/
lemma outdated_of_touched {v : Option String} (h : history s qs = between ++ e :: later)
    (hv : s.Issued v) (htouch : ∃ x ∈ between, x.Touches key) : e.before.Outdated key v := by
  induction between generalizing s qs with
  | nil => simp at htouch
  | cons x between ih =>
    obtain ⟨rfl, qs', hrest⟩ := history_eq_cons h
    by_cases hx : x.Touches key
    · exact (Exchange.outdated_of_touches hx hv).of_history hrest.symm
    · refine ih hrest.symm (hv.mono x.makes.1.version_le) ?_
      simpa [hx] using htouch

section Since

variable {o : Resource Spec Status}

/-- What a read finds stands under its key before and after it. -/
lemma Exchange.Reads.spec (hr : read.Reads key o) :
    read.before.get key = some o ∧ read.after = read.before := by
  obtain ⟨hrequest, hreply⟩ := hr
  rw [Exchange.reply, hrequest] at hreply
  rw [Exchange.after, hrequest]
  exact ⟨Reply.found.inj hreply, rfl⟩

/-- For an object `o` that was read there are two cases at a later exchange `e`: no request in
`between` took effect under its key, and `o` still stands there, or one did, and the version of `o`
is outdated. -/
lemma untouched_or_outdated (h : history {} qs = earlier ++ read :: (between ++ e :: later))
    (hr : read.Reads key o) :
    (∀ x ∈ between, ¬ x.Touches key) ∧ e.before.get key = some o ∨
      (∃ x ∈ between, x.Touches key) ∧
        e.before.Outdated key o.metadata.resourceVersion := by
  have hvalid : read.before.Valid := valid_of_mem_history valid_empty (by rw [h]; simp)
  obtain ⟨hget, hafter⟩ := hr.spec
  obtain ⟨t, qs', hsince⟩ := history_eq_append h
  obtain ⟨-, qs', hrest⟩ := history_eq_cons hsince.symm
  rw [hafter] at hrest
  by_cases htouch : ∃ x ∈ between, x.Touches key
  · exact .inr ⟨htouch, outdated_of_touched hrest.symm (hvalid.issued hget) htouch⟩
  · have hnot : ∀ x ∈ between, ¬ x.Touches key := fun x hx ht => htouch ⟨x, hx, ht⟩
    exact .inl ⟨hnot, (get_of_untouched hrest.symm hnot).trans hget⟩

/-- A status write that is based on a read succeeds exactly if no request in `between` took effect
under its key. -/
theorem succeeds_iff_untouched
    (h : history {} qs = earlier ++ read :: (between ++ e :: later)) (hr : read.Reads key o)
    (he : e.UpdatesSince key o) : e.Succeeds ↔ ∀ x ∈ between, ¬ x.Touches key := by
  obtain ⟨u, hu, hkey, hversion⟩ := he
  rw [Exchange.succeeds_iff hu hkey, hversion]
  rcases untouched_or_outdated h hr with ⟨hnot, hget⟩ | ⟨⟨x, hx, ht⟩, hout⟩
  · exact ⟨fun _ => hnot, fun _ => ⟨o, hget, rfl⟩⟩
  · refine ⟨?_, fun hnot => absurd ht (hnot x hx)⟩
    rintro ⟨stored, hstored, hsame⟩
    exact absurd hsame (hout.version_ne hstored)

/-- A status write that is based on a read of `o` succeeds exactly if `o` is what is stored. -/
theorem succeeds_iff_stored
    (h : history {} qs = earlier ++ read :: (between ++ e :: later)) (hr : read.Reads key o)
    (he : e.UpdatesSince key o) : e.Succeeds ↔ e.before.get key = some o := by
  obtain ⟨u, hu, hkey, hversion⟩ := he
  rw [Exchange.succeeds_iff hu hkey, hversion]
  rcases untouched_or_outdated h hr with ⟨-, hget⟩ | ⟨-, hout⟩
  · exact ⟨fun _ => hget, fun _ => ⟨o, hget, rfl⟩⟩
  · refine ⟨?_, fun hget => ⟨o, hget, rfl⟩⟩
    rintro ⟨stored, hstored, hsame⟩
    exact absurd hsame (hout.version_ne hstored)

end Since

/-- **No update is lost.** Whatever any clients ask of a store that begins empty, and in whatever
order, a status write that is based on a read succeeds exactly if no request has taken effect under
its key since, which is exactly if what was read is what is stored. A status write that does not
succeed is refused as a conflict or for want of the object, and leaves the store. So no two status
writes succeed that are based on the same read, and none does that names no version.

**Proof sketch.** A request that takes effect under a key leaves nothing there of a version given
before (`outdated_of_touches`), and none brings such a version back (`Outdated.of_exchange`);
without one the object stays (`get_of_untouched`). So at the write either what was read still stands
under the key, or its version does not, and a status write looks at that alone. Of two writes based
on one read the first, if it succeeds, takes effect between the read and the second. -/
theorem no_lost_update (qs : List (Request Spec Status)) :
    (∀ (earlier between later : List (Exchange Spec Status)) (read write : Exchange Spec Status)
        (key : ObjectKey) (o : Resource Spec Status),
      history {} qs = earlier ++ read :: (between ++ write :: later) →
      read.Reads key o → write.UpdatesSince key o →
        (write.Succeeds ↔ ∀ x ∈ between, ¬ x.Touches key) ∧
        (write.Succeeds ↔ write.before.get key = some o) ∧
        (¬ write.Succeeds → write.Refused)) ∧
    (∀ (earlier between among later : List (Exchange Spec Status))
        (read first second : Exchange Spec Status) (key : ObjectKey) (o : Resource Spec Status),
      history {} qs =
        earlier ++ read :: (between ++ first :: (among ++ second :: later)) →
      read.Reads key o → first.UpdatesSince key o → second.UpdatesSince key o →
        ¬ (first.Succeeds ∧ second.Succeeds)) ∧
    (∀ write ∈ history {} qs, ∀ u, write.Updates u → u.metadata.resourceVersion = none →
      ¬ write.Succeeds) := by
  refine ⟨?_, ?_, ?_⟩
  · intro earlier between later read write key o h hread hwrite
    refine ⟨succeeds_iff_untouched h hread hwrite, succeeds_iff_stored h hread hwrite, ?_⟩
    obtain ⟨u, hu, hkey, -⟩ := hwrite
    exact Exchange.refused_of_not_succeeds hu hkey
  · rintro earlier between among later read first second key o h hread hfirst hsecond ⟨hok, hok'⟩
    have hsplit : history {} qs =
        earlier ++ read :: ((between ++ first :: among) ++ second :: later) := by
      rw [h, List.append_assoc, List.cons_append]
    have hnot := (succeeds_iff_untouched hsplit hread hsecond).1 hok' first (by simp)
    obtain ⟨u, hu, hkey, -⟩ := hfirst
    exact hnot (Exchange.touches_of_succeeds hu hkey hok)
  · intro write hmem u hu hnone
    exact Exchange.not_succeeds_of_versionless (valid_of_mem_history valid_empty hmem) hu hnone

/-- Two clients have read a domain, and another domain has been created since. The first of them
writes a status, and the second, whose object has the version from before that write, is refused. -/
theorem second_update_refused :
    let d : Domain := {
      metadata := { name := some "acme", ns := some "mail" }
      spec := { baseDomain := "acme.example", dkim := ⟨"s1", "key"⟩ } }
    let other : Domain := { d with metadata := { d.metadata with name := some "other" } }
    let s : MemoryStore DomainSpec DomainStatus := (create {} d).2
    let o := stamped d 1
    let t := (s.create other).2
    let u := o.withStatus (some ⟨⟨true, true, true⟩, none⟩)
    let first : Exchange DomainSpec DomainStatus := ⟨t, .write (.updateStatus u)⟩
    let second : Exchange DomainSpec DomainStatus :=
      ⟨first.after, .write (.updateStatus o)⟩
    history {} [.write (.create d), .get ⟨"mail", "acme"⟩, .write (.create other),
        .write (.updateStatus u), .write (.updateStatus o)] =
      [⟨{}, .write (.create d)⟩, ⟨s, .get ⟨"mail", "acme"⟩⟩, ⟨s, .write (.create other)⟩, first,
        second] ∧ first.Succeeds ∧ second.Refused := by
  intro d other s o t u first second
  have hhistory : history {} [.write (.create d), .get ⟨"mail", "acme"⟩, .write (.create other),
        .write (.updateStatus u), .write (.updateStatus o)] =
      [⟨{}, .write (.create d)⟩, ⟨s, .get ⟨"mail", "acme"⟩⟩, ⟨s, .write (.create other)⟩, first,
        second] := rfl
  obtain ⟨hone, htwo, -⟩ := no_lost_update [.write (.create d), .get ⟨"mail", "acme"⟩,
    .write (.create other), .write (.updateStatus u), .write (.updateStatus o)]
  have hread : Exchange.Reads ⟨s, .get ⟨"mail", "acme"⟩⟩ ⟨"mail", "acme"⟩ o := ⟨rfl, rfl⟩
  have hfirst : first.UpdatesSince ⟨"mail", "acme"⟩ o := ⟨u, rfl, rfl, rfl⟩
  have hsecond : second.UpdatesSince ⟨"mail", "acme"⟩ o := ⟨o, rfl, rfl, rfl⟩
  have hother : Exchange.mutation ⟨s, .write (.create other)⟩ = .added ⟨"mail", "other"⟩ other :=
    rfl
  have hok : first.Succeeds := by
    refine (hone [_] [_] [second] _ first _ o hhistory hread hfirst).1.2 ?_
    simp [Exchange.Touches, hother, Mutation.key?]
  refine ⟨hhistory, hok, ?_⟩
  refine (hone [_] [_, first] [] _ second _ o hhistory hread hsecond).2.2 fun hok' => ?_
  exact htwo [_] [_] [] [] _ first second _ o hhistory hread hfirst hsecond ⟨hok, hok'⟩

end MailDomain.MemoryStore
