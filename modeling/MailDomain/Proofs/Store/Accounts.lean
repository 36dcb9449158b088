import MailDomain.Proofs.Store.History

/-!
# What a store counts

A store counts the creations, deletions and status writes that it makes. It counts them exactly: a
request that fails leaves everything as it was, its counts among it, and one that succeeds touches
the object under its key and its own count alone. So after any requests the counts are the numbers
of those that succeeded, and they account for the objects that are there.

## Main definitions

* `MemoryStore.Operation`, `Write.operation`, `Write.key?` — what a write is and what it is about.
* `MemoryStore.served` — the store after some requests.
* `MemoryStore.successes` — how many requests for an operation succeeded.
* `MemoryStore.Accounts` — a store comes from another by exchanges that account for its counts, its
  size and its version.

## Main results

* `MemoryStore.Exchange.accounts`, `MemoryStore.served_accounts` — a request, and any number of
  them, are accounted for.
* `MemoryStore.writes_counted` — failures leave the store, and what succeeds is counted.
-/

set_option relaxedAutoImplicit false
set_option autoImplicit false

namespace MailDomain

namespace MemoryStore

variable {Spec Status : Type}

/-! ### Operations -/

/-- The operations by which a store is written, without their objects. -/
inductive Operation
  | insert
  | create
  | delete
  | updateStatus
  | bump
  deriving DecidableEq

/-- The counts `c` with one more success of an operation. Insertions and bumps are not counted. -/
def Operation.countedIn (c : WriteCounts) : Operation → WriteCounts
  | .insert | .bump => c
  | .create => { c with creates := c.creates + 1 }
  | .delete => { c with deletes := c.deletes + 1 }
  | .updateStatus => { c with statusUpdates := c.statusUpdates + 1 }

/-- The operation that the write `w` asks for. -/
def Write.operation : Write Spec Status → Operation
  | .insert _ => .insert
  | .create _ => .create
  | .delete _ => .delete
  | .updateStatus _ => .updateStatus
  | .bump _ => .bump

/-- The key that the write `w` is about, if its object has one. -/
def Write.key? : Write Spec Status → Option ObjectKey
  | .insert r | .create r | .delete r | .updateStatus r => r.key?
  | .bump key => some key

variable [Manifest (Resource Spec Status)] {s t u : MemoryStore Spec Status} {key : ObjectKey}

/-! ### What a write does -/

/-- The four ways in which a write of the store `s` comes out, each with the answer and the store
after it. All accounts are read off these cases. -/
inductive Write.Outcome (s : MemoryStore Spec Status) (w : Write Spec Status) :
    Except StoreError Unit × MemoryStore Spec Status → Prop
  /-- A write that fails leaves the store. -/
  | failed (err : StoreError) : w.operation ≠ .bump → Outcome s w (.error err, s)
  /-- There is nothing to bump. -/
  | idle {key : ObjectKey} : w.key? = some key → w.operation = .bump → s.get key = none →
    Outcome s w (.ok (), s)
  /-- An object is put under the key of the write. -/
  | stored {key : ObjectKey} (r : Resource Spec Status) : w.key? = some key →
    w.operation ≠ .delete → (w.operation = .create → s.get key = none) →
    (w.operation = .updateStatus ∨ w.operation = .bump → (s.get key).isSome) →
    Outcome s w (.ok (), { s.put key r with writes := w.operation.countedIn s.writes })
  /-- The object under the key of the write is removed. -/
  | removed {key : ObjectKey} {old : Resource Spec Status} : w.key? = some key →
    w.operation = .delete → s.get key = some old →
    Outcome s w (.ok (), { s with
      objects := s.objects.erase key, writes := w.operation.countedIn s.writes })

/-- Every write comes out in one of the ways of `Write.Outcome`. -/
theorem Write.outcome (s : MemoryStore Spec Status) (w : Write Spec Status) :
    w.Outcome s (w.perform s) := by
  cases w with
  | insert r =>
    cases hr : r.key? with
    | none =>
      rw [perform, MemoryStore.insert, hr]
      exact .failed _ (by simp [operation])
    | some key =>
      rw [perform, MemoryStore.insert, hr]
      refine .stored r hr ?_ ?_ ?_ <;> simp [operation]
  | create r =>
    rw [perform]
    rcases h : s.create r with ⟨err | ⟨⟨⟩⟩, t⟩
    · obtain rfl := create_error h
      exact .failed err (by simp [operation])
    · obtain ⟨key, hr, hs, rfl⟩ := create_ok h
      refine .stored _ hr ?_ (fun _ => hs) ?_ <;> simp [operation]
  | delete r =>
    rw [perform]
    rcases h : s.delete r with ⟨err | ⟨⟨⟩⟩, t⟩
    · obtain rfl := delete_error h
      exact .failed err (by simp [operation])
    · obtain ⟨key, old, hr, hs, rfl⟩ := delete_ok h
      exact .removed hr rfl hs
  | updateStatus r =>
    rw [perform]
    rcases h : s.updateStatus r with ⟨err | ⟨⟨⟩⟩, t⟩
    · obtain rfl := updateStatus_error h
      exact .failed err (by simp [operation])
    · -- a status write needs a stored object, so that it never adds one
      obtain ⟨key, old, hr, hs, -, rfl⟩ := updateStatus_ok h
      refine .stored _ hr ?_ ?_ ?_ <;> simp [operation, hs]
  | bump key =>
    rw [perform, MemoryStore.bump]
    split
    · next hs => exact .idle rfl rfl hs
    · next r hs => refine .stored r rfl ?_ ?_ ?_ <;> simp [operation, hs]

/-! ### Requests that succeed -/

/-- The operation that a request asks for, and `none` for a read. -/
def Request.operation? : Request Spec Status → Option Operation
  | .get _ => none
  | .write w => some w.operation

namespace Exchange

/-- Whether the client is told that its write was done. A read is not. -/
def isDone (e : Exchange Spec Status) : Bool :=
  match e.request with
  | .get _ => false
  | .write w =>
    match (w.perform e.before).1 with
    | .ok _ => true
    | .error _ => false

/-- Whether nothing stands under the key that the write is about. -/
def isVacant (e : Exchange Spec Status) : Bool :=
  match e.request with
  | .get _ => false
  | .write w => (w.key?.bind e.before.get).isNone

end Exchange

/-- How many requests of `es` for the operation `o` succeeded. -/
def successes (o : Operation) (es : List (Exchange Spec Status)) : Nat :=
  es.countP fun e => e.request.operation? == some o && e.isDone

/-- How many objects were inserted where nothing stood. Only these insertions add an object. -/
def vacantInserts (es : List (Exchange Spec Status)) : Nat :=
  es.countP fun e => e.request.operation? == some .insert && e.isDone && e.isVacant

/-- How many objects were bumped. A bump of a vacant key is told to be done, but does nothing. -/
def bumps (es : List (Exchange Spec Status)) : Nat :=
  es.countP fun e => e.request.operation? == some .bump && !e.isVacant

/-- The store after the requests `qs`. -/
def served (s : MemoryStore Spec Status) (qs : List (Request Spec Status)) :
    MemoryStore Spec Status :=
  qs.foldl (fun s q => Exchange.after ⟨s, q⟩) s

/-! ### Accounts -/

/-- The store `t` comes from `s` by the exchanges `es`, which account for each of its counts, for
the number of its objects and for its version. The deletions stand on the left, so that nothing is
subtracted. -/
structure Accounts (s t : MemoryStore Spec Status) (es : List (Exchange Spec Status)) : Prop where
  creates : t.writes.creates = s.writes.creates + successes .create es
  deletes : t.writes.deletes = s.writes.deletes + successes .delete es
  statusUpdates : t.writes.statusUpdates = s.writes.statusUpdates + successes .updateStatus es
  size : t.size + successes .delete es = s.size + vacantInserts es + successes .create es
  version : t.version = s.version +
    (successes .insert es + successes .create es + successes .updateStatus es + bumps es)

variable {es es' : List (Exchange Spec Status)}

/-- No exchange leaves everything as it is. -/
lemma Accounts.nil (s : MemoryStore Spec Status) : Accounts s s [] := ⟨rfl, rfl, rfl, rfl, rfl⟩

/-- What is accounted for in two parts is accounted for by all exchanges together. -/
lemma Accounts.append (h : Accounts s t es) (h' : Accounts t u es') :
    Accounts s u (es ++ es') := by
  obtain ⟨hcreates, hdeletes, hupdates, hsize, hversion⟩ := h
  obtain ⟨hcreates', hdeletes', hupdates', hsize', hversion'⟩ := h'
  simp only [successes, vacantInserts, bumps] at *
  constructor <;> simp only [successes, vacantInserts, bumps, List.countP_append] <;> omega

/-- An exchange that leaves the store is accounted for if it is a read or fails, or is the bump of a
vacant key. -/
lemma Accounts.of_not_done {e : Exchange Spec Status} (hdone : e.isDone = false)
    (hbump : e.request.operation? = some .bump → e.isVacant = true) (h : t = s) :
    Accounts s t [e] := by
  subst h
  have hbumps : (e.request.operation? == some .bump && !e.isVacant) = false := by
    by_cases ho : e.request.operation? = some .bump <;> simp [ho, hbump]
  constructor <;> simp [successes, vacantInserts, bumps, hdone, hbumps]

/-- A request is accounted for by itself.

**Proof sketch.** Cases by `Write.outcome`. An object that is put adds one to the objects if nothing
stood under its key, which is so for a creation, and not so for a status write or a bump. -/
theorem Exchange.accounts (e : Exchange Spec Status) : Accounts e.before e.after [e] := by
  rcases e with ⟨s, key | w⟩
  · exact .of_not_done rfl nofun rfl
  have h := w.outcome s
  change Accounts s (w.perform s).2 _
  generalize hp : w.perform s = p at h ⊢
  cases h with
  | failed err hop =>
    exact .of_not_done (by simp [isDone, hp]) (fun h => absurd (Option.some.inj h) hop) rfl
  | @idle key hkey hop hs =>
    constructor <;> simp [successes, vacantInserts, bumps, Request.operation?, isVacant, *]
  | @stored key r hkey hop hcreate htaken =>
    -- whether the object adds to the size of the store depends on what lay under its key
    have hdone : isDone ⟨s, .write w⟩ = true := by simp [isDone, hp]
    cases hs : s.get key with
    | none =>
      have hsize := Table.size_insert_of_get?_eq_none hs (stamped r (s.version + 1))
      cases hw : w.operation <;> constructor <;>
        simp_all [successes, vacantInserts, bumps, Request.operation?, isVacant, size, put,
          Operation.countedIn]
    | some old =>
      have hsize := Table.size_insert_of_get?_eq_some hs (stamped r (s.version + 1))
      cases hw : w.operation <;> constructor <;>
        simp_all [successes, vacantInserts, bumps, Request.operation?, isVacant, size, put,
          Operation.countedIn]
  | @removed key old hkey hop hs =>
    have hsize := Table.size_erase_of_get? hs
    constructor <;>
      simp [successes, vacantInserts, bumps, Request.operation?, isDone, size,
        Operation.countedIn, *]

/-- The requests `qs` are accounted for by the exchanges of their history. -/
theorem served_accounts (s : MemoryStore Spec Status) (qs : List (Request Spec Status)) :
    Accounts s (served s qs) (history s qs) := by
  induction qs generalizing s with
  | nil => exact .nil s
  | cons q qs ih => exact (Exchange.accounts ⟨s, q⟩).append (ih _)

/-- A status write or a bump leaves something under a key exactly if something was there. -/
lemma isSome_get_perform {w : Write Spec Status}
    (hw : w.operation = .updateStatus ∨ w.operation = .bump) (key : ObjectKey) :
    ((w.perform s).2.get key).isSome = (s.get key).isSome := by
  have h := w.outcome s
  generalize w.perform s = p at h
  cases h with
  | failed err => rfl
  | idle => rfl
  | @stored k r hkey hop hcreate htaken =>
    by_cases hk : key = k
    · subst hk
      rw [htaken hw]
      simp [MemoryStore.get, put]
    · simp [MemoryStore.get, put, Table.get?_insert_of_ne hk]
  | removed hkey hop =>
    rcases hw with hw | hw <;>
    · rw [hop] at hw
      cases hw

/-- A write that succeeds changes nothing under other keys than its own, and adds to the counts what
`Operation.countedIn` says. -/
lemma Write.perform_ok {w : Write Spec Status} (h : w.perform s = (.ok (), t)) :
    t.writes = w.operation.countedIn s.writes ∧
      ∀ key, w.key? ≠ some key → t.get key = s.get key := by
  have ho := w.outcome s
  rw [h] at ho
  cases ho with
  | @idle k hkey hop hs => exact ⟨by rw [hop]; rfl, fun _ _ => rfl⟩
  | @stored k r hkey =>
    refine ⟨rfl, fun key hne => ?_⟩
    have hne : key ≠ k := fun he => hne (he ▸ hkey)
    simp [MemoryStore.get, put, Table.get?_insert_of_ne hne]
  | @removed k old hkey =>
    refine ⟨rfl, fun key hne => ?_⟩
    have hne : key ≠ k := fun he => hne (he ▸ hkey)
    simp [MemoryStore.get, Table.get?_erase_of_ne hne]

/-- A write that fails leaves the store as it is. -/
lemma Write.perform_error {w : Write Spec Status} {err : StoreError}
    (h : w.perform s = (.error err, t)) : t = s := by
  have ho := w.outcome s
  rw [h] at ho
  cases ho with
  | failed err => rfl

/-- **What fails changes nothing, and what succeeds is counted exactly.** Let a store that begins
empty be asked for anything any number of times. Then a write that fails leaves its objects, its
version and its counts as they are. One that succeeds changes no object under another key, and adds
one to the count of its operation and to no other; insertions and bumps are not counted. So the
counts are the numbers of creations, deletions and status writes that succeeded, and there are as
many objects as were inserted where nothing stood or created, less those that were deleted. Neither
a status write nor a bump makes an object come or go.

**Proof sketch.** The first two parts are `Write.perform_error` and `Write.perform_ok`. For the
counts, an empty store is accounted for by no requests (`Accounts.nil`), and each request adds what
it does to the accounts (`served_accounts`). -/
theorem writes_counted (qs : List (Request Spec Status)) :
    let s : MemoryStore Spec Status := served {} qs
    let es := history {} qs
    (∀ (w : Write Spec Status) (err : StoreError) (t : MemoryStore Spec Status),
        w.perform s = (.error err, t) → t = s) ∧
      (∀ (w : Write Spec Status) (t : MemoryStore Spec Status), w.perform s = (.ok (), t) →
        t.writes = w.operation.countedIn s.writes ∧
          ∀ key, w.key? ≠ some key → t.get key = s.get key) ∧
      s.writes = ⟨successes .create es, successes .delete es, successes .updateStatus es⟩ ∧
      s.size + successes .delete es = vacantInserts es + successes .create es ∧
      ∀ w : Write Spec Status, w.operation = .updateStatus ∨ w.operation = .bump →
        ∀ key, ((w.perform s).2.get key).isSome = (s.get key).isSome := by
  intro s es
  obtain ⟨hcreates, hdeletes, hupdates, hsize, -⟩ := served_accounts {} qs
  refine ⟨fun w err t => Write.perform_error, fun w t => Write.perform_ok, ?_, ?_, fun w hw key =>
    isSome_get_perform hw key⟩
  · have hwrites : s.writes = ⟨s.writes.creates, s.writes.deletes, s.writes.statusUpdates⟩ := rfl
    rw [hwrites, hcreates, hdeletes, hupdates]
    simp [es]
  · rw [hsize]
    change 0 + _ + _ = _
    rw [Nat.zero_add]

/-- A domain is inserted, bumped and deleted, and another is created twice and has its status
written: one creation is refused, and one object is left. -/
theorem writes_counted_refused :
    let d : Domain := {
      metadata := { name := some "acme", ns := some "mail" }
      spec := { baseDomain := "acme.example", dkim := ⟨"s1", "key"⟩ } }
    let other : Domain := { d with metadata := { d.metadata with name := some "other" } }
    let qs : List (Request DomainSpec DomainStatus) :=
      [.write (.insert d), .write (.create other), .write (.bump ⟨"mail", "acme"⟩),
        .write (.create other), .write (.updateStatus (stamped other 2)), .write (.delete d)]
    let s : MemoryStore DomainSpec DomainStatus := served {} qs
    (∃ err, s.create other = (.error err, s)) ∧ s.writes = ⟨1, 1, 1⟩ ∧ s.size = 1 ∧
      (((Write.bump ⟨"mail", "other"⟩).perform s).2.get ⟨"mail", "other"⟩).isSome := by
  intro d other qs s
  obtain ⟨herror, -, hwrites, hsize, hkept⟩ := writes_counted qs
  have hother : (s.get ⟨"mail", "other"⟩).isSome := by decide +kernel
  refine ⟨?_, hwrites.trans (by decide +kernel), ?_, ?_⟩
  · rcases hr : s.create other with ⟨err | ⟨⟨⟩⟩, t⟩
    · exact ⟨err, by rw [herror (.create other) err t hr]⟩
    · obtain ⟨key, hkey, hvacant, -⟩ := create_ok hr
      cases hkey
      rw [hvacant] at hother
      cases hother
  · have hdeleted : successes .delete (history {} qs) = 1 := by decide +kernel
    have hadded : vacantInserts (history {} qs) + successes .create (history {} qs) = 2 := by
      decide +kernel
    change s.size + _ = _ at hsize
    omega
  · rw [hkept (.bump ⟨"mail", "other"⟩) (.inr rfl)]
    exact hother

end MemoryStore

end MailDomain
