import MailDomain.Proofs.Cluster.Operations
import MailDomain.Proofs.Pass.Stores
import MailDomain.Proofs.Store.Invariant

/-!
# A server and two stores that keep the same objects

A server gives other versions to objects than a store in memory does, and another identity to an
object that it creates. Apart from that the two keep the same objects, whatever other clients write
to both.

## Main definitions

* `Resource.unversioned`, `Resource.unstamped` — an object apart from what a store gives to it.
* `ApiServer.Agrees`, `ApiServer.Mirrors` — a server and one or two stores keep the same objects.
* `ApiServer.Turn` — a server and a store change in the same way under one key.
* `ApiServer.Tracks`, `ApiServer.Keeping` — a domain that was found is still there in both or in
  neither.
* `ApiServer.Act` — a write of another client, on a server and in memory.

## Main results

* `ApiServer.exists_mirrors` — for every server there are two stores that keep the same objects.
* `ApiServer.Turn.agrees`, `Turn.tracks` — what a turn keeps.
* `ApiServer.Change.turn` — other clients make turns.
* `ApiServer.Keeping.acts` — a server and two stores keep the same objects, whatever others do.
-/

set_option relaxedAutoImplicit false
set_option autoImplicit false

namespace MailDomain

open Cluster Json

/-! ### Objects apart from what a store gives them -/

namespace Resource

variable {Spec Status : Type} {r r' : Resource Spec Status}

/-- The object `r` with `v` for its `resourceVersion`, and everything else as it is. -/
def atVersion (r : Resource Spec Status) (v : Option String) : Resource Spec Status :=
  { r with metadata := { r.metadata with resourceVersion := v } }

/-- The object `r` without its `resourceVersion`. -/
def unversioned (r : Resource Spec Status) : Resource Spec Status := r.atVersion none

/-- The object `r` without its `resourceVersion` and its `uid`, which are what a store stamps on
it. -/
def unstamped (r : Resource Spec Status) : Resource Spec Status :=
  { r with metadata := { r.metadata with resourceVersion := none, uid := none } }

/-- If two objects have the same `unversioned` form, then the one is the other `atVersion` its own
version. -/
lemma eq_atVersion (h : r'.unversioned = r.unversioned) :
    r' = r.atVersion r'.metadata.resourceVersion :=
  congrArg (·.atVersion r'.metadata.resourceVersion) h

/-- If two objects have the same `unstamped` form and the same `uid`, they have the same
`unversioned` form. -/
lemma unversioned_eq (h : r'.unstamped = r.unstamped) (hu : r'.metadata.uid = r.metadata.uid) :
    r'.unversioned = r.unversioned :=
  congrArg₂ (fun (a : Resource Spec Status) u =>
    { a with metadata := { a.metadata with uid := u } }) h hu

/-- What a store stamps on an object does not decide its key. -/
lemma key?_unstamped (r : Resource Spec Status) : r.unstamped.key? = r.key? := rfl

end Resource

/-- A store that loses the object under `key` and keeps its other objects and its `version` stays
`Valid`. -/
lemma MemoryStore.Valid.of_removed {Spec Status : Type} {s t : MemoryStore Spec Status}
    {key : ObjectKey} (h : s.Valid) (absent : t.get key = none)
    (others : ∀ {other}, other ≠ key → t.get other = s.get other)
    (version : t.version = s.version) : t.Valid := by
  have hget : ∀ {j r}, t.get j = some r → s.get j = some r := by
    intro j r hr
    by_cases hj : j = key
    · subst hj
      rw [absent] at hr
      cases hr
    · rwa [← others hj]
  exact ⟨fun hr => h.key_eq (hget hr), fun hr => h.uid_isSome (hget hr),
    fun hr => (h.issued (hget hr)).mono version.ge⟩

namespace ApiServer

section Kinds

variable {Spec Status : Type} [Manifest (Resource Spec Status)]

/-! ### One kind of objects -/

/-- What a server holds under `key`, as JSON, and what a store in memory holds there are the same
object, or there is nothing in either. The object has a `uid` and a version that the server gave;
the two sides agree when `unstamped`, and also in their `uid` unless the key is `made`. -/
inductive Held (used : List String) (made : Option ObjectKey) (key : ObjectKey) :
    Option Json → Option (Resource Spec Status) → Prop
  | absent : Held used made key none none
  | present {v : Json} {r r' : Resource Spec Status} {u : String} (shows : Shows v key r)
      (version : r.metadata.resourceVersion = some u) (given : u ∈ used)
      (uid : r.metadata.uid.isSome) (same : r'.unstamped = r.unstamped)
      (kept : made ≠ some key → r'.metadata.uid = r.metadata.uid) :
      Held used made key (some v) (some r')

/-- The server and the `Valid` store `t` hold the same objects of the kind `k`, under every key.
Only the `uid` of the object under the key `made`, which each side created for itself, may
differ. -/
structure Agrees (k : Kind) (made : Option ObjectKey) (s : ApiServer)
    (t : MemoryStore Spec Status) : Prop where
  valid : t.Valid
  held : ∀ key, Held s.used made key (s.get? k key) (t.get key)

/-- The server and the store make the same change under `key`, or none: an object is `stored` on
both sides, in a version that is new to each, or whatever there is is `removed` from both. -/
inductive Turn (m : Manner) (k : Kind) (made : Option ObjectKey) (key : ObjectKey)
    (s : ApiServer) (t : MemoryStore Spec Status) : ApiServer → MemoryStore Spec Status → Prop
  | none : Turn m k made key s t s t
  | stored {v : Json} {r r' : Resource Spec Status} {t' : MemoryStore Spec Status}
      (shows : Shows v key r) (uid : r.metadata.uid.isSome) (same : r'.unstamped = r.unstamped)
      (kept : made ≠ some key → r'.metadata.uid = r.metadata.uid)
      (makes : (MemoryStore.Mutation.added key r').Makes t t') :
      Turn m k made key s t (m.store s k key v) t'
  | removed {t' : MemoryStore Spec Status} (absent : t'.get key = none)
      (others : ∀ {other}, other ≠ key → t'.get other = t.get other)
      (version : t'.version = t.version) :
      Turn m k made key s t (s.remove k key) t'

variable {m : Manner} {k j : Kind} {made made' : Option ObjectKey} {key other : ObjectKey}
  {s s' : ApiServer} {t t' : MemoryStore Spec Status}

/-- What is `Held` on both sides stays so when the server has given more versions, and when a `uid`
is allowed to differ that was not before. -/
lemma Held.mono {used used' : List String} {o : Option Json} {o' : Option (Resource Spec Status)}
    (h : Held used made key o o') (hused : used ⊆ used')
    (hmade : made = some key → made' = some key) : Held used' made' key o o' := by
  cases h with
  | absent => exact .absent
  | present shows version given uid same kept =>
    exact .present shows version (hused given) uid same fun hne => kept fun h => hne (hmade h)

/-- What a server and a store that `Agrees` hold under a key: nothing on either side, or the same
object. -/
lemma Agrees.get_cases (h : Agrees k made s t) (key : ObjectKey) :
    s.get? k key = none ∧ t.get key = none ∨
      ∃ v r r', s.get? k key = some v ∧ t.get key = some r' ∧ Shows v key r ∧
        r.metadata.uid.isSome ∧ r'.unstamped = r.unstamped ∧
        (made ≠ some key → r'.metadata.uid = r.metadata.uid) := by
  have hheld := h.held key
  generalize s.get? k key = o, t.get key = o' at hheld
  cases hheld with
  | absent => exact .inl ⟨rfl, rfl⟩
  | present shows _ _ uid same kept => exact .inr ⟨_, _, _, rfl, rfl, shows, uid, same, kept⟩

/-- If a server holds the same objects of a kind as before and took no version back, it `Agrees`
with what it agreed with. -/
lemma Agrees.congr (h : Agrees k made s t) (hget : ∀ key, s'.get? k key = s.get? k key)
    (hused : s.used ⊆ s'.used) : Agrees k made s' t where
  valid := h.valid
  held key := by
    rw [hget]
    exact (h.held key).mono hused id

/-- A server and a store that agree on every `uid` agree if one of them may differ. -/
lemma Agrees.weaken (h : Agrees k none s t) (made : Option ObjectKey) : Agrees k made s t where
  valid := h.valid
  held key := (h.held key).mono (List.Subset.refl _) nofun

namespace Turn

/-- A `Turn` under one key leaves what the server holds under other keys and of other kinds. -/
lemma get?_of_ne (h : Turn m k made key s t s' t') (hne : j ≠ k ∨ other ≠ key) :
    s'.get? j other = s.get? j other := by
  cases h with
  | none => rfl
  | stored => exact get?_store_of_ne m hne
  | removed => exact get?_remove_of_ne hne

/-- A `Turn` under one key leaves what the store holds under other keys. -/
lemma get_of_ne (h : Turn m k made key s t s' t') (hne : other ≠ key) :
    t'.get other = t.get other := by
  cases h with
  | none => rfl
  | stored _ _ _ _ makes => exact makes.get_of_ne fun h => hne (Option.some.inj h).symm
  | removed _ others _ => exact others hne

/-- A version that the server gave before a `Turn` counts as given after it. -/
lemma used_subset (h : Turn m k made key s t s' t') : s.used ⊆ s'.used := by
  cases h with
  | none => exact List.Subset.refl _
  | stored => exact List.subset_cons_self _ _
  | removed => exact List.Subset.refl _

/-- The `version` of the store does not decrease by a `Turn`. -/
lemma version_le (h : Turn m k made key s t s' t') : t.version ≤ t'.version := by
  cases h with
  | none => exact le_rfl
  | stored _ _ _ _ makes => exact makes.version_le
  | removed _ _ version => exact version.ge

/-- Removing the object under `key` from both sides is a `Turn`. -/
lemma erased (makes : (MemoryStore.Mutation.removed key).Makes t t') :
    Turn m k made key s t (s.remove k key) t' :=
  .removed makes.get_removed (fun hne => makes.get_of_ne fun h => hne (Option.some.inj h).symm)
    makes.2

variable [LawfulManifest Spec Status]

/-- **A turn keeps both sides the same**: if a server and a store that `Agrees` make a `Turn` under
one key, they agree afterwards.

**Proof sketch.** Under the key of the turn there is on both sides the object that was stored, or
nothing; under every other key it is what was there, by `Turn.get?_of_ne` and `Turn.get_of_ne`. -/
theorem agrees (h : Turn m k made key s t s' t') (hs : Agrees k made s t) :
    Agrees k made s' t' where
  valid := by
    cases h with
    | none => exact hs.valid
    | stored shows _ same _ makes =>
      refine makes.valid ?_ hs.valid
      rw [MemoryStore.Mutation.Fits, ← Resource.key?_unstamped, same]
      exact shows.key?_eq
    | removed absent others version => exact hs.valid.of_removed absent others version
  held other := by
    by_cases hother : other = key
    · subst hother
      cases h with
      | none => exact hs.held other
      | @stored v r r' t' shows uid same kept makes =>
        obtain ⟨u, hu⟩ := Option.isSome_iff_exists.1 uid
        rw [get?_store, makes.get_added]
        -- A store keeps the identity that an object brings.
        refine .present (shows.setVersion _) rfl (List.mem_cons_self ..) uid same fun hne => ?_
        rw [MemoryStore.uid_stamped, kept hne, hu]
        rfl
      | removed absent _ _ =>
        rw [get?_remove_self, absent]
        exact .absent
    · rw [h.get?_of_ne (.inr hother), h.get_of_ne hother]
      exact (hs.held other).mono h.used_subset id

/-- Creating an object on both sides is a `Turn` under a key that is `made`: each side gives the
object a `uid` of its own. -/
lemma created {v : Json} {r : Resource Spec Status} (shows : Shows v key r) (u : String)
    (makes : (MemoryStore.Mutation.added key
      { r with metadata := { r.metadata with uid := .none } }).Makes t t') :
    Turn m k (some key) key s t (m.store s k key (v.withMetadata "uid" u)) t' := by
  refine .stored (shows.setUid u) rfl ?_ (fun hne => absurd rfl hne) makes
  rfl

end Turn

variable (Spec Status) in
/-- Every JSON object of the kind `k` that the server holds can be read as an object under its key,
has a `uid`, and bears a version that the server gave. -/
def Holds (s : ApiServer) (k : Kind) : Prop :=
  ∀ {key v}, s.get? k key = some v → ∃ (r : Resource Spec Status) (u : String), Shows v key r ∧
    r.metadata.resourceVersion = some u ∧ u ∈ s.used ∧ r.metadata.uid.isSome

/-- For every server that `Holds` objects of a kind there is a store that `Agrees` with it.

**Proof sketch.** Induction on the entries of the server's table, each of which is put into the
store as it is read. -/
theorem exists_agrees (h : Holds Spec Status s k) :
    ∃ t : MemoryStore Spec Status, Agrees k none s t := by
  -- for lists of entries with different keys, so that the induction can take the first one away
  suffices hlist : ∀ es : List (ObjectKey × Json), (es.map Prod.fst).Nodup →
      (∀ {key v}, Table.find? key es = some v → ∃ (r : Resource Spec Status) (u : String),
        Shows v key r ∧ r.metadata.resourceVersion = some u ∧ u ∈ s.used ∧
        r.metadata.uid.isSome) →
      ∃ t : MemoryStore Spec Status, t.Valid ∧
        ∀ key, Held s.used none key (Table.find? key es) (t.get key) by
    obtain ⟨t, hvalid, hheld⟩ := hlist (s.objects k).entries (s.objects k).nodup h
    exact ⟨t, hvalid, hheld⟩
  intro es hnodup hes
  induction es with
  | nil => exact ⟨{}, MemoryStore.valid_empty, fun _ => .absent⟩
  | cons e es ih =>
    obtain ⟨other, w⟩ := e
    obtain ⟨hnew, hrest⟩ := List.nodup_cons.1 hnodup
    have hvacant : Table.find? other es = none := Table.find?_eq_none_of_not_mem hnew
    have hne : ∀ {key}, key ≠ other → Table.find? key ((other, w) :: es) = Table.find? key es :=
      fun hkey => if_neg (Ne.symm hkey)
    obtain ⟨t, hvalid, hheld⟩ := ih hrest fun {key v} hv => hes <| by
      rw [hne, hv]
      rintro rfl
      rw [hvacant] at hv
      cases hv
    have hself : Table.find? other ((other, w) :: es) = some w := if_pos rfl
    obtain ⟨r, u, shows, hversion, hu, huid⟩ := hes hself
    -- the entry is put in as it was read, so that it keeps its identity
    have makes : (MemoryStore.Mutation.added other r).Makes t (t.put other r) := ⟨rfl, rfl⟩
    refine ⟨t.put other r, makes.valid shows.key?_eq hvalid, fun key => ?_⟩
    by_cases hkey : key = other
    · subst hkey
      obtain ⟨x, hx⟩ := Option.isSome_iff_exists.1 huid
      rw [hself, makes.get_added]
      exact .present shows hversion hu huid rfl fun _ => by simp [hx]
    · rw [hne hkey, makes.get_of_ne fun h => hkey (Option.some.inj h).symm]
      exact hheld key

end Kinds

/-! ### The domain of a pass -/

/-- What a pass fetched under `key`, the domain `d` at the server and `d'` in memory, is the same
but for its version, and is still there on both sides or on neither. Where it is not, both sides
hold another version than the one that was fetched, or nothing. -/
structure Tracks (key : ObjectKey) (d d' : Domain) (s : ApiServer) (t : DomainStore) : Prop where
  key?_eq : d.key? = some key
  same : d'.unversioned = d.unversioned
  version : ∃ u ∈ s.used, d.metadata.resourceVersion = some u
  issued : t.Issued d'.metadata.resourceVersion
  current : ∀ {v r}, s.get? .domain key = some v → t.get key = some r →
    Shows v key d ∧ r = d' ∨
      Server.metadataText "resourceVersion" v ≠ d.metadata.resourceVersion ∧
        r.metadata.resourceVersion ≠ d'.metadata.resourceVersion

section Tracks

variable {m : Manner} {k : Kind} {made : Option ObjectKey} {key other : ObjectKey} {d d' : Domain}
  {s s' : ApiServer} {t t' : DomainStore}

/-- What is tracked stays so when both sides leave its key alone and take no version back. -/
lemma Tracks.congr (h : Tracks key d d' s t) (hget : s'.get? .domain key = s.get? .domain key)
    (hused : s.used ⊆ s'.used) (hget' : t'.get key = t.get key) (hle : t.version ≤ t'.version) :
    Tracks key d d' s' t' where
  key?_eq := h.key?_eq
  same := h.same
  version :=
    let ⟨u, hu, hd⟩ := h.version
    ⟨u, hused hu, hd⟩
  issued := h.issued.mono hle
  current hv hr := h.current (hget ▸ hv) (hget' ▸ hr)

/-- **A turn keeps track of what was fetched**: after any `Turn` of the domains, what was tracked is
still there on both sides or on neither.

**Proof sketch.** A turn under another key leaves it, see `Tracks.congr`. One under its key removes
it from both sides, or puts an object there whose version is new to both: at the server by
`Manner.fresh_notMem`, and in memory because the next version was not `Issued`. -/
theorem Turn.tracks (h : Turn m .domain made other s t s' t') (hd : Tracks key d d' s t) :
    Tracks key d d' s' t' := by
  by_cases hother : key = other
  · subst hother
    refine ⟨hd.key?_eq, hd.same, ?_, hd.issued.mono h.version_le, ?_⟩
    · obtain ⟨u, hu, hversion⟩ := hd.version
      exact ⟨u, h.used_subset hu, hversion⟩
    intro v r hv hr
    cases h with
    | none => exact hd.current hv hr
    | @stored w a a' t' shows _ _ _ makes =>
      rw [get?_store] at hv
      rw [makes.get_added] at hr
      cases hv
      cases hr
      -- The new version is none that was given before, and the one that was found was.
      refine .inr ⟨?_, hd.issued.ne_next⟩
      obtain ⟨u, hu, hversion⟩ := hd.version
      rw [(shows.setVersion _).version_eq, hversion]
      intro he
      exact m.fresh_notMem s (Option.some.inj he ▸ hu)
    | removed _ _ _ =>
      rw [get?_remove_self] at hv
      cases hv
  · exact hd.congr (h.get?_of_ne (.inr hother)) h.used_subset (h.get_of_ne hother) h.version_le

/-- When a server and a store that agree hold a domain under `key`, what is fetched from them is
tracked from then on. -/
lemma Agrees.tracks (h : Agrees .domain none s t) {v : Json} (hv : s.get? .domain key = some v)
    (ht : t.get key = some d') :
    ∃ d, Shows v key d ∧ Tracks key d d' s t := by
  have hheld := h.held key
  rw [hv, ht] at hheld
  cases hheld with
  | @present v d _ u shows version given uid same kept =>
    refine ⟨d, shows, shows.key?_eq, Resource.unversioned_eq same (kept nofun), ⟨u, given, version⟩,
      h.valid.issued ht, fun hv' hr => .inl ?_⟩
    cases hv.symm.trans hv'
    cases ht.symm.trans hr
    exact ⟨shows, rfl⟩

end Tracks

/-! ### Both kinds -/

/-- The server holds the same domains as the one store and the same ingresses as the other, but for
the `uid` of the ingress under the key `made`. -/
structure Mirrors (made : Option ObjectKey) (s : ApiServer) (t : Stores) : Prop where
  domains : Agrees .domain none s t.domains
  ingresses : Agrees .ingress made s t.ingresses

/-- What holds during a pass for the domain under `key`: the worlds mirror each other, and the
domain that was `fetched` from both sides, if it was, is tracked. -/
structure Keeping (key : ObjectKey) (made : Option ObjectKey) (fetched : Option (Domain × Domain))
    (s : ApiServer) (t : Stores) : Prop extends Mirrors made s t where
  tracks : ∀ {d d'}, fetched = some (d, d') → Tracks key d d' s t.domains

section Both

variable {m : Manner} {made : Option ObjectKey} {key other : ObjectKey}
  {fetched : Option (Domain × Domain)} {s s' : ApiServer} {t : Stores}

/-- For every server that `Holds` domains and ingresses there are two stores that mirror it, by
`exists_agrees` for each kind. -/
theorem exists_mirrors (hdomains : Holds DomainSpec DomainStatus s .domain)
    (hingresses : Holds (Option IngressSpec) IngressStatus s .ingress) :
    ∃ t : Stores, Mirrors none s t := by
  obtain ⟨ds, hds⟩ := exists_agrees hdomains
  obtain ⟨is, his⟩ := exists_agrees hingresses
  exact ⟨{ domains := ds, ingresses := is }, hds, his⟩

/-- A server without objects and empty stores mirror each other. -/
lemma mirrors_empty {used : List String} {sent : List Json} :
    Mirrors none ⟨fun _ => .empty, used, sent⟩ {} :=
  ⟨⟨MemoryStore.valid_empty, fun _ => .absent⟩, ⟨MemoryStore.valid_empty, fun _ => .absent⟩⟩

/-- Worlds that mirror each other are `Keeping` at the beginning of a pass, when nothing is
fetched. -/
lemma Mirrors.keeping (h : Mirrors made s t) (key : ObjectKey) : Keeping key made none s t :=
  ⟨h, nofun⟩

/-- Worlds that mirror each other in every `uid` do so if one of them may differ. -/
lemma Mirrors.weaken (h : Mirrors none s t) (made : Option ObjectKey) : Mirrors made s t :=
  ⟨h.domains, h.ingresses.weaken made⟩

/-- Worlds that are `Keeping` with every `uid` the same are so if one of them may differ. -/
lemma Keeping.weaken (h : Keeping key none fetched s t) (made : Option ObjectKey) :
    Keeping key made fetched s t :=
  ⟨h.toMirrors.weaken made, h.tracks⟩

/-- Worlds that are `Keeping` remain so when what was `fetched` is forgotten. -/
lemma Keeping.forget (h : Keeping key made fetched s t) : Keeping key made none s t :=
  h.toMirrors.keeping key

/-- **A turn of the domains keeps the worlds of a pass**: they agree by `Turn.agrees`, and what was
fetched is tracked by `Turn.tracks`. -/
theorem Keeping.domains_turn {ts : DomainStore} (h : Keeping key made fetched s t)
    (hturn : Turn m .domain none other s t.domains s' ts) :
    Keeping key made fetched s' { t with domains := ts } where
  domains := hturn.agrees h.domains
  ingresses := h.ingresses.congr (fun _ => hturn.get?_of_ne (.inl nofun)) hturn.used_subset
  tracks hd := hturn.tracks (h.tracks hd)

/-- **A turn of the ingresses keeps the worlds of a pass**: they agree by `Turn.agrees`, and the
domains are left alone. -/
theorem Keeping.ingresses_turn {ts : IngressStore} (h : Keeping key made fetched s t)
    (hturn : Turn m .ingress made other s t.ingresses s' ts) :
    Keeping key made fetched s' { t with ingresses := ts } where
  domains := h.domains.congr (fun _ => hturn.get?_of_ne (.inl nofun)) hturn.used_subset
  ingresses := hturn.agrees h.ingresses
  tracks hd := (h.tracks hd).congr (hturn.get?_of_ne (.inl nofun)) hturn.used_subset rfl le_rfl

/-- Another value that the server sent does not matter to worlds that are `Keeping`. -/
lemma Keeping.sending (h : Keeping key made fetched s t) (v : Json) :
    Keeping key made fetched (s.sending v) t where
  domains := h.domains.congr (fun _ => rfl) (List.Subset.refl _)
  ingresses := h.ingresses.congr (fun _ => rfl) (List.Subset.refl _)
  tracks hd := (h.tracks hd).congr rfl (List.Subset.refl _) rfl le_rfl

/-- Another identity or version that the server gave does not matter to worlds that are
`Keeping`. -/
lemma Keeping.giving (h : Keeping key made fetched s t) (u : String) :
    Keeping key made fetched (s.giving u) t where
  domains := h.domains.congr (fun _ => rfl) (List.subset_cons_self _ _)
  ingresses := h.ingresses.congr (fun _ => rfl) (List.subset_cons_self _ _)
  tracks hd := (h.tracks hd).congr rfl (List.subset_cons_self _ _) rfl le_rfl

end Both

/-! ### Other clients -/

/-- What another client does under a key: it puts the object `v` there, writes once more what is
there, or removes it. -/
inductive Change
  | put (v : Json)
  | touch
  | remove

namespace Change

section Kinds

variable {Spec Status : Type} [Manifest (Resource Spec Status)]

/-- What the change does to a server, of whatever version there is under the key: the object gets a
fresh version, or goes. -/
def onServer (m : Manner) (k : Kind) (key : ObjectKey) (s : ApiServer) : Change → ApiServer
  | .put v => m.store s k key v
  | .touch => match s.get? k key with
    | none => s
    | some v => m.store s k key v
  | .remove => s.remove k key

/-- The write that makes the same change to a store in memory, if there is anything to write:
`insert`, `bump` or `delete`. -/
def write? (key : ObjectKey) (t : MemoryStore Spec Status) :
    Change → Option (MemoryStore.Write Spec Status)
  | .put v => (Manifest.decode (.ofJson v)).toOption.map .insert
  | .touch => some (.bump key)
  | .remove => (t.get key).map .delete

/-- What the change does to a store in memory, by `write?`. -/
def inMemory (key : ObjectKey) (t : MemoryStore Spec Status) (c : Change) :
    MemoryStore Spec Status :=
  match c.write? key t with
  | none => t
  | some w => (w.perform t).2

variable (Spec Status) in
/-- The change is one that other clients can make to a valid collection: an object that is `put`
under `key` is of the kind, names that key, and has a `uid`. -/
def Sound (key : ObjectKey) : Change → Prop
  | .put v => ∃ r : Resource Spec Status, Shows v key r ∧ r.metadata.uid.isSome
  | .touch => True
  | .remove => True

variable {m : Manner} {k : Kind} {made : Option ObjectKey} {key : ObjectKey} {s : ApiServer}
  {t : MemoryStore Spec Status} {c : Change}

/-- **A change of another client is a turn** of the server and the store, if it is `Sound`.

**Proof sketch.** Cases on the change. Putting an object stores it on both sides. Touching one
stores what both sides hold, which is the same by `Agrees.held`, or does nothing where there is
nothing. Removing takes away what is there, if anything is. -/
theorem turn (hc : c.Sound Spec Status key) (h : Agrees k made s t) (m : Manner) :
    Turn m k made key s t (c.onServer m k key s) (c.inMemory key t) := by
  have hheld := h.held key
  cases c with
  | put v =>
    obtain ⟨r, shows, uid⟩ := hc
    have hput : inMemory key t (.put v) = t.put key r := by
      simp [inMemory, write?, shows.decode_eq, Except.toOption, MemoryStore.Write.perform,
        MemoryStore.insert, shows.key?_eq]
    rw [hput]
    exact .stored shows uid rfl (fun _ => rfl) ⟨rfl, rfl⟩
  | touch =>
    simp only [onServer, inMemory, write?, MemoryStore.Write.perform, MemoryStore.bump]
    -- both sides hold the object or neither does
    generalize s.get? k key = o, t.get key = o' at hheld
    cases hheld with
    | absent => exact .none
    | present shows _ _ uid same kept => exact .stored shows uid same kept ⟨rfl, rfl⟩
  | remove =>
    cases ht : t.get key with
    | none =>
      have hsame : inMemory key t .remove = t := by simp [inMemory, write?, ht]
      rw [hsame]
      exact .removed ht (fun _ => rfl) rfl
    | some r =>
      have herase : inMemory key t .remove = { t with
          objects := t.objects.erase key
          writes := { t.writes with deletes := t.writes.deletes + 1 } } := by
        simp [inMemory, write?, ht, MemoryStore.Write.perform,
          MemoryStore.delete_of_uid_eq (h.valid.key_eq ht) ht fun _ => rfl]
      rw [herase]
      exact .erased ⟨rfl, rfl⟩

end Kinds

end Change

/-- A change of another client under the key of an object of a kind. -/
structure Act where
  kind : Kind
  key : ObjectKey
  change : Change

namespace Act

/-- What the act does to a server. -/
def onServer (m : Manner) (s : ApiServer) (a : Act) : ApiServer :=
  a.change.onServer m a.kind a.key s

/-- What the act does to two stores in memory: to the domains or to the ingresses, by its kind. -/
def inMemory (t : Stores) (a : Act) : Stores :=
  match a.kind with
  | .domain => { t with domains := a.change.inMemory a.key t.domains }
  | .ingress => { t with ingresses := a.change.inMemory a.key t.ingresses }

/-- The change of the act is `Sound` for objects of its kind. -/
def Sound (a : Act) : Prop :=
  match a.kind with
  | .domain => a.change.Sound DomainSpec DomainStatus a.key
  | .ingress => a.change.Sound (Option IngressSpec) IngressStatus a.key

end Act

variable {made : Option ObjectKey} {key : ObjectKey} {fetched : Option (Domain × Domain)}
  {s : ApiServer} {t : Stores}

/-- Worlds that are `Keeping` stay so after a `Sound` act of another client, since its change is a
turn of the domains or of the ingresses. -/
theorem Keeping.act (h : Keeping key made fetched s t) (m : Manner) {a : Act} (ha : a.Sound) :
    Keeping key made fetched (a.onServer m s) (a.inMemory t) := by
  obtain ⟨k, other, c⟩ := a
  cases k with
  | domain => exact h.domains_turn (Change.turn ha h.domains m)
  | ingress => exact h.ingresses_turn (Change.turn ha h.ingresses m)

/-- **Other clients keep the worlds of a pass**, whatever list of `Sound` acts they do, by induction
on the list. -/
theorem Keeping.acts (h : Keeping key made fetched s t) (m : Manner) {as : List Act}
    (has : ∀ a ∈ as, a.Sound) :
    Keeping key made fetched (as.foldl (Act.onServer m) s) (as.foldl Act.inMemory t) := by
  induction as generalizing s t with
  | nil => exact h
  | cons a as ih =>
    rw [List.forall_mem_cons] at has
    exact ih (h.act m has.1) has.2

end ApiServer

end MailDomain
