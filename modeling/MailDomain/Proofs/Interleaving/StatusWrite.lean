import MailDomain.Proofs.Interleaving.System
import MailDomain.Proofs.Pass.Stores

/-!
# Status writes beside other writers

Any number of passes share a store of domains with other clients, who write to it whatever and
whenever they like. The store gives no version twice, so that a status write succeeds only if
nobody wrote under its key since the domain was fetched.

## Main definitions

* `domainRules` — the store of domains, shared with other clients.
* `written?` — the key under which an event wrote.
* `StatusWritten`, `StatusRefused` — how a status write ends.

## Main results

* `Step.exists_written` — an event makes a mutation under the key that it wrote under.
* `status_written_or_refused` — a status write goes through exactly if nobody wrote under the key
  since the fetch, and then changes nothing but the status and the version.
-/

set_option relaxedAutoImplicit false
set_option autoImplicit false

namespace MailDomain.System

open Protocol MemoryStore

/-- The store of domains as a world that passes share with other clients. Of the calls of passes,
those that read or write domains are answered by the store, and the others in any way. The others
may do the mutation that any `Write` makes. -/
def domainRules : Rules DomainStore (Mutation DomainSpec DomainStatus) where
  answers
    | .fetchDomain key => fun s a t => a = .ok (s.get key) ∧ t = s
    | .writeStatus d => fun s a t => (a, t) = s.updateStatus d
    | _ => fun s _ t => t = s
  others c s t := ∃ w : Write DomainSpec DomainStatus, c = w.mutation s ∧ t = (w.perform s).2

variable {ι : Type}

/-- The key under which the event changed the store of domains: that of a status write that
succeeded, or of the mutation by others. -/
def written? : Event ι (Mutation DomainSpec DomainStatus) → Option ObjectKey
  | .deed _ (.asked (.writeStatus d) (.ok _)) => d.key?
  | .deed _ _ => none
  | .other c => c.key?

variable {α : Type} [DecidableEq ι] {s t : State DomainStore ι α}
  {e : Event ι (Mutation DomainSpec DomainStatus)} {key : ObjectKey}

/-- Every event makes a `Mutation` of the store of domains, under the key `written?`, and under none
if this is `none`. -/
theorem Step.exists_written (hstep : Step domainRules s e t) :
    ∃ c : Mutation DomainSpec DomainStatus,
      c.Makes s.shared t.shared ∧ c.Fits s.shared ∧ c.key? = written? e := by
  cases hstep with
  | @asked s t plans i c next a _ ha =>
    cases c with
    | fetchDomain key => exact ⟨.nothing, ha.2, trivial, rfl⟩
    | check c d => exact ⟨.nothing, ha, trivial, rfl⟩
    | fetchIngress key => exact ⟨.nothing, ha, trivial, rfl⟩
    | createIngress i => exact ⟨.nothing, ha, trivial, rfl⟩
    | deleteIngress i => exact ⟨.nothing, ha, trivial, rfl⟩
    | writeStatus d =>
      have hwrite : s.updateStatus d = (a, t) := Eq.symm ha
      cases a with
      | ok _ =>
        obtain ⟨hmakes, hfits⟩ := Write.makes s (.updateStatus d)
        rw [Write.perform, hwrite] at hmakes
        exact ⟨_, hmakes, hfits, Write.key?_mutation_updateStatus hwrite⟩
      | error e => exact ⟨.nothing, updateStatus_error hwrite, trivial, rfl⟩
  | noted _ => exact ⟨.nothing, rfl, trivial, rfl⟩
  | other hw =>
    obtain ⟨w, rfl, rfl⟩ := hw
    exact ⟨_, (w.makes _).1, (w.makes _).2, rfl⟩

/-- Every event leaves a store `Valid`. -/
lemma Step.valid (hstep : Step domainRules s e t) (hs : s.shared.Valid) : t.shared.Valid := by
  obtain ⟨c, hmakes, hfits, -⟩ := hstep.exists_written
  exact hmakes.valid hfits hs

/-- An event with another key for its `written?` leaves the domain under `key`. -/
lemma Step.get_of_written?_ne (hstep : Step domainRules s e t) (he : written? e ≠ some key) :
    t.shared.get key = s.shared.get key := by
  obtain ⟨c, hmakes, -, hkey⟩ := hstep.exists_written
  exact hmakes.get_of_ne (hkey ▸ he)

variable {es : List (Event ι (Mutation DomainSpec DomainStatus))}

/-- A run leaves a store `Valid`. -/
lemma Run.valid (hrun : Run domainRules s es t) (hs : s.shared.Valid) : t.shared.Valid :=
  hrun.invariant (Q := fun _ => True) (fun hstep _ => hstep.valid) (fun _ _ => trivial) hs

/-- A run in which no event has `key` for its `written?` leaves the domain under `key`. -/
lemma Run.get_of_unwritten (hrun : Run domainRules s es t)
    (hes : ∀ e ∈ es, written? e ≠ some key) : t.shared.get key = s.shared.get key :=
  hrun.invariant (P := fun u => u.get key = s.shared.get key)
    (fun hstep he hs => (hstep.get_of_written?_ne he).trans hs) hes rfl

/-- After a run in which some event has `key` for its `written?`, the domain under `key`, if there
is one, does not have a version that was `Issued` before the run.

**Proof sketch.** By `Run.once`: such an event leaves a new version or nothing, every other event
under the key does so as well, and an event that writes elsewhere changes nothing there. -/
lemma Run.version_ne_of_written (hrun : Run domainRules s es t) {ver : Option String}
    (hver : s.shared.Issued ver) (hes : ∃ e ∈ es, written? e = some key) :
    ∀ r, t.shared.get key = some r → r.metadata.resourceVersion ≠ ver := by
  refine hrun.once (P := fun u => u.Issued ver)
    (R := fun u => ∀ r, u.get key = some r → r.metadata.resourceVersion ≠ ver) ?_ ?_ ?_ hes hver
  · intro s t e hstep hissued
    obtain ⟨c, hmakes, -⟩ := hstep.exists_written
    exact hissued.mono hmakes.version_le
  · intro s t e hstep he hissued r hr
    obtain ⟨c, hmakes, -, hkey⟩ := hstep.exists_written
    exact hmakes.version_ne (hkey.trans he) hissued hr
  · intro s t e hstep he _ hne r hr
    rw [hstep.get_of_written?_ne he] at hr
    exact hne r hr

/-! ### The status write of a pass -/

/-- A status write that went through: what was stored is the domain `d` itself, and nothing of it
changed but its version and its status, which has the flags `f` for the generation of `d`. -/
structure StatusWritten (key : ObjectKey) (d : Domain) (f : DnsStatus) (a : Except StoreError Unit)
    (s t : DomainStore) : Prop where
  answer : a = .ok ()
  current : s.get key = some d
  stored : ∃ ver, t.get key = some { d with
    metadata := { d.metadata with resourceVersion := ver }
    status := some ⟨f, d.metadata.generation⟩ }
  others : ∀ k, k ≠ key → t.get k = s.get k

/-- A status write that was refused: the store stays as it was, and the pass ends in the stage
`persistStatus`, with a conflict if there is a domain under the key and with `notFound` if there is
none. -/
structure StatusRefused (key : ObjectKey) (a : Except StoreError Unit) (s t : DomainStore)
    (p : Plan (Except PassError Outcome)) : Prop where
  unchanged : t = s
  failed : ∃ e, a = .error e ∧ p = .done (.error (.store key .persistStatus e)) ∧
    ((s.get key).isSome → ∃ reason, e = .conflict Kind.domain.name key reason) ∧
    (s.get key = none → e = .notFound Kind.domain.name key)

variable {u : Domain} {a : Except StoreError Unit}

/-- Writing the status of the domain that is stored, as it is stored, goes through. -/
lemma statusWritten_of_current {s t : DomainStore} {d : Domain} {f : DnsStatus} (hs : s.Valid)
    (hd : s.get key = some d) (hwrite : (a, t) = s.updateStatus (judged d f)) :
    StatusWritten key d f a s t := by
  have hkey : (judged d f).key? = some key := (hs.key_eq hd : d.key? = some key)
  rw [updateStatus_of_current hkey hd rfl] at hwrite
  cases hwrite
  refine ⟨rfl, hd, ⟨some (toString (s.version + 1)), ?_⟩, fun k hk => ?_⟩
  · rw [← stamped_judged (hs.uid_isSome hd)]
    exact Table.get?_insert_self _ _ _
  · exact Table.get?_insert_of_ne hk _ _

/-- Writing a domain whose version is not the stored one, or where none is stored, is refused. -/
lemma statusRefused_of_stale {s t : DomainStore} {p : Plan (Except PassError Outcome)}
    (hkey : u.key? = some key)
    (hne : ∀ r, s.get key = some r → r.metadata.resourceVersion ≠ u.metadata.resourceVersion)
    (hwrite : (a, t) = s.updateStatus u)
    (hp : ∀ e, a = .error e → p = .done (.error (.store key .persistStatus e))) :
    StatusRefused key a s t p := by
  cases hs : s.get key with
  | none =>
    rw [updateStatus_of_vacant hkey hs] at hwrite
    cases hwrite
    exact ⟨rfl, _, rfl, hp _ rfl, by simp [hs], fun _ => rfl⟩
  | some r =>
    rw [updateStatus_of_stale hkey hs (hne r hs)] at hwrite
    cases hwrite
    exact ⟨rfl, _, rfl, hp _ rfl, fun _ => ⟨_, rfl⟩, by simp [hs]⟩

/-- **A status write goes through exactly if nobody wrote the domain since it was fetched.** Any
number of passes run beside one another, while other clients act as they like, from an empty store
on. When a pass writes a status, then it writes the flags of checks that were made for the very
domain that it fetched. Either no event since then has its key for its `written?`: the write goes
through, and nothing of the domain changes but its status and its version. Or some event does: the
write is refused, the store stays as it is, and the pass has failed.

**Proof sketch.** The protocol `reconcile_upholds` says what the pass did before. Part the events at
its fetch, which found what was stored then. If nobody wrote under the key, that is what is stored
still, by `Run.get_of_unwritten`, and `statusWritten_of_current` applies. If somebody did, nothing
of its version is stored any more, by `Run.version_ne_of_written`, and `statusRefused_of_stale`
applies. -/
theorem status_written_or_refused (config : ι → PassConfig) (keys : ι → ObjectKey)
    {es : List (Event ι (Mutation DomainSpec DomainStatus))}
    {s t : State DomainStore ι (Except PassError Outcome)} {i : ι} {u : Domain}
    {a : Except StoreError Unit}
    (hrun : Run domainRules ⟨{}, fun i => (reconcile (config i) (keys i)).run⟩ es s)
    (hstep : Step domainRules s (.deed i (.asked (.writeStatus u) a)) t) :
    ∃ d f before after, es = before ++ .deed i (fetched (keys i) (some d)) :: after ∧
      (∀ c, .deed i (.asked (.check c d) (.ok (f.flag c))) ∈ after) ∧
      u = d.withStatus (some ⟨f, d.metadata.generation⟩) ∧
      (((∀ e ∈ after, written? e ≠ some (keys i)) ∧
          StatusWritten (keys i) d f a s.shared t.shared) ∨
        ((∃ e ∈ after, written? e = some (keys i)) ∧
          StatusRefused (keys i) a s.shared t.shared (t.plans i))) := by
  have hupholds := (reconcile_upholds (config i) (keys i)).of_follows (hrun.follows i)
  rw [List.nil_append] at hupholds
  obtain ⟨next, hplan, hleft, hwrite⟩ := hstep.of_asked
  rw [hplan] at hupholds
  obtain ⟨hdoes, hnext⟩ := hupholds
  -- what the pass did before, and where it fetched the domain
  obtain ⟨d, f, h, r, hdeeds, hends, rfl⟩ := hdoes.of_writeStatus
  obtain ⟨before, after, s₁, s₂, rfl, hafter, hbefore, ⟨hfound, hsame⟩, hrest⟩ :=
    hrun.of_deedsOf_eq_cons hdeeds
  have hs₂ : s₂.shared.Valid := by
    rw [hsame]
    exact hbefore.valid valid_empty
  have hd : s₂.shared.get (keys i) = some d := by
    rw [hsame]
    exact (Except.ok.inj hfound).symm
  refine ⟨d, f, before, after, rfl, fun c => ?_, rfl, ?_⟩
  · apply mem_of_mem_deedsOf
    rw [hafter]
    cases c <;> simp [allAnswered, answered, DnsStatus.flag]
  -- either nobody wrote under the key since then, or somebody did
  by_cases hunwritten : ∀ e ∈ after, written? e ≠ some (keys i)
  · refine .inl ⟨hunwritten, statusWritten_of_current (hrest.valid hs₂) ?_ hwrite⟩
    exact (hrest.get_of_unwritten hunwritten).trans hd
  · push Not at hunwritten
    refine .inr ⟨hunwritten, ?_⟩
    have hstale := hrest.version_ne_of_written (hs₂.issued hd) hunwritten
    have hkey : d.key? = some (keys i) := hs₂.key_eq hd
    refine statusRefused_of_stale (u := judged d f) hkey hstale hwrite ?_
    rintro e rfl
    obtain ⟨r, hr, hend⟩ := (hnext (.error e)).eq_done fun _ => not_passDoes_of_writeStatus
    rw [hleft, hr, hend.of_writeStatus_error]

/-- Another client writes a domain anew after a pass fetched it: the pass fails at a conflict. -/
theorem status_refused_after_bump :
    let key : ObjectKey := ⟨"mail", "acme"⟩
    let d : Domain := {
      metadata := {
        name := some "acme", ns := some "mail", resourceVersion := some "1", uid := some "uid-1" }
      spec := { baseDomain := "acme.example", dkim := ⟨"s1", "key"⟩ } }
    let u := judged d ⟨true, false, true⟩
    let es : List (Event Unit (Mutation DomainSpec DomainStatus)) :=
      .other (.added key d) :: (fetched key (some d) :: allAnswered d ⟨true, false, true⟩ ++
        [lookedUp key none]).map (.deed ()) ++ [.other (.rewritten key d)]
    let a : Except StoreError Unit :=
      .error (.conflict "Domain" key (staleReason (some "1") (some "2")))
    ∃ s t : State DomainStore Unit (Except PassError Outcome),
      Run domainRules ⟨{}, fun _ => (reconcile {} key).run⟩ es s ∧
        Step domainRules s (.deed () (.asked (.writeStatus u) a)) t ∧
        StatusRefused key a s.shared t.shared (t.plans ()) := by
  intro key d u es a
  have hrun : ∃ s : State DomainStore Unit (Except PassError Outcome),
      Run domainRules ⟨{}, fun _ => (reconcile {} key).run⟩ es s ∧
        s.shared.get key = some (stamped d 2) ∧ ∃ next, s.plans () = .ask (.writeStatus u) next :=
    ⟨_, .cons (.other ⟨.insert d, rfl, rfl⟩) <| .cons (.asked rfl ⟨rfl, rfl⟩) <|
      .cons (.asked rfl rfl) <| .cons (.noted rfl) <| .cons (.asked rfl rfl) <|
      .cons (.noted rfl) <| .cons (.asked rfl rfl) <| .cons (.noted rfl) <|
      .cons (.asked rfl rfl) <| .cons (.other ⟨.bump key, rfl, rfl⟩) <| .nil _, rfl, _, rfl⟩
  obtain ⟨s, hrun, hs, next, hnext⟩ := hrun
  have hwrite : s.shared.updateStatus u = (a, s.shared) := updateStatus_of_stale rfl hs (by decide)
  have hstep : Step domainRules s (.deed () (.asked (.writeStatus u) a))
      ⟨s.shared, Function.update s.plans () (next a)⟩ := .asked hnext hwrite.symm
  refine ⟨s, _, hrun, hstep, ?_⟩
  obtain ⟨d', f, before, after, -, -, -, ⟨-, hwritten⟩ | ⟨-, hrefused⟩⟩ :=
    status_written_or_refused (fun _ => {}) (fun _ => key) hrun hstep
  · exact absurd hwritten.answer nofun
  · exact hrefused

end MailDomain.System
