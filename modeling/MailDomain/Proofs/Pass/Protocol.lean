import MailDomain.Proofs.Pass.Story

/-!
# The protocol of a pass

Which call a pass makes after which story, and how it ends after which story. The protocol is put
together from those of the three checks and of the stats ingress in the way in which the pass is.

## Main definitions

* `Protocol.CheckDoes`, `Protocol.CheckEnds` — one check.
* `Protocol.ChecksDo`, `Protocol.ChecksEnd` — the three checks, up to the first without an answer.
* `Protocol.ConvergeDoes`, `Protocol.ConvergeEnds` — the stats ingress.
* `Protocol.PassDoes`, `Protocol.PassEnds` — the whole pass.

## Main results

* `runCheck_upholds`, `checkDns_upholds`, `convergeIngress_upholds`, `reconcile_upholds` — each
  keeps to its protocol, whatever it is answered.
-/

set_option relaxedAutoImplicit false
set_option autoImplicit false

namespace MailDomain

namespace Pass

variable {α : Type} {does : List Deed → Move → Prop} {ends : List Deed → Except PassError α → Prop}
  {h : List Deed}

/-- A pass that begins with the call `c` keeps to a protocol after `h` exactly if `does` allows `c`
there and each continuation `f a` keeps to it after `h` and the answer `a`. This and the three
lemmas below are all that the proofs of `runCheck_upholds` and its like need of `Plan.Upholds`. -/
lemma upholds_ask {c : Call} {f : c.Answer → Pass α} :
    (Pass.ask c >>= f).run.Upholds does ends h ↔
      does h (.ask c) ∧ ∀ a, (f a).run.Upholds does ends (h ++ [.asked c a]) := Iff.rfl

/-- A pass that begins with the observation `o` keeps to a protocol exactly if `does` allows `o` and
the rest keeps to it afterwards. -/
lemma upholds_observe {o : Observation} {f : Unit → Pass α} :
    (Pass.observe o >>= f).run.Upholds does ends h ↔
      does h (.note o) ∧ (f ()).run.Upholds does ends (h ++ [.noted o]) := Iff.rfl

/-- A pass that returns `a` keeps to a protocol exactly if `ends` allows `.ok a` after the story. -/
lemma upholds_pure {a : α} : (pure a : Pass α).run.Upholds does ends h ↔ ends h (.ok a) := Iff.rfl

/-- A pass that fails with `e` keeps to a protocol exactly if `ends` allows `.error e` after the
story. -/
lemma upholds_throw {e : PassError} :
    (throw e : Pass α).run.Upholds does ends h ↔ ends h (.error e) := Iff.rfl

end Pass

/-! ### Checks -/

/-- The flag of a status that belongs to the check `c`. -/
def DnsStatus.flag (f : DnsStatus) : Check → Bool
  | .dkim => f.dkim
  | .stats => f.stats
  | .spf => f.spf

namespace Protocol

/-- The story of a check `c` that was answered with `passed`: the call, and then the observation
that counts its outcome. -/
def answered (d : Domain) (c : Check) (passed : Bool) : List Deed :=
  [.asked (.check c d) (.ok passed), .noted (.checked c.label (.ofFlag passed))]

/-- The story of a check `c` that failed with `e`: the call, and then the observation that counts an
error. -/
def unanswered (d : Domain) (c : Check) (e : ProbeError) : List Deed :=
  [.asked (.check c d) (.error e), .noted (.checked c.label .error)]

/-- What `runCheck key d c` does: it asks for the check first, and then counts its answer, whatever
that was. -/
inductive CheckDoes (d : Domain) (c : Check) : List Deed → Move → Prop
  | ask : CheckDoes d c [] (.ask (.check c d))
  | count (passed : Bool) :
      CheckDoes d c [.asked (.check c d) (.ok passed)] (.note (.checked c.label (.ofFlag passed)))
  | countError (e : ProbeError) :
      CheckDoes d c [.asked (.check c d) (.error e)] (.note (.checked c.label .error))

/-- How `runCheck key d c` ends: with the flag that the check was answered with, or with its failure
`e` as `PassError.probe key c e`. -/
inductive CheckEnds (key : ObjectKey) (d : Domain) (c : Check) :
    List Deed → Except PassError Bool → Prop
  | answered (passed : Bool) : CheckEnds key d c (answered d c passed) (.ok passed)
  | unanswered (e : ProbeError) : CheckEnds key d c (unanswered d c e) (.error (.probe key c e))

/-- What `checkDns key d` does: the moves of the check for the key record, then those of the check
for the stats record, and last those of the check for the policy. A later check comes only after all
earlier ones were answered. -/
inductive ChecksDo (d : Domain) : List Deed → Move → Prop
  | dkim {h : List Deed} {m : Move} : CheckDoes d .dkim h m → ChecksDo d h m
  | stats {h : List Deed} {m : Move} (dkim : Bool) :
      CheckDoes d .stats h m → ChecksDo d (answered d .dkim dkim ++ h) m
  | spf {h : List Deed} {m : Move} (dkim stats : Bool) :
      CheckDoes d .spf h m →
        ChecksDo d (answered d .dkim dkim ++ (answered d .stats stats ++ h)) m

/-- The story of three checks that were answered with the flags of `s`, in their order. -/
def allAnswered (d : Domain) (s : DnsStatus) : List Deed :=
  answered d .dkim s.dkim ++ (answered d .stats s.stats ++ answered d .spf s.spf)

/-- How `checkDns key d` ends: with the three flags, or with the failure of the first check that was
not answered, after which there is no further check. -/
inductive ChecksEnd (key : ObjectKey) (d : Domain) : List Deed → Except PassError DnsStatus → Prop
  | answered (s : DnsStatus) : ChecksEnd key d (allAnswered d s) (.ok s)
  | dkim (e : ProbeError) : ChecksEnd key d (unanswered d .dkim e) (.error (.probe key .dkim e))
  | stats (dkim : Bool) (e : ProbeError) :
      ChecksEnd key d (Protocol.answered d .dkim dkim ++ unanswered d .stats e)
        (.error (.probe key .stats e))
  | spf (dkim stats : Bool) (e : ProbeError) :
      ChecksEnd key d
        (Protocol.answered d .dkim dkim ++
          (Protocol.answered d .stats stats ++ unanswered d .spf e))
        (.error (.probe key .spf e))

end Protocol

open Protocol

/-- One check keeps to its protocol: every story of `runCheck key d c` is one of `CheckDoes` and
`CheckEnds`. -/
theorem runCheck_upholds (key : ObjectKey) (d : Domain) (c : Check) :
    (runCheck key d c).run.Upholds (CheckDoes d c) (CheckEnds key d c) [] := by
  refine Pass.upholds_ask.2 ⟨.ask, fun a => ?_⟩
  cases a with
  | ok passed =>
    exact Pass.upholds_observe.2 ⟨.count passed, Pass.upholds_pure.2 (.answered passed)⟩
  | error e => exact Pass.upholds_observe.2 ⟨.countError e, Pass.upholds_throw.2 (.unanswered e)⟩

/-- The three checks keep to their protocol. **Proof sketch.** `Pass.upholds_bind` for each check,
with `runCheck_upholds`; the constructors of `ChecksDo` and `ChecksEnd` add the stories of the
earlier checks in front. -/
theorem checkDns_upholds (key : ObjectKey) (d : Domain) :
    (checkDns key d).run.Upholds (ChecksDo d) (ChecksEnd key d) [] := by
  refine Pass.upholds_bind (runCheck_upholds key d .dkim) (fun _ _ => .dkim) ?_ ?_
  · rintro _ _ ⟨⟩
    exact .dkim _
  intro _ dkim hdkim
  cases hdkim
  refine Pass.upholds_bind (runCheck_upholds key d .stats) (fun _ _ => .stats dkim) ?_ ?_
  · rintro _ _ ⟨⟩
    exact .stats dkim _
  intro _ stats hstats
  cases hstats
  refine Pass.upholds_bind (runCheck_upholds key d .spf) (fun h m hm => ?_) ?_ ?_
  · rw [List.nil_append, List.append_assoc]
    exact .spf dkim stats hm
  · rintro _ _ ⟨⟩
    rw [List.nil_append, List.append_assoc]
    exact .spf dkim stats _
  · intro _ spf hspf
    cases hspf
    rw [List.nil_append, List.append_assoc]
    exact Pass.upholds_pure.2 (.answered ⟨dkim, stats, spf⟩)

/-! ### The stats ingress -/

/-- The ingress that `StatsIngress.build` makes for the domain under `key` lies under `keyOf key`,
whatever the name in the metadata of the domain is. -/
lemma StatsIngress.key?_build {key : ObjectKey} {d : Domain} {backend : StatsBackend} {i : Ingress}
    (h : StatsIngress.build key d backend = .ok i) : i.key? = some (StatsIngress.keyOf key) := by
  unfold StatsIngress.build at h
  split at h
  · cases h
  · cases h
    rfl

/-- For a domain with an identity `StatsIngress.build` never fails. Only a missing identity makes it
fail, since there is nothing then that an owner reference could name. -/
lemma StatsIngress.build_ne_error {key : ObjectKey} {d : Domain} {backend : StatsBackend}
    {e : PassError} (hd : d.metadata.uid.isSome) : StatsIngress.build key d backend ≠ .error e := by
  obtain ⟨u, hu⟩ := Option.isSome_iff_exists.1 hd
  simp [StatsIngress.build, StatsIngress.ownerOf?, hu]

namespace Protocol

variable (backend : StatsBackend) (key : ObjectKey) (d : Domain) (s : DnsStatus)

/-- The call that looks for the ingress of the domain under `key`, answered with `found`. -/
def lookedUp (found : Option Ingress) : Deed :=
  .asked (.fetchIngress (StatsIngress.keyOf key)) (.ok found)

/-- What holds of an ingress `i` that `convergeIngress` deletes for the domain `d` with the flags
`s`: nothing but `d` manages it, the stats check did not pass, and `i` is not being deleted
already. -/
structure Removable (i : Ingress) : Prop where
  owned : StatsIngress.ownedByOther i d = false
  unwanted : s.stats = false
  present : i.metadata.deletionTimestamp = none

/-- What `convergeIngress backend key d s` does. The look-up comes first. What was found is deleted
if it is `Removable`; if nothing was found and the stats check passed, what `StatsIngress.build`
makes is created. Only a write that succeeded is counted. -/
inductive ConvergeDoes : List Deed → Move → Prop
  | lookUp : ConvergeDoes [] (.ask (.fetchIngress (StatsIngress.keyOf key)))
  | delete {i : Ingress} : Removable d s i →
      ConvergeDoes [lookedUp key (some i)] (.ask (.deleteIngress i))
  | countDeleted {i : Ingress} : Removable d s i →
      ConvergeDoes [lookedUp key (some i), .asked (.deleteIngress i) (.ok ())]
        (.note (.deleted Kind.ingress.name))
  | create {i : Ingress} : s.stats = true → StatsIngress.build key d backend = .ok i →
      ConvergeDoes [lookedUp key none] (.ask (.createIngress i))
  | countCreated {i : Ingress} : s.stats = true → StatsIngress.build key d backend = .ok i →
      ConvergeDoes [lookedUp key none, .asked (.createIngress i) (.ok ())]
        (.note (.created Kind.ingress.name))

/-- The failure of a pass that finds under the name of its ingress one that something else
manages. -/
def foreignError : PassError :=
  .invariant key .convergeIngress
    ("Ingress " ++ (StatsIngress.keyOf key).text ++ " is controlled by another object")

/-- How `convergeIngress backend key d s` ends, with one constructor for each branch: three after
the look-up alone because of what was found, three after a deletion, and the rest where nothing was
found or the look-up failed. -/
inductive ConvergeEnds : List Deed → Except PassError IngressAction → Prop
  | unread (e : StoreError) :
      ConvergeEnds [.asked (.fetchIngress (StatsIngress.keyOf key)) (.error e)]
        (.error (.store key .convergeIngress e))
  | foreign {i : Ingress} : StatsIngress.ownedByOther i d = true →
      ConvergeEnds [lookedUp key (some i)] (.error (foreignError key))
  | kept {i : Ingress} : StatsIngress.ownedByOther i d = false → s.stats = true →
      ConvergeEnds [lookedUp key (some i)] (.ok .unchanged)
  | pending {i : Ingress} : StatsIngress.ownedByOther i d = false → s.stats = false →
      i.metadata.deletionTimestamp.isSome →
      ConvergeEnds [lookedUp key (some i)] (.ok .deletionPending)
  | deleted {i : Ingress} : Removable d s i →
      ConvergeEnds [lookedUp key (some i), .asked (.deleteIngress i) (.ok ()),
        .noted (.deleted Kind.ingress.name)] (.ok .deleted)
  | vanished {i : Ingress} {e : StoreError} : Removable d s i → e.isNotFound = true →
      ConvergeEnds [lookedUp key (some i), .asked (.deleteIngress i) (.error e)] (.ok .deleted)
  | undeleted {i : Ingress} {e : StoreError} : Removable d s i → e.isNotFound = false →
      ConvergeEnds [lookedUp key (some i), .asked (.deleteIngress i) (.error e)]
        (.error (.store key .convergeIngress e))
  | absent : s.stats = false → ConvergeEnds [lookedUp key none] (.ok .unchanged)
  | unbuilt {e : PassError} : s.stats = true → StatsIngress.build key d backend = .error e →
      ConvergeEnds [lookedUp key none] (.error e)
  | created {i : Ingress} : s.stats = true → StatsIngress.build key d backend = .ok i →
      ConvergeEnds [lookedUp key none, .asked (.createIngress i) (.ok ()),
        .noted (.created Kind.ingress.name)] (.ok .created)
  | uncreated {i : Ingress} {e : StoreError} : s.stats = true →
      StatsIngress.build key d backend = .ok i →
      ConvergeEnds [lookedUp key none, .asked (.createIngress i) (.error e)]
        (.error (.store key .convergeIngress e))

variable {backend key d s} {h : List Deed} {r : Except PassError IngressAction}

/-- The calls of `ConvergeDoes` with the stories before them: the look-up comes first, and then the
ingress that was found is deleted, or the one that `StatsIngress.build` makes is created if none was
found. -/
lemma ConvergeDoes.of_ask {c : Call} (hdoes : ConvergeDoes backend key d s h (.ask c)) :
    (h = [] ∧ c = .fetchIngress (StatsIngress.keyOf key)) ∨
      (∃ i, h = [lookedUp key (some i)] ∧ c = .deleteIngress i) ∨
      ∃ i, h = [lookedUp key none] ∧ c = .createIngress i ∧
        StatsIngress.build key d backend = .ok i := by
  cases hdoes with
  | lookUp => exact .inl ⟨rfl, rfl⟩
  | delete _ => exact .inr (.inl ⟨_, rfl, rfl⟩)
  | create _ hb => exact .inr (.inr ⟨_, rfl, rfl, hb⟩)

/-- The result of `convergeIngress` by the answer to its creation: an error of the store ends the
pass in the stage `convergeIngress`. -/
def afterCreation (key : ObjectKey) : Except StoreError Unit → Except PassError IngressAction
  | .ok _ => .ok .created
  | .error e => .error (.store key .convergeIngress e)

/-- The result of `convergeIngress` by the answer to its deletion: an ingress that was not found
counts as deleted, and any other error of the store ends the pass. -/
def afterDeletion (key : ObjectKey) : Except StoreError Unit → Except PassError IngressAction
  | .ok _ => .ok .deleted
  | .error e => if e.isNotFound then .ok .deleted else .error (.store key .convergeIngress e)

/-- After the creation of an ingress its answer `a` decides how `convergeIngress` ends. -/
lemma ConvergeEnds.of_createIngress {i : Ingress} {a : Except StoreError Unit}
    (hends : ConvergeEnds backend key d s
      (lookedUp key none :: .asked (.createIngress i) a :: h) r) : r = afterCreation key a := by
  generalize hg : lookedUp key none :: Deed.asked (.createIngress i) a :: h = g at hends
  cases hends with
  | created _ _ => cases hg; rfl
  | uncreated _ _ => cases hg; rfl
  | _ => simp [lookedUp] at hg

/-- After the deletion of an ingress its answer `a` decides how `convergeIngress` ends. -/
lemma ConvergeEnds.of_deleteIngress {i : Ingress} {a : Except StoreError Unit}
    (hends : ConvergeEnds backend key d s
      (lookedUp key (some i) :: .asked (.deleteIngress i) a :: h) r) : r = afterDeletion key a := by
  generalize hg : lookedUp key (some i) :: Deed.asked (.deleteIngress i) a :: h = g at hends
  cases hends with
  | deleted _ => cases hg; rfl
  | vanished _ he => cases hg; simp [afterDeletion, he]
  | undeleted _ he => cases hg; simp [afterDeletion, he]
  | _ => simp [lookedUp] at hg

/-- After two deeds there is no further call: `convergeIngress` makes at most the look-up and one
write. -/
lemma not_convergeDoes_ask {x y : Deed} {c : Call} :
    ¬ ConvergeDoes backend key d s (x :: y :: h) (.ask c) := by
  intro hdoes
  rcases hdoes.of_ask with ⟨hnil, -⟩ | ⟨i, hone, -⟩ | ⟨i, hone, -⟩
  · cases hnil
  · cases hone
  · cases hone

/-- What is left of `convergeIngress` after a creation only observes, and its verdict is
`afterCreation key a`. -/
lemma verdict?_of_createIngress {p : Plan (Except PassError IngressAction)} {i : Ingress}
    {a : Except StoreError Unit}
    (hp : p.Upholds (ConvergeDoes backend key d s) (ConvergeEnds backend key d s)
      [lookedUp key none, .asked (.createIngress i) a]) :
    p.verdict? = some (afterCreation key a) := by
  obtain ⟨r, os, hr, hends⟩ := hp.verdict?_eq_some fun _ _ => not_convergeDoes_ask
  rw [hr, hends.of_createIngress]

/-- What is left of `convergeIngress` after a deletion only observes, and its verdict is
`afterDeletion key a`. -/
lemma verdict?_of_deleteIngress {p : Plan (Except PassError IngressAction)} {i : Ingress}
    {a : Except StoreError Unit}
    (hp : p.Upholds (ConvergeDoes backend key d s) (ConvergeEnds backend key d s)
      [lookedUp key (some i), .asked (.deleteIngress i) a]) :
    p.verdict? = some (afterDeletion key a) := by
  obtain ⟨r, os, hr, hends⟩ := hp.verdict?_eq_some fun _ _ => not_convergeDoes_ask
  rw [hr, hends.of_deleteIngress]

end Protocol

/-- The removal of an ingress keeps to the protocol of `convergeIngress` from the look-up on, if
that found an ingress which is `Removable`. -/
lemma removeIngress_upholds (backend : StatsBackend) {key : ObjectKey} {d : Domain}
    {s : DnsStatus} {i : Ingress} (hi : Removable d s i) :
    (removeIngress key i).run.Upholds (ConvergeDoes backend key d s) (ConvergeEnds backend key d s)
      [lookedUp key (some i)] := by
  refine Pass.upholds_ask.2 ⟨.delete hi, fun a => ?_⟩
  cases a with
  | ok _ =>
    exact Pass.upholds_observe.2 ⟨.countDeleted hi, Pass.upholds_pure.2 (.deleted hi)⟩
  | error e =>
    dsimp only
    split
    · next h => exact Pass.upholds_pure.2 (.vanished hi h)
    · next h => exact Pass.upholds_throw.2 (.undeleted hi (Bool.not_eq_true _ ▸ h))

/-- The work on the stats ingress keeps to its protocol: `ConvergeDoes` and `ConvergeEnds` are all
that `convergeIngress` does, whatever the stores answer. -/
theorem convergeIngress_upholds (backend : StatsBackend) (key : ObjectKey) (d : Domain)
    (s : DnsStatus) :
    (convergeIngress backend key d s).run.Upholds (ConvergeDoes backend key d s)
      (ConvergeEnds backend key d s) [] := by
  refine Pass.upholds_ask.2 ⟨.lookUp, fun found => ?_⟩
  match found with
  | .error e => exact Pass.upholds_throw.2 (.unread e)
  | .ok (some i) =>
    simp only [Pass.orFail, pure_bind]
    split
    · next h => exact Pass.upholds_throw.2 (.foreign h)
    next h =>
    have owned : StatsIngress.ownedByOther i d = false := Bool.not_eq_true _ ▸ h
    split
    · next hs => exact Pass.upholds_pure.2 (.kept owned hs)
    next hs =>
    have unwanted : s.stats = false := Bool.not_eq_true _ ▸ hs
    split
    · next hi => exact Pass.upholds_pure.2 (.pending owned unwanted hi)
    · next hi =>
      exact removeIngress_upholds backend ⟨owned, unwanted, by simpa using hi⟩
  | .ok none =>
    simp only [Pass.orFail, pure_bind]
    split
    · next hs =>
      cases hb : StatsIngress.build key d backend with
      | error e => exact Pass.upholds_throw.2 (.unbuilt hs hb)
      | ok i =>
        simp only [pure_bind]
        refine Pass.upholds_ask.2 ⟨.create hs hb, fun a => ?_⟩
        cases a with
        | ok _ =>
          exact Pass.upholds_observe.2 ⟨.countCreated hs hb, Pass.upholds_pure.2 (.created hs hb)⟩
        | error e => exact Pass.upholds_throw.2 (.uncreated hs hb)
    · next hs => exact Pass.upholds_pure.2 (.absent (Bool.not_eq_true _ ▸ hs))

/-! ### The whole pass -/

namespace Protocol

variable (config : PassConfig) (key : ObjectKey)

/-- The call that fetches the domain under `key`, answered with `found`. -/
def fetched (found : Option Domain) : Deed := .asked (.fetchDomain key) (.ok found)

/-- The story of a pass up to its last check, if the domain `d` was found and the checks were
answered with the flags of `s`. All that a pass does about the ingress and the status comes after
such a story. -/
def checked (d : Domain) (s : DnsStatus) : List Deed := fetched key (some d) :: allAnswered d s

/-- The domain `d` with the status that a pass writes after its checks were answered with `s`. -/
def judged (d : Domain) (s : DnsStatus) : Domain := d.withStatus (some (statusAfter d s))

/-- What `reconcile config key` does: the fetch, then the checks of the domain `d` that was found,
then the work on its ingress, and a write of the status last. The write needs that the work on the
ingress ended well and that the status differs from that of `d`. -/
inductive PassDoes : List Deed → Move → Prop
  | fetch : PassDoes [] (.ask (.fetchDomain key))
  | check {d : Domain} {h : List Deed} {m : Move} :
      ChecksDo d h m → PassDoes (fetched key (some d) :: h) m
  | converge {d : Domain} {s : DnsStatus} {h : List Deed} {m : Move} :
      ConvergeDoes config.backend key d s h m → PassDoes (checked key d s ++ h) m
  | write {d : Domain} {s : DnsStatus} {h : List Deed} {a : IngressAction} :
      ConvergeEnds config.backend key d s h (.ok a) → d.status ≠ some (statusAfter d s) →
      PassDoes (checked key d s ++ h) (.ask (.writeStatus (judged d s)))

/-- How `reconcile config key` ends, with one constructor for each way: the fetch failed or found
nothing, a check failed, the work on the ingress failed, there was nothing to write, or the write
was answered. -/
inductive PassEnds : List Deed → Except PassError Outcome → Prop
  | unread (e : StoreError) :
      PassEnds [.asked (.fetchDomain key) (.error e)] (.error (.store key .fetch e))
  | gone : PassEnds [fetched key none] (.ok .gone)
  | unchecked {d : Domain} {h : List Deed} {e : PassError} :
      ChecksEnd key d h (.error e) → PassEnds (fetched key (some d) :: h) (.error e)
  | unconverged {d : Domain} {s : DnsStatus} {h : List Deed} {e : PassError} :
      ConvergeEnds config.backend key d s h (.error e) → PassEnds (checked key d s ++ h) (.error e)
  | unchanged {d : Domain} {s : DnsStatus} {h : List Deed} {a : IngressAction} :
      ConvergeEnds config.backend key d s h (.ok a) → d.status = some (statusAfter d s) →
      PassEnds (checked key d s ++ h) (.ok (.requeue (config.intervals.next s) s.converged))
  | written {d : Domain} {s : DnsStatus} {h : List Deed} {a : IngressAction} :
      ConvergeEnds config.backend key d s h (.ok a) → d.status ≠ some (statusAfter d s) →
      PassEnds (checked key d s ++ (h ++ [.asked (.writeStatus (judged d s)) (.ok ())]))
        (.ok (.requeue (config.intervals.next s) s.converged))
  | unwritten {d : Domain} {s : DnsStatus} {h : List Deed} {a : IngressAction} (e : StoreError) :
      ConvergeEnds config.backend key d s h (.ok a) → d.status ≠ some (statusAfter d s) →
      PassEnds (checked key d s ++ (h ++ [.asked (.writeStatus (judged d s)) (.error e)]))
        (.error (.store key .persistStatus e))

variable {config key}

/-- A status is written only after all checks were answered, with flags `s`, and the work on the
ingress has ended well, and what is written is `judged d s` for the domain `d` that was fetched. -/
lemma PassDoes.of_writeStatus {h : List Deed} {u : Domain}
    (hdoes : PassDoes config key h (.ask (.writeStatus u))) :
    ∃ d s t a, h = checked key d s ++ t ∧ ConvergeEnds config.backend key d s t (.ok a) ∧
      u = judged d s := by
  cases hdoes with
  | check hdoes => cases hdoes <;> next hc => cases hc
  | converge hdoes => cases hdoes
  | write hends _ => exact ⟨_, _, _, _, rfl, hends, rfl⟩

variable {d : Domain} {s : DnsStatus} {h : List Deed} {u : Domain} {w : Except StoreError Unit}

/-- No story in which `checkDns` goes on has a status write in it. -/
lemma ChecksDo.not_writeStatus {m : Move} (hdoes : ChecksDo d h m) :
    Deed.asked (.writeStatus u) w ∉ h := by
  cases hdoes with
  | dkim hc => cases hc <;> simp
  | stats dkim hc => cases hc <;> simp [answered]
  | spf dkim stats hc => cases hc <;> simp [answered]

/-- No story at whose end `checkDns` is done has a status write in it. -/
lemma ChecksEnd.not_writeStatus {r : Except PassError DnsStatus} (hends : ChecksEnd key d h r) :
    Deed.asked (.writeStatus u) w ∉ h := by
  cases hends <;> simp [allAnswered, Protocol.answered, unanswered]

/-- No story in which `convergeIngress` goes on has a status write in it. -/
lemma ConvergeDoes.not_writeStatus {m : Move} (hdoes : ConvergeDoes config.backend key d s h m) :
    Deed.asked (.writeStatus u) w ∉ h := by
  cases hdoes <;> simp [lookedUp]

/-- No story at whose end `convergeIngress` is done has a status write in it. -/
lemma ConvergeEnds.not_writeStatus {r : Except PassError IngressAction}
    (hends : ConvergeEnds config.backend key d s h r) : Deed.asked (.writeStatus u) w ∉ h := by
  cases hends <;> simp [lookedUp]

/-- No story of a pass up to its last check has a status write in it. -/
lemma not_writeStatus_checked : Deed.asked (.writeStatus u) w ∉ checked key d s := by
  simp [checked, fetched, allAnswered, answered]

/-- After a status write, whatever its answer, a pass makes no move. -/
lemma not_passDoes_of_writeStatus {m : Move} :
    ¬ PassDoes config key (h ++ [.asked (.writeStatus u) w]) m := by
  intro hdoes
  have hmem : Deed.asked (.writeStatus u) w ∈ h ++ [.asked (.writeStatus u) w] :=
    List.mem_concat_self
  generalize h ++ [Deed.asked (.writeStatus u) w] = g at hdoes hmem
  cases hdoes with
  | fetch => cases hmem
  | check hdoes => exact hdoes.not_writeStatus ((List.mem_cons.1 hmem).resolve_left nofun)
  | converge hdoes =>
    exact hdoes.not_writeStatus ((List.mem_append.1 hmem).resolve_left not_writeStatus_checked)
  | write hends _ =>
    exact hends.not_writeStatus ((List.mem_append.1 hmem).resolve_left not_writeStatus_checked)

/-- A pass whose status write fails with `e` ends with that failure in the stage `persistStatus`. -/
lemma PassEnds.of_writeStatus_error {e : StoreError} {r : Except PassError Outcome}
    (hends : PassEnds config key (h ++ [.asked (.writeStatus u) (.error e)]) r) :
    r = .error (.store key .persistStatus e) := by
  have hlast : (h ++ [Deed.asked (.writeStatus u) (.error e)]).getLast? =
      some (.asked (.writeStatus u) (.error e)) := List.getLast?_concat
  generalize h ++ [Deed.asked (.writeStatus u) (.error e)] = g at hends hlast
  -- a story with a status write is longer than that of any earlier end
  have hmem := List.mem_of_getLast? hlast
  cases hends with
  | unread e => simp at hlast
  | gone => simp [fetched] at hlast
  | unchecked hends =>
    exact absurd ((List.mem_cons.1 hmem).resolve_left nofun) hends.not_writeStatus
  | unconverged hends =>
    exact absurd ((List.mem_append.1 hmem).resolve_left not_writeStatus_checked)
      hends.not_writeStatus
  | unchanged hends _ =>
    exact absurd ((List.mem_append.1 hmem).resolve_left not_writeStatus_checked)
      hends.not_writeStatus
  | written _ _ => simp [← List.append_assoc] at hlast
  | unwritten e _ _ =>
    rw [← List.append_assoc, List.getLast?_concat] at hlast
    cases hlast
    rfl

end Protocol

/-- The last part of `reconcile`, from the comparison of the status on, keeps to the protocol of a
pass, if the story before it is one at which the checks were answered with `s` and the work on the
ingress ended well. -/
lemma persist_upholds (config : PassConfig) {key : ObjectKey} {d : Domain} {s : DnsStatus}
    {h : List Deed} {a : IngressAction} (hh : ConvergeEnds config.backend key d s h (.ok a)) :
    (do
      if statusChanged d.status (some (statusAfter d s)) then
        Pass.orFail (.store key .persistStatus) (← Pass.ask (.writeStatus (judged d s)))
      return .requeue (config.intervals.next s) s.converged : Pass Outcome).run.Upholds
      (PassDoes config key) (PassEnds config key) (checked key d s ++ h) := by
  split
  · next hc =>
    have changed := statusChanged_iff.1 hc
    refine Pass.upholds_ask.2 ⟨.write hh changed, fun a => ?_⟩
    rw [List.append_assoc]
    cases a with
    | ok _ => exact Pass.upholds_pure.2 (.written hh changed)
    | error e => exact Pass.upholds_throw.2 (.unwritten e hh changed)
  · next hc =>
    exact Pass.upholds_pure.2 (.unchanged hh (by simpa [statusChanged] using hc))

/-- **A pass keeps to its protocol**, whatever it is answered: every story of `reconcile config key`
is one of `PassDoes`, and its result after a complete story is one of `PassEnds`.

**Proof sketch.** The pass is put together by `Pass.upholds_bind` from the fetch, the checks
(`checkDns_upholds`), the work on the ingress (`convergeIngress_upholds`) and the write
(`persist_upholds`). Each part keeps to its own protocol, counted from where it starts, and the
constructors of `PassDoes` and `PassEnds` take up all of them. -/
theorem reconcile_upholds (config : PassConfig) (key : ObjectKey) :
    (reconcile config key).run.Upholds (PassDoes config key) (PassEnds config key) [] := by
  refine Pass.upholds_ask.2 ⟨.fetch, fun found => ?_⟩
  match found with
  | .error e => exact Pass.upholds_throw.2 (.unread e)
  | .ok none => exact Pass.upholds_pure.2 .gone
  | .ok (some d) =>
    simp only [Pass.orFail, pure_bind]
    refine Pass.upholds_bind (checkDns_upholds key d) (fun _ _ => .check)
      (fun _ _ => .unchecked) ?_
    intro _ s hs
    cases hs
    exact Pass.upholds_bind (convergeIngress_upholds config.backend key d s)
      (fun _ _ => .converge) (fun _ _ => .unconverged) fun _ _ hh => persist_upholds config hh

end MailDomain
