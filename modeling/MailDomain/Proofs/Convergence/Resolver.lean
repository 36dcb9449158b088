import MailDomain.Dns.Checker
import MailDomain.Proofs.Convergence.Endings
import MailDomain.Proofs.Text.Parts

/-!
# Passes that ask a resolver

A pass over two stores in memory makes its checks against a resolver. Whatever comes of the
questions, the stores change only if each of the three was answered for sure, by records or by the
news that there are none. A lookup that fails ends the pass before anything is done about the
ingress or the status.

## Main definitions

* `Checker.Definitive` — a check whose question is answered for sure.
* `Checker.resolved` — the checker that asks a resolver.
* `Inquiry` — two stores and the questions that were asked so far, with `Inquiry.carryOut`.

## Main results

* `Checker.query_injective` — no two checks of a domain ask the same question, so that what comes
  of one says nothing about another.
* `Inquiry.leads` — a pass that asks a resolver is a pass over the stores, and asks the questions of
  its checks.
* `Inquiry.reconcile_definitive` — only definitive answers change anything.
-/

set_option relaxedAutoImplicit false
set_option autoImplicit false

namespace MailDomain

open Protocol MemoryStore

/-! ### Questions -/

namespace Record

/-- The characters of a name apart from its dots. -/
def letters (name : String) : List Char := name.toList.filter (· ≠ '.')

/-- The dot that `qualified` adds at the end is no letter. -/
lemma letters_qualified (name : String) : letters (qualified name) = letters name := by
  rw [qualified]
  split
  · rfl
  · simp [letters]

/-- The dots that `withoutEndDots` drops are no letters. -/
lemma letters_withoutEndDots (name : String) : letters (withoutEndDots name) = letters name := by
  have hdot : (fun c : Char => decide (c ≠ '.')) = fun c => !(c == '.') := by
    funext c
    simp [beq_eq_decide]
  rw [letters, letters, withoutEndDots, String.toList_ofList, hdot]
  exact Text.filter_dropEnd (· == '.') name.toList

/-- The name of the key record has more letters than the base domain, those of the selector and of
`_domainkey` being added. So it differs from the names that the other checks ask about, however many
dots they have. -/
lemma letters_lt_letters_dkimName (selector baseDomain : String) :
    (letters baseDomain).length < (letters (dkimName selector baseDomain)).length := by
  have hlabel : (letters domainKeyLabel).length = 10 := by decide
  have hletters : letters (dkimName selector baseDomain) =
      letters selector ++ (letters domainKeyLabel ++ letters (withoutEndDots baseDomain)) := by
    simp [letters, dkimName]
  rw [hletters, letters_withoutEndDots, List.length_append, List.length_append, hlabel]
  omega

end Record

namespace Checker

variable {d : Domain} {c c' : Check} {q : Dns.Query}

/-- The question `q` of the check `c` is about the name and the type of records of that check. -/
lemma query_eq_ok (hq : query d c = .ok q) : q.written = nameOf d c ∧ q.type = typeOf c := by
  simp only [query] at hq
  split at hq
  · cases hq
    exact ⟨rfl, rfl⟩
  · cases hq

/-- The key record is asked for under another name than the policy. -/
lemma nameOf_dkim_ne (d : Domain) : nameOf d .dkim ≠ nameOf d .spf := by
  intro h
  have hletters : Record.letters (nameOf d .dkim) = Record.letters (nameOf d .spf) := by rw [h]
  rw [nameOf, nameOf, Record.letters_qualified, Record.letters_qualified] at hletters
  have hlt := Record.letters_lt_letters_dkimName d.spec.dkim.selector d.spec.baseDomain
  rw [hletters] at hlt
  exact lt_irrefl _ hlt

/-- No two checks of a domain ask the same question: the check of the stats record asks for
addresses, and the other two for texts under different names. -/
theorem query_injective (hq : query d c = .ok q) (hq' : query d c' = .ok q) : c = c' := by
  obtain ⟨hname, htype⟩ := query_eq_ok hq
  obtain ⟨hname', htype'⟩ := query_eq_ok hq'
  have hnames : nameOf d c = nameOf d c' := hname.symm.trans hname'
  have htypes : typeOf c = typeOf c' := htype.symm.trans htype'
  match c, c' with
  | .dkim, .dkim | .stats, .stats | .spf, .spf => rfl
  | .dkim, .spf => exact absurd hnames (nameOf_dkim_ne d)
  | .spf, .dkim => exact absurd hnames.symm (nameOf_dkim_ne d)
  | .stats, .dkim | .stats, .spf | .dkim, .stats | .spf, .stats => cases htypes

variable (probe : ProbeConfig) (resolver : Dns.Query → Dns.Exchange)

/-- The check `c` of the domain `d` is answered for sure: its name is a valid one, and the resolver
answered its question in time with records or with the news that there is no such domain. -/
def Definitive (d : Domain) (c : Check) : Prop :=
  ∃ q r, query d c = .ok q ∧ resolver q = .answered r ∧ (r.code = .noError ∨ r.code = .noDomain)

/-- The checker whose answers come from a resolver, which is any function of the question. -/
def resolved : MailDomain.Checker := fun c d =>
  Id.run (check probe (fun q => pure (resolver q)) c d)

/-- A check whose name is not valid fails with what is wrong with the name, and asks nothing. -/
lemma resolved_of_query_error {e : ProbeError} (hq : query d c = .error e) :
    resolved probe resolver c d = .error e := by
  unfold resolved check
  rw [hq]
  rfl

/-- A check with the question `q` judges the answers to it by `Checker.passes`, or fails as the
lookup does. -/
lemma resolved_of_query_ok (hq : query d c = .ok q) :
    resolved probe resolver c d = (answers probe q (resolver q)).map (passes probe d c) := by
  unfold resolved check
  rw [hq]
  rfl

/-- The questions of the checks `cs` of the domain `d`, as far as their names are valid. -/
def questions (d : Domain) (cs : List Check) : List Dns.Query :=
  cs.filterMap fun c => (query d c).toOption

variable {resolver}

/-- What came of a question gives answers exactly if it is a reply with the code `noError` or
`noDomain`. -/
lemma answers_isOk_iff {e : Dns.Exchange} :
    (∃ rs, answers probe q e = .ok rs) ↔
      ∃ r, e = .answered r ∧ (r.code = .noError ∨ r.code = .noDomain) := by
  cases e with
  | answered r =>
    obtain ⟨code, rs⟩ := r
    cases code <;> simp [answers]
  | silence => simp [answers]
  | broken reason => simp [answers]

/-- A check has a result exactly if it is `Definitive`. -/
lemma resolved_isOk_iff :
    (∃ passed, resolved probe resolver c d = .ok passed) ↔ Definitive resolver d c := by
  unfold resolved check Definitive
  cases hq : query d c with
  | error e => simp
  | ok q =>
    have hanswers := answers_isOk_iff probe (q := q) (e := resolver q)
    simp only [bind, pure, Id.run, Except.ok.injEq, exists_and_left, exists_eq_left']
    rw [← hanswers]
    cases answers probe q (resolver q) <;> simp [Except.map]

end Checker

/-! ### Inquiries -/

/-- Two stores, and the questions that were put to a resolver so far, the earliest first. -/
structure Inquiry where
  stores : Stores
  asked : List Dns.Query := []

/-- The question that a call puts to a resolver, if it is a check with a valid name. -/
def Call.question? : Call → Option Dns.Query
  | .check c d => (Checker.query d c).toOption
  | _ => none

/-- The calls of checks put the questions of the checks. -/
lemma filterMap_question?_checks (d : Domain) (cs : List Check) :
    (cs.map fun c => .check c d).filterMap Call.question? = Checker.questions d cs :=
  List.filterMap_map

/-- A pass that goes through all of its stages puts the questions of all checks and no others. -/
lemma filterMap_question?_allCalls {key : ObjectKey} {d : Domain} {x y : List Call}
    (hx : IngressWrites x) (hy : StatusWrites y) :
    (allCalls key d x y).filterMap Call.question? = Checker.questions d Check.inOrder := by
  have hrest : (x ++ y).filterMap Call.question? = [] := by cases hx <;> cases hy <;> rfl
  rw [allCalls, List.filterMap_append, List.filterMap_cons_none rfl, List.filterMap_cons_none rfl,
    hrest, List.append_nil, checkCalls, filterMap_question?_checks]

namespace Inquiry

variable (probe : ProbeConfig) (resolver : Dns.Query → Dns.Exchange)

/-- The question `q` is put to the resolver, and noted. -/
def exchange (q : Dns.Query) : StateM Inquiry Dns.Exchange :=
  modifyGet fun w => (resolver q, { w with asked := w.asked ++ [q] })

/-- What the call `c` does: a check asks the resolver, and any other call is one to the stores. -/
def answer : (c : Call) → StateM Inquiry c.Answer
  | .check c d => Checker.check probe (exchange resolver) c d
  | c => modifyGet fun w =>
    let x := Stores.answer (Checker.resolved probe resolver) c w.stores
    (x.1, { w with stores := x.2 })

/-- An observation is recorded, and asks nothing. -/
def note (o : Observation) (w : Inquiry) : Inquiry := { w with stores := w.stores.note o }

/-- A plan that may fail, carried out over the stores with a resolver. -/
def carryOut {α : Type} (p : Pass α) (w : Inquiry) : Except PassError α × Inquiry :=
  (p.run.run (answer probe resolver) fun o => modify (note o)).run w

/-- The stores and the resolver as a service. -/
def service : Service Inquiry where
  answers c w a t := (a, t) = (answer probe resolver c).run w
  noted := note

variable {probe resolver} {w t : Inquiry} {h : List Deed}

/-- A call is answered as one over the stores with the checker `Checker.resolved` is, and its
question is noted. -/
lemma run_answer (c : Call) (w : Inquiry) :
    (answer probe resolver c).run w =
      let x := Stores.answer (Checker.resolved probe resolver) c w.stores
      (x.1, ⟨x.2, w.asked ++ c.question?.toList⟩) := by
  cases c with
  | check c d =>
    simp only [answer, Checker.check, Stores.answer, Checker.resolved, Call.question?]
    cases Checker.query d c with
    | error e =>
      simp only [Except.toOption, Option.toList_none, List.append_nil]
      rfl
    | ok q => rfl
  | _ =>
    simp only [answer, Call.question?, Option.toList_none, List.append_nil]
    rfl

/-- A story in which a resolver is asked is one over the stores with the checker `Checker.resolved`,
and the questions that were asked are those of its calls. -/
theorem leads (hleads : (service probe resolver).Leads h w t) :
    (Stores.service (Checker.resolved probe resolver) fun _ _ => False).Leads h w.stores t.stores ∧
      t.asked = w.asked ++ (callsOf h).filterMap Call.question? := by
  induction h generalizing w with
  | nil =>
    cases Service.leads_nil.1 hleads
    exact ⟨rfl, by simp⟩
  | cons x h ih =>
    cases x with
    | asked c a =>
      obtain ⟨u, ha, hleads⟩ := hleads
      change (a, u) = (answer probe resolver c).run w at ha
      rw [run_answer] at ha
      obtain ⟨rfl, rfl⟩ := Prod.mk.inj ha
      obtain ⟨hstores, hasked⟩ := ih hleads
      refine ⟨⟨_, .inr rfl, hstores⟩, ?_⟩
      rw [hasked, callsOf_asked, List.append_assoc]
      cases hc : c.question? <;> simp [hc]
    | noted o => exact ih (w := note o w) hleads

variable {config : PassConfig} {key : ObjectKey} {d : Domain}

/-- For a domain `d` that is stored there are two cases: all of its checks are `Definitive`, the
pass asks all questions and does not fail at a check, or the pass fails at the first check `c` that
is not, has written nothing and asks nothing after the question of `c`.

**Proof sketch.** By `Inquiry.leads` the story of the pass is one over the stores, where the checker
has a result exactly if the answer is definitive (`Checker.resolved_isOk_iff`). The pass ends at the
first check without a result (`leads_checksEnd_error`), or it goes through all of them. -/
theorem carryOut_cases (probe : ProbeConfig) (resolver : Dns.Query → Dns.Exchange)
    (config : PassConfig) (hd : w.stores.domains.get key = some d) :
    let x := carryOut probe resolver (reconcile config key) w
    ((∀ c, Checker.Definitive resolver d c) ∧
        x.2.asked = w.asked ++ Checker.questions d Check.inOrder ∧
        ∀ k c e, x.1 ≠ .error (.probe k c e)) ∨
      ∃ before c after e, Check.inOrder = before ++ c :: after ∧
        (∀ c' ∈ before, Checker.Definitive resolver d c') ∧ ¬ Checker.Definitive resolver d c ∧
        Checker.resolved probe resolver c d = .error e ∧ x.1 = .error (.probe key c e) ∧
        Stores.Same w.stores x.2.stores ∧
        x.2.asked = w.asked ++ Checker.questions d (before ++ [c]) := by
  intro x
  obtain ⟨h, hfollows, hleads⟩ : ∃ h, (reconcile config key).run.Follows h (.done x.1) ∧
      (service probe resolver).Leads h w x.2 :=
    Plan.run_leads (fun _ _ => rfl) (fun _ _ => rfl) (reconcile config key).run w
  obtain ⟨hstores, hasked⟩ := leads hleads
  have hends : PassEnds config key h x.1 := (reconcile_upholds config key).of_follows hfollows
  change x.2.asked = _ at hasked
  change (Stores.service _ _).Leads h w.stores x.2.stores at hstores
  generalize x.1 = r at hends ⊢
  -- the pass ends with the look-up of the domain, with a check, or after all three checks
  rcases hends.parts with hfetch | ⟨d', t, e, rfl, hr, hends⟩ |
    ⟨d', f, t, u, a, rfl, hends, hgoes⟩
  · cases hfetch with
    | unread e =>
      obtain ⟨u, ⟨_, hfalse, -⟩ | ha, -⟩ := hstores
      · exact hfalse.elim
      · cases ha
    | gone => cases (Stores.leads_fetched hstores).1.trans hd
  · obtain ⟨hd', hchecks⟩ := Stores.leads_fetched hstores
    cases hd'.trans hd
    -- the check that ends the pass is the first without a result, and its question is the last
    obtain ⟨before, c, after, cause, horder, hbefore, hc, rfl, hcalls⟩ :=
      Stores.leads_checksEnd_error hends hchecks
    refine .inr ⟨before, c, after, cause, horder,
      fun c' hc' => (Checker.resolved_isOk_iff probe).1 (hbefore c' hc'), fun hdef => ?_, hc, hr,
      Stores.leads_idle (Stores.checksEnd_idle hends) hchecks, ?_⟩
    · obtain ⟨passed, hpassed⟩ := (Checker.resolved_isOk_iff probe).2 hdef
      cases hc.symm.trans hpassed
    · rw [hasked, fetched, callsOf_asked, hcalls, List.filterMap_cons_none rfl,
        filterMap_question?_checks]
  · obtain ⟨hd', hflags, -⟩ := Stores.leads_checked hstores
    cases hd'.symm.trans hd
    refine .inl ⟨fun c => (Checker.resolved_isOk_iff probe).1 ⟨_, hflags c⟩, ?_, ?_⟩
    · obtain ⟨y, z, hy, hz, hcalls⟩ := calls_eq_allCalls hends hgoes
      rw [hasked, hcalls, filterMap_question?_allCalls hy hz]
    · rintro k c e rfl
      cases hgoes with
      | failed e => exact hends.ne_probe rfl

/-- **Only definitive answers change anything.** Let a pass be made for a stored domain `d`, over
any two stores that clients may have written and with any behaviour of the resolver. If it changes
either store, then the questions of all three checks were for valid names and were answered in time
with records or with the news that there are none. If they all were, then all of them were asked and
no check fails. Otherwise the pass fails with the first lookup that failed, both stores are as
before, and no other question was asked after that of the check that failed.

**Proof sketch.** The two cases of `carryOut_cases` exclude one another, as in the second some check
is not `Definitive`. In it the stores are the same, so that a change leaves the first case only. -/
theorem reconcile_definitive (ws₁ : List (Write DomainSpec DomainStatus))
    (ws₂ : List (Write (Option IngressSpec) IngressStatus)) (m : Registry) (probe : ProbeConfig)
    (resolver : Dns.Query → Dns.Exchange) (config : PassConfig) (key : ObjectKey) (d : Domain)
    (hd : (after ws₁).get key = some d) :
    let s : Stores := ⟨after ws₁, after ws₂, m⟩
    let x := carryOut probe resolver (reconcile config key) ⟨s, []⟩
    (x.2.stores.domains ≠ s.domains ∨ x.2.stores.ingresses ≠ s.ingresses →
        ∀ c, Checker.Definitive resolver d c) ∧
      ((∀ c, Checker.Definitive resolver d c) →
        x.2.asked = Checker.questions d Check.inOrder ∧ ∀ k c e, x.1 ≠ .error (.probe k c e)) ∧
      (¬ (∀ c, Checker.Definitive resolver d c) →
        x.2.stores.domains = s.domains ∧ x.2.stores.ingresses = s.ingresses ∧
        ∃ before c after e, Check.inOrder = before ++ c :: after ∧
          (∀ c' ∈ before, Checker.Definitive resolver d c') ∧ ¬ Checker.Definitive resolver d c ∧
          Checker.resolved probe resolver c d = .error e ∧ x.1 = .error (.probe key c e) ∧
          x.2.asked = Checker.questions d (before ++ [c])) := by
  intro s x
  rcases carryOut_cases probe resolver (w := ⟨s, []⟩) config hd with
    ⟨hall, hasked, hne⟩ |
    ⟨before, c, after, e, horder, hbefore, hc, hresolved, hr, ⟨hdomains, hingresses⟩, hasked⟩
  · exact ⟨fun _ => hall, fun _ => ⟨hasked, hne⟩, fun hnot => absurd hall hnot⟩
  · refine ⟨fun hchanged => ?_, fun hall => absurd (hall c) hc, fun _ => ?_⟩
    · rcases hchanged with hchanged | hchanged
      · exact absurd hdomains hchanged
      · exact absurd hingresses hchanged
    · exact ⟨hdomains, hingresses, before, c, after, e, horder, hbefore, hc, hresolved, hr, hasked⟩

/-- The server fails to answer the second of three questions: the pass fails there, and the ingress
stays, although the base domain has no address that could be found. -/
theorem reconcile_of_serverFailure :
    let key : ObjectKey := ⟨"mail", "acme"⟩
    let d : Domain := {
      metadata := { name := some "acme", ns := some "mail", generation := some 1 }
      spec := { baseDomain := "acme.example", dkim := ⟨"s1", "key"⟩ } }
    let i : Ingress := {
      metadata := { name := some "acme-stats", ns := some "mail" }
      spec := none }
    let probe : ProbeConfig := ⟨.v4 ⟨192, 0, 2, 53⟩ 53, .ofSecs 5, "spf.example", []⟩
    let resolver : Dns.Query → Dns.Exchange := fun q =>
      match q.type with
      | .txt => .answered ⟨.noDomain, []⟩
      | .a => .answered ⟨.serverFailure, []⟩
    let s : Stores := ⟨after [.insert d], after [.insert i], {}⟩
    let x := carryOut probe resolver (reconcile {} key) ⟨s, []⟩
    s.domains.get key = some (stamped d 1) ∧
      x.1 = .error (.probe key .stats
        (.lookupFailed "acme.example." "A" "192.0.2.53:53" "server answered Server Failure")) ∧
      x.2.asked.map Dns.Query.written = ["s1._domainkey.acme.example.", "acme.example."] ∧
      x.2.stores.domains = s.domains ∧ x.2.stores.ingresses = s.ingresses := by
  intro key d i probe resolver
  have hd : (after [.insert d]).get key = some (stamped d 1) := rfl
  obtain ⟨-, hall, hfailed⟩ :=
    reconcile_definitive [.insert d] [.insert i] {} probe resolver {} key _ hd
  have hx : (carryOut probe resolver (reconcile {} key)
      ⟨⟨after [.insert d], after [.insert i], {}⟩, []⟩).1 = .error (.probe key .stats
        (.lookupFailed "acme.example." "A" "192.0.2.53:53" "server answered Server Failure")) := by
    decide +kernel
  obtain ⟨hdomains, hingresses, -⟩ := hfailed fun h => (hall h).2 _ _ _ hx
  exact ⟨hd, hx, by decide +kernel, hdomains, hingresses⟩

end Inquiry

end MailDomain
