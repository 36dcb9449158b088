import MailDomain.Proofs.Convergence.Resolver

/-!
# The answers in a reply

A reply with records satisfies a check exactly if one of its records does so on its own. So a check
looks at the set of those records alone: it does not matter in which order they come, how often they
come, and which records of other types, like those of a chain of aliases, come with them.

## Main definitions

* `Dns.Record.type?` — the type of records that a record is of.
* `Checker.Matches` — a record satisfies a check on its own.
* `Checker.replied` — the result of a check whose question gets a reply.

## Main results

* `Checker.passes_iff` — answers satisfy a check exactly if one of them does.
* `Checker.resolved_matching` — the result of a check hangs on the set of matching answers alone.
-/

set_option relaxedAutoImplicit false
set_option autoImplicit false

namespace MailDomain

/-- The type of query that asks for records like the given one, if there is such a type. -/
def Dns.Record.type? : Dns.Record → Option Dns.RecordType
  | .address _ => some .a
  | .text _ => some .txt
  | .other _ => none

namespace Checker

variable {probe : ProbeConfig} {d : Domain} {c : Check} {q : Dns.Query} {a : Dns.Record}
  {rs rs' : List Dns.Record}

/-! ### Records that match -/

/-- The record satisfies the check `c` of the domain `d` by itself, whatever else comes with it. -/
inductive Matches (probe : ProbeConfig) (d : Domain) : Check → Dns.Record → Prop
  /-- A text that holds the key of the domain, its strings being read one by one and joined. -/
  | key {strings : List (List UInt8)} :
    Dkim.hasKey (joined strings) d.spec.dkim.publicKey = true →
      Matches probe d .dkim (.text strings)
  /-- An address, whichever it is, where `probe` expects none in particular. -/
  | unexpected {ip : Ipv4} : probe.statsAddresses = [] → Matches probe d .stats (.address ip)
  /-- An address that is among those which `probe` expects. -/
  | expected {ip : Ipv4} : ip ∈ probe.statsAddresses → Matches probe d .stats (.address ip)
  /-- A text that is a policy with the include of `probe`. -/
  | policy {strings : List (List UInt8)} :
    Spf.delegatesTo (joined strings) probe.spfInclude = true → Matches probe d .spf (.text strings)

/-- A record that `Matches` a check is of the type that the check asks for. -/
lemma Matches.type?_eq (h : Matches probe d c a) : a.type? = some (typeOf c) := by
  cases h <;> rfl

/-- A text is among the `texts` of records exactly if it is the `joined` text of one of them. -/
lemma mem_texts_iff {t : String} :
    t ∈ texts rs ↔ ∃ strings, .text strings ∈ rs ∧ joined strings = t := by
  rw [texts, List.mem_filterMap]
  constructor
  · rintro ⟨a, ha, htext⟩
    cases a with
    | text strings => exact ⟨strings, ha, Option.some.inj htext⟩
    | address ip => cases htext
    | other type => cases htext
  · rintro ⟨strings, ha, rfl⟩
    exact ⟨_, ha, rfl⟩

/-- An address is among the `addresses` of records exactly if one of the records is that address. -/
lemma mem_addresses_iff {ip : Ipv4} : ip ∈ addresses rs ↔ .address ip ∈ rs := by
  rw [addresses, List.mem_filterMap]
  constructor
  · rintro ⟨a, ha, haddress⟩
    cases a with
    | address ip' => rwa [← Option.some.inj haddress]
    | text strings => cases haddress
    | other type => cases haddress
  · exact fun ha => ⟨_, ha, rfl⟩

/-- **A check passes exactly if one record satisfies it by itself**: `passes` on a list of records
is the existence of one that `Matches`.

**Proof sketch.** By cases on the check. Each is a `List.any` over the texts or the addresses of the
records, which `mem_texts_iff` and `mem_addresses_iff` turn into a record. -/
theorem passes_iff : passes probe d c rs = true ↔ ∃ a ∈ rs, Matches probe d c a := by
  cases c with
  | dkim =>
    simp only [passes, List.any_eq_true, mem_texts_iff]
    constructor
    · rintro ⟨_, ⟨strings, ha, rfl⟩, hkey⟩
      exact ⟨_, ha, .key hkey⟩
    · rintro ⟨_, ha, hkey⟩
      cases hkey with
      | key hkey => exact ⟨_, ⟨_, ha, rfl⟩, hkey⟩
  | stats =>
    simp only [passes, Stats.resolvesTo, List.any_eq_true, mem_addresses_iff, Bool.or_eq_true,
      List.isEmpty_iff, List.contains_iff_mem]
    constructor
    · rintro ⟨ip, ha, hnone | hexpected⟩
      · exact ⟨_, ha, .unexpected hnone⟩
      · exact ⟨_, ha, .expected hexpected⟩
    · rintro ⟨_, ha, haddress⟩
      cases haddress with
      | unexpected hnone => exact ⟨_, ha, .inl hnone⟩
      | expected hexpected => exact ⟨_, ha, .inr hexpected⟩
  | spf =>
    simp only [passes, List.any_eq_true, mem_texts_iff]
    constructor
    · rintro ⟨_, ⟨strings, ha, rfl⟩, hpolicy⟩
      exact ⟨_, ha, .policy hpolicy⟩
    · rintro ⟨_, ha, hpolicy⟩
      cases hpolicy with
      | policy hpolicy => exact ⟨_, ⟨_, ha, rfl⟩, hpolicy⟩

/-- Two lists with the same records of the type that a check asks for give the same result of
`passes`. -/
lemma passes_congr (h : ∀ a : Dns.Record, a.type? = some (typeOf c) → (a ∈ rs' ↔ a ∈ rs)) :
    passes probe d c rs' = passes probe d c rs := by
  rw [Bool.eq_iff_iff, passes_iff, passes_iff]
  refine exists_congr fun a => ⟨?_, ?_⟩
  · exact fun ⟨ha, hmatch⟩ => ⟨(h a hmatch.type?_eq).1 ha, hmatch⟩
  · exact fun ⟨ha, hmatch⟩ => ⟨(h a hmatch.type?_eq).2 ha, hmatch⟩

/-! ### Replies -/

/-- The result of the check `c` of the domain `d` when every question gets the reply `r`, which is
all that a check has to go by. -/
def replied (probe : ProbeConfig) (c : Check) (d : Domain) (r : Dns.Reply) :
    Except ProbeError Bool :=
  resolved probe (fun _ => .answered r) c d

/-- A reply with the code `noError` has its records judged by `passes`. -/
lemma replied_noError (hq : query d c = .ok q) (rs : List Dns.Record) :
    replied probe c d ⟨.noError, rs⟩ = .ok (passes probe d c rs) := by
  rw [replied, resolved_of_query_ok probe _ hq]
  rfl

/-- A reply with the code `noDomain` makes the check not pass, whatever records come with it. -/
lemma replied_noDomain (hq : query d c = .ok q) (rs : List Dns.Record) :
    replied probe c d ⟨.noDomain, rs⟩ = .ok false := by
  rw [replied, resolved_of_query_ok probe _ hq]
  cases c <;> rfl

/-- A check fails exactly if the reply has another code than `noError` and `noDomain`, and then the
failure names the code. -/
lemma replied_error_iff (hq : query d c = .ok q) {r : Dns.Reply} {e : ProbeError} :
    replied probe c d r = .error e ↔ (r.code ≠ .noError ∧ r.code ≠ .noDomain) ∧
      e = failed probe q ("server answered " ++ r.code.text) := by
  obtain ⟨code, rs⟩ := r
  rw [replied, resolved_of_query_ok probe _ hq]
  cases code <;> simp [answers, Except.map, eq_comm]

/-- A reply with the code `noError` makes the check pass exactly if one of its records `Matches`. -/
lemma replied_eq_true_iff (hq : query d c = .ok q) :
    replied probe c d ⟨.noError, rs⟩ = .ok true ↔ ∃ a ∈ rs, Matches probe d c a := by
  rw [replied_noError hq, Except.ok.injEq, passes_iff]

/-- A reply with the code `noError` and the one record `a` makes the check pass exactly if `a`
`Matches`. -/
lemma replied_single_iff (hq : query d c = .ok q) :
    replied probe c d ⟨.noError, [a]⟩ = .ok true ↔ Matches probe d c a := by
  simp [replied_eq_true_iff hq]

/-- **A check looks at the set of matching answers alone.** Let the name that a check asks about be
valid. Then its result is that of the reply to its question, whatever comes of other questions. It
fails exactly if the reply has another code than that of records or of no such domain, and then the
code is named. No such domain means that it does not pass, whatever comes with the news. Replies
with the same set of records of the type that is asked for give the same result, whatever their
order, their number and the records of other types. More records never undo a pass. A reply passes
exactly if one of its records, which is of the type that is asked for, does so on its own, and where
no address is expected every address does.

**Proof sketch.** The first part is what `resolved` does with a valid question, and the next two are
`replied_error_iff` and `replied_noDomain`. For replies with records, `passes_iff` turns the result
into the existence of a record that `Matches`; such a record is of the right type by
`Matches.type?_eq`, and it is in every list that has the same records of that type, or more of
them. -/
theorem resolved_matching (probe : ProbeConfig) (d : Domain) (c : Check) (q : Dns.Query)
    (hq : query d c = .ok q) :
    (∀ (resolver : Dns.Query → Dns.Exchange) (r : Dns.Reply), resolver q = .answered r →
        resolved probe resolver c d = replied probe c d r) ∧
      (∀ (r : Dns.Reply) (e : ProbeError), replied probe c d r = .error e ↔
        (r.code ≠ .noError ∧ r.code ≠ .noDomain) ∧
          e = failed probe q ("server answered " ++ r.code.text)) ∧
      (∀ rs, replied probe c d ⟨.noDomain, rs⟩ = .ok false) ∧
      (∀ rs rs' : List Dns.Record,
        (∀ a : Dns.Record, a.type? = some (typeOf c) → (a ∈ rs' ↔ a ∈ rs)) →
          replied probe c d ⟨.noError, rs'⟩ = replied probe c d ⟨.noError, rs⟩) ∧
      (∀ rs rs' : List Dns.Record, rs ⊆ rs' → replied probe c d ⟨.noError, rs⟩ = .ok true →
        replied probe c d ⟨.noError, rs'⟩ = .ok true) ∧
      (∀ rs, replied probe c d ⟨.noError, rs⟩ = .ok true ↔ ∃ a ∈ rs,
        a.type? = some (typeOf c) ∧ replied probe c d ⟨.noError, [a]⟩ = .ok true) ∧
      (∀ a, replied probe c d ⟨.noError, [a]⟩ = .ok true ↔ Matches probe d c a) ∧
      (c = .stats → probe.statsAddresses = [] → ∀ ip,
        replied probe c d ⟨.noError, [.address ip]⟩ = .ok true) := by
  refine ⟨?_, ?_, replied_noDomain hq, ?_, ?_, ?_, fun a => replied_single_iff hq, ?_⟩
  · intro resolver r hr
    rw [replied, resolved_of_query_ok probe _ hq, resolved_of_query_ok probe _ hq, hr]
  · exact fun r e => replied_error_iff hq
  · intro rs rs' hsame
    rw [replied_noError hq, replied_noError hq, passes_congr hsame]
  · intro rs rs' hsub hpass
    obtain ⟨a, ha, hmatch⟩ := (replied_eq_true_iff hq).1 hpass
    exact (replied_eq_true_iff hq).2 ⟨a, hsub ha, hmatch⟩
  · intro rs
    rw [replied_eq_true_iff hq]
    refine exists_congr fun a => and_congr_right fun _ => ?_
    rw [replied_single_iff hq]
    exact ⟨fun hmatch => ⟨hmatch.type?_eq, hmatch⟩, And.right⟩
  · rintro rfl hnone ip
    exact (replied_single_iff hq).2 (.unexpected hnone)

/-- The key of a domain comes behind an alias, around it, or with another text. Each of these
replies passes, and one that refuses the question has no result although the key comes with it. -/
theorem resolved_matching_aliased :
    let d : Domain := {
      metadata := { name := some "acme", ns := some "mail" }
      spec := { baseDomain := "acme.example", dkim := ⟨"s1", "MIIB"⟩ } }
    let probe : ProbeConfig := ⟨.v4 ⟨192, 0, 2, 53⟩ 53, .ofSecs 5, "spf.example", []⟩
    let record : Dns.Record := .text [Text.octets "v=DKIM1; p=MI", Text.octets "IB"]
    let other : Dns.Record := .text [Text.octets "v=spf1 -all"]
    (∃ q, query d .dkim = .ok q) ∧
      replied probe .dkim d ⟨.noError, [.other "CNAME", record]⟩ = .ok true ∧
      replied probe .dkim d ⟨.noError, [record, .other "CNAME", record]⟩ = .ok true ∧
      replied probe .dkim d ⟨.noError, [other, record]⟩ = .ok true ∧
      ∀ passed, replied probe .dkim d ⟨.refused, [record]⟩ ≠ .ok passed := by
  intro d probe record other
  have hq : query d .dkim = .ok
      ⟨"s1._domainkey.acme.example.", ⟨["s1", "_domainkey", "acme", "example"].map String.toList⟩,
        .txt⟩ := by decide +kernel
  obtain ⟨-, herror, -, hset, hmore, hpass, hmatch, -⟩ := resolved_matching probe d .dkim _ hq
  have hrecord : replied probe .dkim d ⟨.noError, [record]⟩ = .ok true :=
    (hmatch record).2 (.key (by decide +kernel))
  have halias : replied probe .dkim d ⟨.noError, [.other "CNAME", record]⟩ = .ok true :=
    (hpass _).2 ⟨record, by simp, rfl, hrecord⟩
  refine ⟨⟨_, hq⟩, halias, ?_, hmore [record] _ (by simp) hrecord, fun passed hok => ?_⟩
  · have hsame : ∀ a b x : Dns.Record, x ∈ [a, b, a] ↔ x ∈ [b, a] := by simp
    rw [hset [.other "CNAME", record] _ fun x _ => hsame record _ x, halias]
  · have hrefused := (herror ⟨.refused, [record]⟩ _).2 ⟨⟨nofun, nofun⟩, rfl⟩
    rw [hrefused] at hok
    cases hok

end Checker

end MailDomain
