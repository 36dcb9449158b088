import MailDomain.Proofs.Convergence.Resolver
import MailDomain.Proofs.Text.Decoding

/-!
# The character-strings of a text record

A text record carries its octets in strings, which are read one by one. Where the octets are cut
into strings does not matter, unless it is inside a character: two answers that carry the same
octets in strings that cut no character satisfy the same checks.

## Main definitions

* `Dns.Record.Recut`, `Dns.Exchange.Recut` — records and outcomes that carry the same octets in
  strings that cut no character.

## Main results

* `Checker.joined_eq_decode_iff` — the strings of a record are read as its octets at once exactly if
  they cut no character.
* `Checker.resolved_recut` — strings that cut no character satisfy the same checks.
* `Checker.resolved_parted` — strings that cut a character may not.
-/

set_option relaxedAutoImplicit false
set_option autoImplicit false

namespace MailDomain

open Text (Whole decodeFrom decode)

/-! ### Records and outcomes -/

/-- Two records are the same, or both are texts that carry the same octets in strings, where the
cuts of neither fall inside a character. -/
inductive Dns.Record.Recut : Dns.Record → Dns.Record → Prop
  | same (r : Dns.Record) : Recut r r
  | text {strings strings' : List (List UInt8)} : strings'.flatten = strings.flatten →
    Whole strings → Whole strings' → Recut (.text strings) (.text strings')

/-- Two outcomes of a question are the same, or both are replies with the same code, whose records
are `Recut` one by one. -/
inductive Dns.Exchange.Recut : Dns.Exchange → Dns.Exchange → Prop
  | same (e : Dns.Exchange) : Recut e e
  | answered (code : Dns.ResponseCode) {rs rs' : List Dns.Record} :
    List.Forall₂ Dns.Record.Recut rs rs' → Recut (.answered ⟨code, rs⟩) (.answered ⟨code, rs'⟩)

namespace Checker

variable {strings strings' : List (List UInt8)} {rs rs' : List Dns.Record}

/-! ### Texts -/

/-- The characters of `joined` strings are those that each string is decoded to by itself, one after
the other. -/
lemma toList_joined (strings : List (List UInt8)) :
    (joined strings).toList = (strings.map (decodeFrom none)).flatten := by
  rw [joined, String.join_eq, String.toList_ofList, List.map_map]
  simp [Function.comp_def, decode]

/-- **When strings are read as their octets at once**: the text that is `joined` from strings is
that of their octets without any cuts exactly if the strings are `Whole`.

**Proof sketch.** Both texts as lists of characters, by `toList_joined` and
`Text.flatten_decode_iff`. -/
theorem joined_eq_decode_iff : joined strings = decode strings.flatten ↔ Whole strings := by
  rw [← Text.flatten_decode_iff, ← String.toList_inj, toList_joined, decode, String.toList_ofList]

/-- The same octets in two ways of cutting that are both `Whole` have the same `joined` text. -/
lemma joined_recut (h : strings'.flatten = strings.flatten) (hs : Whole strings)
    (hs' : Whole strings') : joined strings' = joined strings := by
  rw [joined_eq_decode_iff.2 hs, joined_eq_decode_iff.2 hs', h]

/-- What a function takes of each record is the same for records that are `Recut` one by one, if it
is so for each of them. -/
lemma filterMap_recut {α : Type} {f : Dns.Record → Option α}
    (hf : ∀ {r r' : Dns.Record}, r.Recut r' → f r' = f r)
    (h : List.Forall₂ Dns.Record.Recut rs rs') : rs'.filterMap f = rs.filterMap f := by
  induction h with
  | nil => rfl
  | cons hr _ ih => rw [List.filterMap_cons, List.filterMap_cons, hf hr, ih]

/-- Records that are `Recut` have the same `texts`. -/
lemma texts_recut (h : List.Forall₂ Dns.Record.Recut rs rs') : texts rs' = texts rs := by
  refine filterMap_recut (fun hr => ?_) h
  cases hr with
  | same => rfl
  | text hoctets hs hs' => exact congrArg some (joined_recut hoctets hs hs')

/-- Records that are `Recut` have the same `addresses`. -/
lemma addresses_recut (h : List.Forall₂ Dns.Record.Recut rs rs') :
    addresses rs' = addresses rs := by
  refine filterMap_recut (fun hr => ?_) h
  cases hr <;> rfl

/-! ### Checks -/

/-- Records that are `Recut` satisfy the same checks of the same domains. -/
lemma passes_recut (h : List.Forall₂ Dns.Record.Recut rs rs') (probe : ProbeConfig) (d : Domain)
    (c : Check) : passes probe d c rs' = passes probe d c rs := by
  cases c with
  | dkim => rw [passes, passes, texts_recut h]
  | stats => rw [passes, passes, addresses_recut h]
  | spf => rw [passes, passes, texts_recut h]

/-- Outcomes that are `Recut` give the same failure, or records that satisfy the same checks. -/
lemma answers_recut {e e' : Dns.Exchange} (h : e.Recut e') (probe : ProbeConfig) (q : Dns.Query)
    (d : Domain) (c : Check) : (answers probe q e').map (passes probe d c) =
      (answers probe q e).map (passes probe d c) := by
  cases h with
  | same => rfl
  | answered code hrs =>
    cases code <;> simp [answers, Except.map, passes_recut hrs]

/-- **Where octets are cut into strings does not matter, except inside a character.** If two
resolvers give the same outcomes to all questions up to `Recut`, then every check of every domain
has the same result with both. The text of a record is then that of its octets at once, and it is so
only if no string cuts a character.

**Proof sketch.** A check has no question, and then neither resolver is asked, or it makes something
of the outcome of one question, which is the same by `answers_recut`. The second part is
`joined_eq_decode_iff`. -/
theorem resolved_recut (probe : ProbeConfig) (resolver resolver' : Dns.Query → Dns.Exchange)
    (h : ∀ q, (resolver q).Recut (resolver' q)) :
    (∀ c d, resolved probe resolver' c d = resolved probe resolver c d) ∧
      ∀ strings, joined strings = decode strings.flatten ↔ Whole strings := by
  refine ⟨fun c d => ?_, fun strings => joined_eq_decode_iff⟩
  unfold resolved check
  cases query d c with
  | error e => rfl
  | ok q => exact answers_recut (h q) probe q d c

/-- A key that was wrapped with a space beyond ASCII, and a policy with such a space, in strings
that are cut beside these spaces or at other places. -/
theorem resolved_recut_wrapped :
    let d : Domain := {
      metadata := { name := some "acme", ns := some "mail", generation := some 1 }
      spec := { baseDomain := "acme.example", dkim := ⟨"s1", "MIIBIjANBgkq"⟩ } }
    let probe : ProbeConfig := ⟨.v4 ⟨192, 0, 2, 53⟩ 53, .ofSecs 5, "spf.example", []⟩
    let record := Text.octets "v=DKIM1; p=MIIBIj\u00A0ANBgkq"
    let policy := Text.octets "v=spf1\u3000include:spf.example ~all"
    let resolver : Nat → Nat → Dns.Query → Dns.Exchange := fun i j q =>
      .answered ⟨.noError, if q.written = "s1._domainkey.acme.example." then
        [.text [record.take i, record.drop i]] else [.text [policy.take j, policy.drop j]]⟩
    (∀ q, (resolver 17 6 q).Recut (resolver 3 9 q)) ∧
      resolved probe (resolver 17 6) .dkim d = .ok true ∧
      resolved probe (resolver 3 9) .dkim d = .ok true ∧
      resolved probe (resolver 17 6) .spf d = .ok true ∧
      resolved probe (resolver 3 9) .spf d = .ok true := by
  intro d probe record policy resolver
  have hrecord : ∀ i, i = 17 ∨ i = 3 → Whole [record.take i, record.drop i] := by
    rintro i (rfl | rfl) <;> exact Text.flatten_decode_iff.1 (by decide +kernel)
  have hpolicy : ∀ j, j = 6 ∨ j = 9 → Whole [policy.take j, policy.drop j] := by
    rintro j (rfl | rfl) <;> exact Text.flatten_decode_iff.1 (by decide +kernel)
  have hrecut : ∀ q, (resolver 17 6 q).Recut (resolver 3 9 q) := by
    intro q
    refine .answered _ ?_
    split
    · exact .cons (.text (by simp) (hrecord 17 (.inl rfl)) (hrecord 3 (.inr rfl))) .nil
    · exact .cons (.text (by simp) (hpolicy 6 (.inl rfl)) (hpolicy 9 (.inr rfl))) .nil
  have hsame := (resolved_recut probe _ _ hrecut).1
  have hdkim : resolved probe (resolver 17 6) .dkim d = .ok true := by decide +kernel
  have hspf : resolved probe (resolver 17 6) .spf d = .ok true := by decide +kernel
  exact ⟨hrecut, hdkim, (hsame .dkim d).trans hdkim, hspf, (hsame .spf d).trans hspf⟩

/-- The same octets in one string and in two that cut a space: as one string, the record holds the
key and the policy includes the domain, and as two neither does. -/
theorem resolved_parted :
    let d : Domain := {
      metadata := { name := some "acme", ns := some "mail", generation := some 1 }
      spec := { baseDomain := "mail.acme.com", dkim := ⟨"kannon", "MIIBIjANBgkq"⟩ } }
    let probe : ProbeConfig := ⟨.v4 ⟨192, 0, 2, 53⟩ 53, .ofSecs 5, "_spf.kannon.email", []⟩
    let record := Text.octets "v=DKIM1; p=MIIBIj\u00A0ANBgkq"
    let policy := Text.octets "v=spf1\u00A0include:_spf.kannon.email ~all"
    let reply (strings : List (List UInt8)) : Dns.Query → Dns.Exchange := fun _ =>
      .answered ⟨.noError, [.text strings]⟩
    [record.take 18, record.drop 18].flatten = [record].flatten ∧
      [policy.take 7, policy.drop 7].flatten = [policy].flatten ∧
      record.length ≤ 255 ∧ policy.length ≤ 255 ∧
      joined [record.take 18, record.drop 18] ≠ joined [record] ∧
      resolved probe (reply [record]) .dkim d = .ok true ∧
      resolved probe (reply [record.take 18, record.drop 18]) .dkim d = .ok false ∧
      resolved probe (reply [policy]) .spf d = .ok true ∧
      resolved probe (reply [policy.take 7, policy.drop 7]) .spf d = .ok false := by
  decide +kernel

end Checker

end MailDomain
