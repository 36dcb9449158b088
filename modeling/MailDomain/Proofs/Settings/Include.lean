import MailDomain.Proofs.Convergence.Resolver
import MailDomain.Proofs.Record.Policies
import MailDomain.Settings.Basic

/-!
# Whether the domain of the settings can be included

The settings of the operator name the domain that every policy must include. It is not blank in
settings that are accepted, and white space at its ends is left out. White space within it stays,
and no policy can include such a domain: a policy is cut into words at its white space.

## Main definitions

* `Spf.policyWith` — a policy that was made to include a domain.

## Main results

* `Spf.delegatesTo_policyWith` — a domain without white space is included by such a policy.
* `Spf.not_isBlank_of_delegatesTo` — a domain that is included by any policy has no white space.
* `Settings.include_satisfiable` — whether the domain of accepted settings can be included.
* `Settings.include_unsatisfiable` — accepted settings whose domain cannot be.
-/

set_option relaxedAutoImplicit false
set_option autoImplicit false

namespace MailDomain

open Text

/-! ### Policies that include a domain -/

namespace Spf

/-- The policy of the version tag, the terms `before`, the mechanism that includes `domain`, and the
terms `after`, with a space between each two of them. -/
def policyWith (before : List String) (domain : String) (after : List String) : String :=
  " ".intercalate ("v=spf1" :: (before ++ ("include:" ++ domain) :: after))

variable {domain : String}

/-- The words of `policyWith` are the version tag, those of the terms, and the mechanism in between,
which is one word if the domain has no white space. -/
lemma spaced_policyWith (hdomain : ∀ c ∈ domain.toList, isBlank c = false)
    (before after : List String) :
    Spaced ("v=spf1".toList :: (before.flatMap (fun t => words t.toList) ++
      ("include:".toList ++ domain.toList) :: after.flatMap fun t => words t.toList))
      (policyWith before domain after).toList := by
  have hname : ∀ c ∈ "include:".toList, isBlank c = false := not_isBlank_of_all (by decide)
  have hmechanism : IsWord ("include:".toList ++ domain.toList) :=
    ⟨List.append_ne_nil_of_left_ne_nil (by decide) _, List.forall_mem_append.2 ⟨hname, hdomain⟩⟩
  have htag : IsWord "v=spf1".toList := ⟨by decide, not_isBlank_of_all (by decide)⟩
  have hspace : " ".toList = [' '] := rfl
  rw [← words_eq_iff, policyWith, String.toList_intercalate, hspace, words_intercalate rfl,
    List.flatMap_map, List.flatMap_cons, List.flatMap_append, List.flatMap_cons,
    String.toList_append, htag.words_eq, hmechanism.words_eq]
  rfl

/-- A domain without white space is included by every policy that was made by `policyWith` to
include it. -/
theorem delegatesTo_policyWith (hdomain : ∀ c ∈ domain.toList, isBlank c = false)
    (before after : List String) : delegatesTo (policyWith before domain after) domain = true := by
  have hself : SameDomain domain.toList domain.toList :=
    ⟨_, _, 0, 0, (List.append_nil _).symm, (List.append_nil _).symm, rfl⟩
  have hterm : IsInclude domain.toList [] ("include:".toList ++ domain.toList) :=
    ⟨"include".toList, domain.toList, rfl, List.forall_mem_nil _, by decide, hself⟩
  rw [delegatesTo_of_spaced (spaced_policyWith hdomain before after)]
  exact accepts_iff.2 ⟨_, _, rfl, by decide, _, by simp, (isInclude_iff.1 hterm).1⟩

/-- A domain that is included by some policy has no white space.

**Proof sketch.** The domain of a mechanism is a part of a word. It is the same up to case and dots,
and no letter or dot is white space. -/
theorem not_isBlank_of_delegatesTo {policy : String} (h : delegatesTo policy domain = true) :
    ∀ c ∈ domain.toList, isBlank c = false := by
  obtain ⟨tag, terms, hspaced, -, term, hterm, hincludes⟩ := exists_of_delegatesTo h
  have hword : IsWord term := hspaced.isWord term (List.mem_cons_of_mem _ hterm)
  obtain ⟨mechanism, argument, hparts, -, -, a, b, m, n, rfl, hb, hfolded⟩ :=
    isInclude_iff.2 ⟨hincludes, rfl⟩
  intro c hc
  rw [hb, List.mem_append] at hc
  rcases hc with hc | hc
  · have hlower : c.toLower ∈ a.map Char.toLower := hfolded ▸ List.mem_map_of_mem hc
    obtain ⟨d, hd, hdc⟩ := List.mem_map.1 hlower
    have hblank : isBlank d = false := hword.2 d (by rw [hparts]; simp [hd])
    rw [← isBlank_toLower, ← hdc, isBlank_toLower, hblank]
  · rw [List.eq_of_mem_replicate hc]
    rfl

end Spf

/-! ### The domain of the settings -/

namespace Settings

/-- Settings that `validate` accepts name a domain for policies to include. -/
lemma spfInclude_ne_empty {s : Settings} (h : s.validate = .ok ()) :
    s.probeConfig.spfInclude ≠ "" := by
  have hnamed : isBlankText s.spfInclude = false := by
    unfold validate at h
    split at h
    · cases h
    split at h
    · cases h
    · next hnamed => exact Bool.eq_false_iff.2 hnamed
  intro hempty
  have htrim : trim s.spfInclude.toList = [] := by
    simpa [probeConfig, trimmed] using congrArg String.toList hempty
  have hblank := squeeze_trim s.spfInclude.toList
  rw [htrim, squeeze_nil, eq_comm, squeeze_eq_nil_iff] at hblank
  rw [isBlankText, List.all_eq_true.2 hblank] at hnamed
  cases hnamed

/-- **Whether the domain of accepted settings can be included.** Accepted settings name a domain. If
there is no white space in it, then every policy with the mechanism that includes it does so,
whatever the other terms are. If there is, then no policy includes it, and the check of the policy
passes for no domain, whatever the resolver answers.

**Proof sketch.** The first two parts are `spfInclude_ne_empty` and `delegatesTo_policyWith`. For
the third, `not_isBlank_of_delegatesTo` leaves no policy, and the check of the policy passes only if
some text among the answers is one. -/
theorem include_satisfiable (s : Settings) (h : s.validate = .ok ()) :
    let domain := s.probeConfig.spfInclude
    domain ≠ "" ∧
      ((∀ c ∈ domain.toList, isBlank c = false) →
        ∀ before after, Spf.delegatesTo (Spf.policyWith before domain after) domain = true) ∧
      ((∃ c ∈ domain.toList, isBlank c = true) →
        (∀ policy, Spf.delegatesTo policy domain = false) ∧
          ∀ resolver d, Checker.resolved s.probeConfig resolver .spf d ≠ .ok true) := by
  intro domain
  refine ⟨spfInclude_ne_empty h, Spf.delegatesTo_policyWith, ?_⟩
  rintro ⟨c, hc, hblank⟩
  have hnone : ∀ policy, Spf.delegatesTo policy domain = false := by
    intro policy
    rw [Bool.eq_false_iff]
    intro hpolicy
    rw [Spf.not_isBlank_of_delegatesTo hpolicy c hc] at hblank
    cases hblank
  refine ⟨hnone, fun resolver d => ?_⟩
  have hfails : ∀ rs, Checker.passes s.probeConfig d .spf rs = false := fun rs =>
    List.any_eq_false.2 fun text _ => Bool.eq_false_iff.1 (hnone text)
  cases hq : Checker.query d .spf with
  | error e =>
    rw [Checker.resolved_of_query_error _ resolver hq]
    exact nofun
  | ok q =>
    rw [Checker.resolved_of_query_ok _ resolver hq]
    cases Checker.answers s.probeConfig q (resolver q) with
    | error e => exact nofun
    | ok rs => simp [Except.map, hfails]

/-- The domain of the default settings, and one with spaces at its ends. -/
theorem include_satisfiable_trimmed :
    let s : Settings := {}
    let s' : Settings := { spfInclude := " \tspf.example.\n" }
    s.validate = .ok () ∧ s'.validate = .ok () ∧
      Spf.delegatesTo (Spf.policyWith ["mx"] s.probeConfig.spfInclude ["~all"])
        s.probeConfig.spfInclude = true ∧
      Spf.delegatesTo (Spf.policyWith [] s'.probeConfig.spfInclude ["a", "-all"])
        s'.probeConfig.spfInclude = true := by
  intro s s'
  have hs : s.validate = .ok () := by decide +kernel
  have hs' : s'.validate = .ok () := by decide +kernel
  have hword : ∀ c ∈ s.probeConfig.spfInclude.toList, isBlank c = false :=
    not_isBlank_of_all (by decide +kernel)
  have hword' : ∀ c ∈ s'.probeConfig.spfInclude.toList, isBlank c = false :=
    not_isBlank_of_all (by decide +kernel)
  exact ⟨hs, hs', (include_satisfiable s hs).2.1 hword ["mx"] ["~all"],
    (include_satisfiable s' hs').2.1 hword' [] ["a", "-all"]⟩

/-- Settings with two domains in the place of one are accepted, and not even the policy with the
mechanism that includes what they name does so. -/
theorem include_unsatisfiable :
    let s : Settings := { spfInclude := "_spf.kannon.email _spf.example.org" }
    let domain := s.probeConfig.spfInclude
    s.validate = .ok () ∧
      Spf.policyWith [] domain ["~all"] =
        "v=spf1 include:_spf.kannon.email _spf.example.org ~all" ∧
      Spf.delegatesTo (Spf.policyWith [] domain ["~all"]) domain = false := by
  decide +kernel

end Settings

end MailDomain
