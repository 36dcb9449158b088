import MailDomain.Proofs.Text.Words
import MailDomain.Record.Spf

/-!
# Which SPF policies include a domain

A policy is a version tag and terms, and it includes a domain if one of the terms is an `include`
mechanism for it. How it is written does not matter: neither the white space around the terms, nor
the case of letters, nor dots at the ends of domains, nor the order of the terms. A mechanism is
found after any number of qualifiers, while the grammar of policies has at most one before it.

## Main definitions

* `Spf.IsInclude` — a term is an `include` mechanism for a domain, said without reading it.
* `Spf.Delegates` — a policy has such a term, with qualifiers of some kind.
* `Spf.Restyled` — one change in how a policy and a domain are written.

## Main results

* `Spf.delegatesTo_iff` — which policies are taken, and which of them keep to the grammar.
* `Spf.delegatesTo_doubly_qualified` — a policy that is taken and does not keep to the grammar.
* `Spf.delegatesTo_restyled` — how a policy is written does not matter, and more terms do no harm.
-/

set_option relaxedAutoImplicit false
set_option autoImplicit false

namespace MailDomain.Spf

open Text

variable {a b domain term qualifiers tag : List Char} {terms : List (List Char)}
  {policy policy' : String}

/-! ### Domains -/

/-- The domains `a` and `b` are the same up to the case of letters and the dots at their ends. -/
def SameDomain (a b : List Char) : Prop :=
  ∃ a' b' m n, a = a' ++ List.replicate m '.' ∧ b = b' ++ List.replicate n '.' ∧
    a'.map Char.toLower = b'.map Char.toLower

/-- Two texts are equal by `sameFolded` exactly if they are equal in lower case. -/
lemma sameFolded_iff : sameFolded a b = true ↔ a.map Char.toLower = b.map Char.toLower :=
  beq_iff_eq

/-- More dots at the end of a domain are dropped too by `withoutEndDots`. -/
lemma withoutEndDots_append_dots (a : List Char) (n : ℕ) :
    withoutEndDots (a ++ List.replicate n '.') = withoutEndDots a :=
  dropEnd_append_of_all (fun d hd => by simp [List.eq_of_mem_replicate hd]) a

/-- A domain is what `withoutEndDots` leaves of it, followed by dots. -/
lemma exists_eq_append_dots (a : List Char) :
    ∃ n, a = withoutEndDots a ++ List.replicate n '.' := by
  obtain ⟨ds, ha, hds⟩ := dropEnd_append_end (· == '.') a
  have hdots : ds = List.replicate ds.length '.' :=
    List.eq_replicate_iff.2 ⟨rfl, fun d hd => beq_iff_eq.1 (hds d hd)⟩
  exact ⟨ds.length, hdots ▸ ha⟩

/-- Dropping the dots at the end and putting in lower case can be done in either order. -/
lemma withoutEndDots_map_toLower (a : List Char) :
    withoutEndDots (a.map Char.toLower) = (withoutEndDots a).map Char.toLower := by
  refine dropEnd_map_toLower (fun c => ?_) a
  rw [Bool.eq_iff_iff, beq_iff_eq, beq_iff_eq, toLower_eq_iff rfl]

/-- The relation `SameDomain` as it is computed: two domains are equal by `sameFolded` without the
dots at their ends. -/
lemma sameDomain_iff :
    SameDomain a b ↔ sameFolded (withoutEndDots a) (withoutEndDots b) = true := by
  rw [sameFolded_iff]
  constructor
  · rintro ⟨a', b', m, n, rfl, rfl, h⟩
    rw [withoutEndDots_append_dots, withoutEndDots_append_dots, ← withoutEndDots_map_toLower, h,
      withoutEndDots_map_toLower]
  · intro h
    obtain ⟨m, ha⟩ := exists_eq_append_dots a
    obtain ⟨n, hb⟩ := exists_eq_append_dots b
    exact ⟨_, _, m, n, ha, hb, h⟩

/-! ### Mechanisms -/

/-- The term consists of the `qualifiers`, the name of the `include` mechanism in any case, a colon,
and an argument that is the same domain as `domain`. -/
def IsInclude (domain qualifiers term : List Char) : Prop :=
  ∃ mechanism argument, term = qualifiers ++ (mechanism ++ ':' :: argument) ∧
    (∀ c ∈ qualifiers, isQualifier c = true) ∧
    mechanism.map Char.toLower = "include".toList ∧ SameDomain argument domain

/-- A qualifier is no letter, and so is not changed by putting it in lower case. -/
lemma isAlpha_of_isQualifier {c : Char} (hc : isQualifier c = true) : c.isAlpha = false := by
  simp only [isQualifier, Bool.or_eq_true, beq_iff_eq] at hc
  rcases hc with ((rfl | rfl) | rfl) | rfl <;> rfl

/-- A character is a qualifier in lower case exactly if it is one. -/
lemma isQualifier_toLower (c : Char) : isQualifier c.toLower = isQualifier c := by
  rw [Bool.eq_iff_iff]
  simp only [isQualifier, Bool.or_eq_true, beq_iff_eq]
  rw [toLower_eq_iff rfl, toLower_eq_iff rfl, toLower_eq_iff rfl, toLower_eq_iff rfl]

/-- A text that begins with the name of the mechanism begins with no qualifier, and there is no
colon in the name. -/
lemma mechanism_spec (h : a.map Char.toLower = "include".toList) (b : List Char) :
    (a ++ b).takeWhile isQualifier = [] ∧ (a ++ b).dropWhile isQualifier = a ++ b ∧ ':' ∉ a := by
  have hcolon : ':' ∉ a := fun hmem => by
    have hlower := List.mem_map_of_mem (f := Char.toLower) hmem
    rw [h] at hlower
    exact absurd hlower (by decide)
  cases a with
  | nil => simp at h
  | cons c a =>
    have hc : c.toLower = 'i' := (List.cons.inj h).1
    have hletter : ¬ isQualifier c = true := fun hq => by
      have halpha := isAlpha_of_isQualifier hq
      rw [← Char.isAlpha_toLower_eq_isAlpha, hc] at halpha
      exact absurd halpha (by decide)
    rw [List.cons_append]
    exact ⟨List.takeWhile_cons_of_neg hletter, List.dropWhile_cons_of_neg hletter, hcolon⟩

/-- **When a term is an `include` mechanism.** It is one after the given qualifiers exactly if
`includes` finds it to be one and these are all the qualifiers that it begins with, since the name
of the mechanism begins with none. -/
theorem isInclude_iff :
    IsInclude domain qualifiers term ↔
      includes domain term = true ∧ term.takeWhile isQualifier = qualifiers := by
  constructor
  · rintro ⟨mechanism, argument, rfl, hqualifiers, hmechanism, hdomain⟩
    obtain ⟨htake, hdrop, hcolon⟩ := mechanism_spec hmechanism (':' :: argument)
    have hcut : cutAt? ':' (mechanism ++ ':' :: argument) = some (mechanism, argument) :=
      cutAt?_eq_some_iff.2 ⟨rfl, hcolon⟩
    rw [includes, List.dropWhile_append_of_pos hqualifiers, hdrop, hcut,
      List.takeWhile_append_of_pos hqualifiers, htake, List.append_nil]
    exact ⟨Bool.and_eq_true_iff.2 ⟨sameFolded_iff.2 hmechanism, sameDomain_iff.1 hdomain⟩, rfl⟩
  · rintro ⟨hincludes, rfl⟩
    rw [includes] at hincludes
    split at hincludes
    · next mechanism argument hcut =>
      obtain ⟨hdrop, -⟩ := cutAt?_eq_some_iff.1 hcut
      obtain ⟨hmechanism, hdomain⟩ := Bool.and_eq_true_iff.1 hincludes
      refine ⟨mechanism, argument, ?_, fun c => List.mem_takeWhile_imp,
        sameFolded_iff.1 hmechanism, sameDomain_iff.2 hdomain⟩
      rw [← hdrop, List.takeWhile_append_dropWhile]
    · cases hincludes

/-! ### Policies -/

/-- The text is a policy for the domain by its grammar: its words are the version tag and some
terms, one of which is an `include` mechanism, the qualifiers before it being `Allowed`. -/
def Delegates (Allowed : List Char → Prop) (policy domain : String) : Prop :=
  ∃ tag terms, Spaced (tag :: terms) policy.toList ∧ tag.map Char.toLower = versionTag ∧
    ∃ term ∈ terms, ∃ qualifiers, Allowed qualifiers ∧ IsInclude domain.toList qualifiers term

/-- Whether the words are the version tag and terms, one of which `includes` the domain. -/
def accepts (domain : List Char) : List (List Char) → Bool
  | [] => false
  | tag :: terms => isVersion tag && terms.any (includes domain)

/-- Whether a text delegates to a domain is whether its words are accepted. -/
lemma delegatesTo_of_spaced {ws : List (List Char)} (h : Spaced ws policy.toList)
    (domain : String) : delegatesTo policy domain = accepts domain.toList ws := by
  rw [delegatesTo, h.words_eq]
  cases ws <;> rfl

/-- Words are accepted exactly if the first is the version tag and some later one `includes` the
domain. -/
lemma accepts_iff {ws : List (List Char)} : accepts domain ws = true ↔
    ∃ tag terms, ws = tag :: terms ∧ isVersion tag = true ∧
      ∃ term ∈ terms, includes domain term = true := by
  cases ws with
  | nil => simp [accepts]
  | cons tag terms => simp [accepts]

/-- A text that delegates to a domain is `Spaced` into the version tag and terms, of which one
`includes` the domain. -/
lemma exists_of_delegatesTo {domain : String} (h : delegatesTo policy domain = true) :
    ∃ tag terms, Spaced (tag :: terms) policy.toList ∧ isVersion tag = true ∧
      ∃ term ∈ terms, includes domain.toList term = true := by
  have hspaced := spaced_words policy.toList
  rw [delegatesTo_of_spaced hspaced] at h
  obtain ⟨tag, terms, hwords, hpolicy⟩ := accepts_iff.1 h
  exact ⟨tag, terms, hwords ▸ hspaced, hpolicy⟩

/-- A word is the version tag exactly if it is `versionTag` in lower case. -/
lemma isVersion_iff : isVersion tag = true ↔ tag.map Char.toLower = versionTag := by
  have htag : versionTag.map Char.toLower = versionTag := by decide
  rw [isVersion, sameFolded_iff, htag]

/-- A text that is `Spaced` into words `Delegates` exactly if the first word is the version tag and
some later one `includes` the domain after qualifiers that are `Allowed`. There is no other way to
read it. -/
lemma delegates_iff_of_spaced {Allowed : List Char → Prop} {domain : String}
    (h : Spaced (tag :: terms) policy.toList) :
    Delegates Allowed policy domain ↔ isVersion tag = true ∧
      ∃ term ∈ terms, includes domain.toList term = true ∧
        Allowed (term.takeWhile isQualifier) := by
  constructor
  · rintro ⟨tag', terms', h', htag, term, hterm, qualifiers, hallowed, hinclude⟩
    cases h.words_eq.symm.trans h'.words_eq
    obtain ⟨hincludes, rfl⟩ := isInclude_iff.1 hinclude
    exact ⟨isVersion_iff.2 htag, term, hterm, hincludes, hallowed⟩
  · rintro ⟨htag, term, hterm, hincludes, hallowed⟩
    exact ⟨tag, terms, h, isVersion_iff.1 htag, term, hterm, _, hallowed,
      isInclude_iff.2 ⟨hincludes, rfl⟩⟩

/-- **Which policies include a domain.** A text is taken for a policy that includes a domain exactly
if its first word is the version tag and a later one is an `include` mechanism for the domain, after
any number of qualifiers. The grammar of policies has at most one qualifier before a mechanism. So
what keeps to it is taken, and where no word begins with two qualifiers nothing else is.

**Proof sketch.** By `Text.words_eq_iff` a text is made of its words in one way, so that
`delegates_iff_of_spaced` and `delegatesTo_of_spaced` speak of the same words. The name of the
mechanism begins with no qualifier, so that by `isInclude_iff` the qualifiers of a term are the
longest run of them at its start. -/
theorem delegatesTo_iff (policy domain : String) :
    (delegatesTo policy domain = true ↔ Delegates (fun _ => True) policy domain) ∧
      (Delegates (·.length ≤ 1) policy domain → delegatesTo policy domain = true) ∧
      ((∀ term ∈ words policy.toList, (term.takeWhile isQualifier).length ≤ 1) →
        (delegatesTo policy domain = true ↔ Delegates (·.length ≤ 1) policy domain)) := by
  have hany : delegatesTo policy domain = true ↔ Delegates (fun _ => True) policy domain := by
    constructor
    · intro h
      obtain ⟨tag, terms, hspaced, htag, term, hterm, hincludes⟩ := exists_of_delegatesTo h
      exact (delegates_iff_of_spaced hspaced).2 ⟨htag, term, hterm, hincludes, trivial⟩
    · intro h
      obtain ⟨tag, terms, hspaced, -⟩ := id h
      obtain ⟨htag, term, hterm, hincludes, -⟩ := (delegates_iff_of_spaced hspaced).1 h
      rw [delegatesTo_of_spaced hspaced]
      exact accepts_iff.2 ⟨tag, terms, rfl, htag, term, hterm, hincludes⟩
  have hone : Delegates (·.length ≤ 1) policy domain → delegatesTo policy domain = true := by
    rintro ⟨tag, terms, hspaced, htag, term, hterm, qualifiers, -, hincludes⟩
    exact hany.2 ⟨tag, terms, hspaced, htag, term, hterm, qualifiers, trivial, hincludes⟩
  refine ⟨hany, hone, fun hsingle => ⟨fun h => ?_, hone⟩⟩
  obtain ⟨tag, terms, hspaced, htag, term, hterm, hincludes⟩ := exists_of_delegatesTo h
  have hmem : term ∈ words policy.toList := by
    rw [hspaced.words_eq]
    exact List.mem_cons_of_mem _ hterm
  exact (delegates_iff_of_spaced hspaced).2 ⟨htag, term, hterm, hincludes, hsingle term hmem⟩

/-- A policy with one qualifier before its mechanism keeps to the grammar, and is taken. -/
theorem delegatesTo_iff_qualified :
    let policy := " V=spf1\tmx ?Include:_SPF.kannon.email..\u3000~all"
    (∀ term ∈ words policy.toList, (term.takeWhile isQualifier).length ≤ 1) ∧
      delegatesTo policy "_spf.Kannon.email." = true ∧
      Delegates (·.length ≤ 1) policy "_spf.Kannon.email." := by
  intro policy
  have hsingle : ∀ term ∈ words policy.toList, (term.takeWhile isQualifier).length ≤ 1 := by
    decide +kernel
  have htaken : delegatesTo policy "_spf.Kannon.email." = true := by decide +kernel
  exact ⟨hsingle, htaken, ((delegatesTo_iff policy _).2.2 hsingle).1 htaken⟩

/-- A policy that has two qualifiers before its one mechanism is taken, though it does not keep to
the grammar. -/
theorem delegatesTo_doubly_qualified :
    let policy := "v=spf1 +-include:_spf.kannon.email ~all"
    delegatesTo policy "_spf.kannon.email" = true ∧
      ¬ Delegates (·.length ≤ 1) policy "_spf.kannon.email" := by
  intro policy
  have hspaced : Spaced ("v=spf1".toList ::
      ["+-include:_spf.kannon.email".toList, "~all".toList]) policy.toList :=
    words_eq_iff.1 (by decide +kernel)
  refine ⟨by decide +kernel, ?_⟩
  rw [delegates_iff_of_spaced hspaced]
  decide +kernel

/-! ### Presentation -/

/-- One change in how a policy and a domain are written, each as a pair: other white space around
the words, other cases of letters, dots at the end of the domain or of a word after the first, or
another order of these words. -/
inductive Restyled : String × String → String × String → Prop
  | spacing {policy policy' : String} {ws : List (List Char)} (domain : String) :
    Spaced ws policy.toList → Spaced ws policy'.toList →
      Restyled (policy, domain) (policy', domain)
  | policyCase {policy policy' : String} (domain : String) :
    policy'.toList.map Char.toLower = policy.toList.map Char.toLower →
      Restyled (policy, domain) (policy', domain)
  | domainCase {domain domain' : String} (policy : String) :
    domain'.toList.map Char.toLower = domain.toList.map Char.toLower →
      Restyled (policy, domain) (policy, domain')
  | domainDots {domain domain' : String} (policy : String) (n : ℕ) :
    domain'.toList = domain.toList ++ List.replicate n '.' →
      Restyled (policy, domain) (policy, domain')
  | termDots {policy policy' : String} {tag term : List Char} {before after : List (List Char)}
      (domain : String) (n : ℕ) :
    Spaced (tag :: (before ++ term :: after)) policy.toList →
      Spaced (tag :: (before ++ (term ++ List.replicate n '.') :: after)) policy'.toList →
        Restyled (policy, domain) (policy', domain)
  | order {policy policy' : String} {tag : List Char} {terms terms' : List (List Char)}
      (domain : String) :
    Spaced (tag :: terms) policy.toList → Spaced (tag :: terms') policy'.toList →
      terms'.Perm terms → Restyled (policy, domain) (policy', domain)

/-- Whether a term `includes` a domain does not depend on the case of letters. -/
lemma includes_map_toLower (domain term : List Char) :
    includes (domain.map Char.toLower) (term.map Char.toLower) = includes domain term := by
  have hqualifier : isQualifier ∘ Char.toLower = isQualifier := funext isQualifier_toLower
  have hfolded : ∀ x y : List Char,
      sameFolded (x.map Char.toLower) (y.map Char.toLower) = sameFolded x y := by
    simp [sameFolded, Function.comp_def]
  have hname : "include".toList = "include".toList.map Char.toLower := by decide
  rw [includes, includes, List.dropWhile_map, hqualifier, cutAt?_map_toLower rfl]
  cases cutAt? ':' (term.dropWhile isQualifier) with
  | none => rfl
  | some p =>
    rw [Option.map_some]
    dsimp only
    rw [withoutEndDots_map_toLower, withoutEndDots_map_toLower, hfolded]
    nth_rewrite 1 [hname]
    rw [hfolded]

/-- Whether words are accepted for a domain does not depend on the case of letters. -/
lemma accepts_map_toLower (domain : List Char) (ws : List (List Char)) :
    accepts (domain.map Char.toLower) (ws.map (List.map Char.toLower)) = accepts domain ws := by
  cases ws with
  | nil => rfl
  | cons tag terms =>
    have hversion : isVersion (tag.map Char.toLower) = isVersion tag := by
      simp [isVersion, sameFolded, Function.comp_def]
    have hincludes : includes (domain.map Char.toLower) ∘ List.map Char.toLower =
        includes domain := funext (includes_map_toLower domain)
    rw [List.map_cons, accepts, accepts, hversion, List.any_map, hincludes]

/-- Dots at the end of the domain do not change which terms `includes` finds. -/
lemma includes_domain_dots (domain : List Char) (n : ℕ) :
    includes (domain ++ List.replicate n '.') = includes domain := by
  funext term
  rw [includes, includes, withoutEndDots_append_dots]

/-- Dots at the end of a term do not change whether it `includes` a domain. -/
lemma includes_term_dots (domain term : List Char) (n : ℕ) :
    includes domain (term ++ List.replicate n '.') = includes domain term := by
  have hcolon : ':' ∉ List.replicate n '.' := fun h =>
    absurd (List.eq_of_mem_replicate h) (by decide)
  have hdots : (List.replicate n '.').dropWhile isQualifier = List.replicate n '.' := by
    cases n <;> rfl
  -- the dots stay even after a term of nothing but qualifiers
  have hdrop : (term ++ List.replicate n '.').dropWhile isQualifier =
      term.dropWhile isQualifier ++ List.replicate n '.' := by
    rw [List.dropWhile_append, hdots]
    split
    · next hempty => rw [List.isEmpty_iff.1 hempty, List.nil_append]
    · rfl
  rw [includes, includes, hdrop, cutAt?_append hcolon]
  cases cutAt? ':' (term.dropWhile isQualifier) with
  | none => rfl
  | some p =>
    rw [Option.map_some]
    dsimp only
    rw [withoutEndDots_append_dots]

/-- One change by `Restyled` does not change whether the policy delegates to the domain. -/
lemma Restyled.delegatesTo_eq {p p' : String × String} (h : Restyled p p') :
    delegatesTo p'.1 p'.2 = delegatesTo p.1 p.2 := by
  cases h with
  | spacing domain hws hws' => rw [delegatesTo_of_spaced hws, delegatesTo_of_spaced hws']
  | policyCase domain hcase =>
    have hwords := congrArg words hcase
    rw [words_map_toLower, words_map_toLower] at hwords
    rw [delegatesTo_of_spaced (spaced_words _), delegatesTo_of_spaced (spaced_words _),
      ← accepts_map_toLower, hwords, accepts_map_toLower]
  | domainCase policy hcase =>
    rw [delegatesTo_of_spaced (spaced_words _), delegatesTo_of_spaced (spaced_words _),
      ← accepts_map_toLower, hcase, accepts_map_toLower]
  | domainDots policy n hdots =>
    rw [delegatesTo_of_spaced (spaced_words _), delegatesTo_of_spaced (spaced_words _), hdots]
    cases words policy.toList with
    | nil => rfl
    | cons tag terms => rw [accepts, accepts, includes_domain_dots]
  | termDots domain n hws hws' =>
    rw [delegatesTo_of_spaced hws, delegatesTo_of_spaced hws', accepts, accepts, List.any_append,
      List.any_append, List.any_cons, List.any_cons, includes_term_dots]
  | order domain hws hws' hperm =>
    rw [delegatesTo_of_spaced hws, delegatesTo_of_spaced hws', accepts, accepts, hperm.any_eq]

/-- Any number of changes by `Restyled`, each made or undone, do not change it either. -/
lemma delegatesTo_eq_of_eqvGen {p p' : String × String} (h : Relation.EqvGen Restyled p p') :
    delegatesTo p'.1 p'.2 = delegatesTo p.1 p.2 := by
  induction h with
  | rel p p' hchange => exact hchange.delegatesTo_eq
  | refl p => rfl
  | symm p p' _ ih => exact ih.symm
  | trans p q r _ _ ih ih' => exact ih'.trans ih

/-- **How a policy is written does not matter, and more terms do no harm.** Whether a policy
includes a domain stays as it is when the white space around its words is replaced, when letters of
the two change their case, when dots are put at the end of the domain or of a word after the first,
and when these words are put into another order, and so it does after any number of such changes. If
the policy includes the domain, then it does so with more words after the first, at any places.

**Proof sketch.** By `Restyled.delegatesTo_eq` for one change, and induction for any number. Only
the words of a text are looked at, see `delegatesTo_of_spaced`. Neither white space nor the
characters at which a term is taken apart are letters, so that the parts of a text in lower case are
those of the text in lower case, `accepts_map_toLower`. The dots at the end of a term are at the end
of its domain if it has one, `includes_term_dots`. More terms leave the one that was found. -/
theorem delegatesTo_restyled {domain domain' : String}
    (h : Relation.EqvGen Restyled (policy, domain) (policy', domain')) :
    delegatesTo policy' domain' = delegatesTo policy domain ∧
      ∀ {tag : List Char} {terms terms' : List (List Char)} {longer : String},
        Spaced (tag :: terms) policy'.toList → Spaced (tag :: terms') longer.toList →
          terms.Sublist terms' → delegatesTo policy domain = true →
            delegatesTo longer domain' = true := by
  have hsame : delegatesTo policy' domain' = delegatesTo policy domain :=
    delegatesTo_eq_of_eqvGen h
  refine ⟨hsame, fun hpolicy hlonger hsub hholds => ?_⟩
  rw [← hsame, delegatesTo_of_spaced hpolicy] at hholds
  obtain ⟨tag, terms, hwords, htag, term, hterm, hincludes⟩ := accepts_iff.1 hholds
  cases hwords
  rw [delegatesTo_of_spaced hlonger]
  exact accepts_iff.2 ⟨_, _, rfl, htag, term, hsub.subset hterm, hincludes⟩

/-- A policy and a domain in other letters, with other white space, more dots and another order of
the words, and the policy with one more word. -/
theorem delegatesTo_restyled_shuffled :
    let policy := "v=spf1 mx include:_spf.kannon.email ~all"
    let policy' := "\u2003V=SPF1 ~ALL\n\tIncLude:_SPF.kannon.EMAIL.. mx"
    let longer := "V=SPF1 +a ~ALL IncLude:_SPF.kannon.EMAIL.. ip4:192.0.2.1 mx"
    Relation.EqvGen Restyled (policy, "_spf.kannon.email.") (policy', "_SPF.kannon.email") ∧
      delegatesTo policy "_spf.kannon.email." = true ∧
      delegatesTo policy' "_SPF.kannon.email" = true ∧
      delegatesTo longer "_SPF.kannon.email" = true := by
  intro policy policy' longer
  -- the changes one after the other: letters, dots of a word, order, letters and dots of the domain
  let spelled := "V=SPF1 mx IncLude:_SPF.kannon.EMAIL ~ALL"
  let dotted := "V=SPF1 mx IncLude:_SPF.kannon.EMAIL.. ~ALL"
  have hspelled : Restyled (policy, "_spf.kannon.email.") (spelled, "_spf.kannon.email.") :=
    .policyCase _ (by decide +kernel)
  have hwords : Spaced ("V=SPF1".toList ::
      (["mx".toList] ++ "IncLude:_SPF.kannon.EMAIL".toList :: ["~ALL".toList])) spelled.toList :=
    words_eq_iff.1 (by decide +kernel)
  have hwords' : Spaced ("V=SPF1".toList ::
      (["mx".toList] ++ ("IncLude:_SPF.kannon.EMAIL".toList ++ List.replicate 2 '.') ::
        ["~ALL".toList])) dotted.toList :=
    words_eq_iff.1 (by decide +kernel)
  have hdotted : Restyled (spelled, "_spf.kannon.email.") (dotted, "_spf.kannon.email.") :=
    .termDots _ 2 hwords hwords'
  have hshuffled : Spaced ("V=SPF1".toList ::
      ["~ALL".toList, "IncLude:_SPF.kannon.EMAIL..".toList, "mx".toList]) policy'.toList :=
    words_eq_iff.1 (by decide +kernel)
  have horder : Restyled (dotted, "_spf.kannon.email.") (policy', "_spf.kannon.email.") :=
    .order _ hwords' hshuffled (by decide +kernel)
  have hletters : Restyled (policy', "_spf.kannon.email.") (policy', "_SPF.kannon.email.") :=
    .domainCase _ (by decide +kernel)
  have hdots : Restyled (policy', "_SPF.kannon.email") (policy', "_SPF.kannon.email.") :=
    .domainDots _ 1 (by decide +kernel)
  have hchanges : Relation.EqvGen Restyled (policy, "_spf.kannon.email.")
      (policy', "_SPF.kannon.email") :=
    .trans _ _ _ (.rel _ _ hspelled) <| .trans _ _ _ (.rel _ _ hdotted) <|
      .trans _ _ _ (.rel _ _ horder) <| .trans _ _ _ (.rel _ _ hletters) <|
        .symm _ _ (.rel _ _ hdots)
  have hholds : delegatesTo policy "_spf.kannon.email." = true := by decide +kernel
  obtain ⟨hsame, hmore⟩ := delegatesTo_restyled hchanges
  have hlonger : Spaced ("V=SPF1".toList :: ["+a".toList, "~ALL".toList,
      "IncLude:_SPF.kannon.EMAIL..".toList, "ip4:192.0.2.1".toList, "mx".toList])
      longer.toList := words_eq_iff.1 (by decide +kernel)
  exact ⟨hchanges, hholds, hsame.trans hholds,
    hmore hshuffled hlonger (by decide +kernel) hholds⟩

end MailDomain.Spf
