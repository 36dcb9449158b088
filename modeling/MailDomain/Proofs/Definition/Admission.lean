import Mathlib
import MailDomain.Definition.Domain
import MailDomain.Pass.StatsIngress

/-!
# What the API server takes of a stats ingress

The name of a stats ingress, one of its labels and its host come from a domain that the API server
has admitted. The API server has rules for each of the three, and they are not the rules for what
the three come from: a label is shorter than a name, and a host has no capitals and is not as long
as a base domain may be.

## Main definitions

* `Pattern.subdomain`, `IsSubdomain` — the names of objects and hosts.
* `IsLabelText` — what may stand in a label, whatever its length.
* `StatsIngress.Accepted` — an ingress whose name, labels and hosts keep to the rules.

## Main results

* `Pattern.Matches.subdomain_append` — a name stays one with the end that makes it the name of an
  ingress.
* `Pattern.Matches.subdomain_toLower` — a base domain is the name of a host up to its capitals.
* `StatsIngress.build_accepted_iff` — when the ingress of an admitted domain is accepted.
-/

set_option relaxedAutoImplicit false
set_option autoImplicit false

namespace MailDomain

/-! ### Characters -/

namespace CharSet

/-- The small ASCII letters and the digits, of which the parts of a name have one at each end. -/
def lowercase : CharSet := { ranges := [('a', 'z'), ('0', '9')] }

/-- The characters of `lowercase` and the hyphen, which may stand inside a part of a name. -/
def lowercaseHyphenated : CharSet := { lowercase with singles := ['-'] }

/-- The characters of names: those of a part, and the point between two parts. -/
def naming : CharSet := { lowercase with singles := ['-', '.'] }

/-- The characters that may stand inside the value of a label of an object. -/
def labelling : CharSet := { alphanumeric with singles := ['-', '_', '.'] }

variable {s t : CharSet} {c : Char}

/-- A set `t` that has the `ranges` and the `singles` of `s`, and perhaps more of both, has each
character that `s` has. -/
lemma has_mono (hranges : s.ranges ⊆ t.ranges) (hsingles : s.singles ⊆ t.singles)
    (h : s.has c = true) : t.has c = true := by
  simp only [has, Bool.or_eq_true, List.any_eq_true, List.contains_iff_mem] at h ⊢
  rcases h with ⟨r, hr, hc⟩ | h
  · exact .inl ⟨r, hranges hr, hc⟩
  · exact .inr (hsingles h)

/-- The characters of `labelling`, which is the largest of these sets, are ASCII. -/
lemma toNat_lt_of_labelling (h : labelling.has c = true) : c.toNat < 128 := by
  simp only [has, labelling, alphanumeric, List.any_cons, List.any_nil, Bool.or_false,
    List.contains_cons, List.contains_nil, Bool.or_eq_true, Bool.and_eq_true, decide_eq_true_eq,
    Char.le_def, UInt32.le_iff_toNat_le, beq_iff_eq] at h
  rcases h with (⟨-, h⟩ | ⟨-, h⟩ | ⟨-, h⟩) | rfl | rfl | rfl
  · exact Nat.lt_of_le_of_lt h (by decide)
  · exact Nat.lt_of_le_of_lt h (by decide)
  · exact Nat.lt_of_le_of_lt h (by decide)
  · decide
  · decide
  · decide

/-- Let `s` be a set within `labelling`. What holds of each number below 128 whose character is in
`s` holds of every character in `s`, so that it can be decided by trying them all. -/
lemma forall_has {p : Char → Bool} (hranges : s.ranges ⊆ labelling.ranges)
    (hsingles : s.singles ⊆ labelling.singles)
    (hp : ∀ n < 128, s.has (Char.ofNat n) = true → p (Char.ofNat n) = true)
    (h : s.has c = true) : p c = true := by
  have hc := hp c.toNat (toNat_lt_of_labelling (has_mono hranges hsingles h))
  rw [Char.ofNat_toNat] at hc
  exact hc h

/-- A character of `alphanumeric` is one of `lowercase` when it is put in lower case. -/
lemma lowercase_toLower (h : alphanumeric.has c = true) : lowercase.has c.toLower = true :=
  forall_has (p := fun c => lowercase.has c.toLower) (by decide) (by decide) (by decide) h

/-- A character of `hyphenated` is one of `lowercaseHyphenated` when it is put in lower case. -/
lemma lowercaseHyphenated_toLower (h : hyphenated.has c = true) :
    lowercaseHyphenated.has c.toLower = true :=
  forall_has (p := fun c => lowercaseHyphenated.has c.toLower) (by decide) (by decide) (by decide) h

/-- The characters of `naming` are no capitals. -/
lemma isUpper_of_naming (h : naming.has c = true) : c.isUpper = false := by
  have hc := forall_has (p := fun c => !c.isUpper) (by decide) (by decide) (by decide) h
  exact Bool.not_eq_true' _ ▸ hc

/-- A character that is no capital is left as it is by `Char.toLower`. -/
lemma toLower_of_not_isUpper (h : c.isUpper = false) : c.toLower = c := by
  exact dif_neg (decide_eq_false_iff_not.1 h)

end CharSet

/-! ### Patterns -/

namespace Pattern

/-- The pattern of a character of `s` alone, or of two such characters with what matches `p` between
them, if anything. -/
def edged (s : CharSet) (p : Pattern) : Pattern := .seq (.one s) (.optional (.seq p (.one s)))

/-- The pattern of one or more texts that match `p`, with a point between each two of them. -/
def dotted (p : Pattern) : Pattern := .seq p (.many (.seq .point p))

/-- The pattern of one part of a name: `lowercase` at both ends, and `lowercaseHyphenated` in
between. -/
def part : Pattern := edged .lowercase (.many (.one .lowercaseHyphenated))

/-- The names of RFC 1123 in lower case, which are the names of objects and of hosts: one or more of
`part`, with points between them. -/
def subdomain : Pattern := dotted part

/-- The pattern of a selector, which each label of a base domain matches too, in the terms of
`edged`: letters and digits at both ends, at most 61 characters of `hyphenated` in between. -/
lemma labelPattern_eq : Definition.labelPattern = edged .alphanumeric (.upTo .hyphenated 61) := rfl

/-- The pattern of a base domain in the terms of `dotted`, with a `labelPattern` for each of its
labels. -/
lemma namePattern_eq : Definition.namePattern = dotted Definition.labelPattern := rfl

variable {p q : Pattern} {s : CharSet} {cs ds : List Char}

/-- A text matches `seq p q` if it is one that matches `p` followed by one that matches `q`. -/
lemma matches_seq_iff :
    Matches (.seq p q) cs ↔ ∃ as bs, cs = as ++ bs ∧ p.Matches as ∧ q.Matches bs := by
  constructor
  · rintro ⟨⟩
    exact ⟨_, _, rfl, ‹_›, ‹_›⟩
  · rintro ⟨as, bs, rfl, ha, hb⟩
    exact .seq ha hb

/-- A text matches a point followed by `p` if it is a point followed by a text that matches `p`. -/
lemma matches_pointed_iff :
    Matches (.seq .point p) cs ↔ ∃ as, cs = '.' :: as ∧ p.Matches as := by
  rw [matches_seq_iff]
  constructor
  · rintro ⟨_, as, rfl, ⟨⟩, ha⟩
    exact ⟨as, rfl, ha⟩
  · rintro ⟨as, rfl, ha⟩
    exact ⟨['.'], as, rfl, .point, ha⟩

/-- A text matches any number of characters of `s` if each of its characters is in `s`. -/
lemma matches_many_one_iff : Matches (.many (.one s)) cs ↔ ∀ c ∈ cs, s.has c = true := by
  constructor
  · intro h
    generalize hp : Pattern.many (.one s) = p at h
    induction h with
    | stop => simp
    | more first _ _ ih =>
      cases hp
      obtain ⟨c, hc, rfl⟩ := matches_one_iff.1 first
      exact List.forall_mem_cons.2 ⟨hc, ih rfl⟩
    | _ => cases hp
  · intro h
    induction cs with
    | nil => exact .stop
    | cons c cs ih =>
      rw [List.forall_mem_cons] at h
      have hfirst : (Pattern.one s).Matches [c] := .one h.1
      exact .more hfirst (ih h.2)

/-- A text matches `edged s p` if it is one character of `s`, or one at each end with a text that
matches `p` in between. -/
lemma matches_edged_iff :
    Matches (edged s p) cs ↔ (∃ a, s.has a = true ∧ cs = [a]) ∨
      ∃ a ms e, s.has a = true ∧ p.Matches ms ∧ s.has e = true ∧ cs = a :: (ms ++ [e]) := by
  rw [edged, matches_seq_iff]
  constructor
  · rintro ⟨_, bs, rfl, hfirst, hb⟩
    obtain ⟨a, ha, rfl⟩ := matches_one_iff.1 hfirst
    rcases matches_optional_iff.1 hb with rfl | hb
    · exact .inl ⟨a, ha, rfl⟩
    · obtain ⟨ms, _, rfl, hms, hlast⟩ := matches_seq_iff.1 hb
      obtain ⟨e, he, rfl⟩ := matches_one_iff.1 hlast
      exact .inr ⟨a, ms, e, ha, hms, he, rfl⟩
  · rintro (⟨a, ha, rfl⟩ | ⟨a, ms, e, ha, hms, he, rfl⟩)
    · exact ⟨[a], [], rfl, .one ha, .absent⟩
    · exact ⟨[a], ms ++ [e], rfl, .one ha, .present (.seq hms (.one he))⟩

/-- If every text of at most `n` characters of `s` matches `p`, then every text of 1 to `n + 2`
characters of `s` matches `edged s p`. -/
lemma matches_edged_of_forall {n : Nat}
    (hp : ∀ {ms : List Char}, ms.length ≤ n → (∀ c ∈ ms, s.has c = true) → p.Matches ms)
    (hne : cs ≠ []) (hlength : cs.length ≤ n + 2) (h : ∀ c ∈ cs, s.has c = true) :
    Matches (edged s p) cs := by
  rw [matches_edged_iff]
  cases cs with
  | nil => exact absurd rfl hne
  | cons a cs =>
    rw [List.forall_mem_cons] at h
    rcases cs.eq_nil_or_concat with rfl | ⟨ms, e, rfl⟩
    · exact .inl ⟨a, h.1, rfl⟩
    · rw [List.concat_eq_append] at h hlength ⊢
      have hrest := List.forall_mem_append.1 h.2
      have hms : ms.length ≤ n := by simpa using hlength
      exact .inr ⟨a, ms, e, h.1, hp hms hrest.1, hrest.2 e (List.mem_singleton_self e), rfl⟩

/-- A text that matches `p` matches `dotted p` without any point. -/
lemma Matches.dotted_single (h : p.Matches cs) : (dotted p).Matches cs := by
  simpa [dotted] using Matches.seq h .stop

/-- A text that matches `p`, a point, and a text that matches `dotted p` match `dotted p`
together. -/
lemma Matches.dotted_cons (ha : p.Matches cs) (h : (dotted p).Matches ds) :
    (dotted p).Matches (cs ++ '.' :: ds) := by
  obtain ⟨as, bs, rfl, has, hbs⟩ := matches_seq_iff.1 h
  exact .seq ha (.more (.seq .point has) hbs)

/-- Induction on a text that matches any number of points, each followed by `p`: it is empty, or a
point, a text that matches `p`, and such a text again. -/
lemma Matches.pointed_induction {motive : List Char → Prop}
    (h : Matches (.many (.seq .point p)) cs) (stop : motive [])
    (more : ∀ {as bs}, p.Matches as → Matches (.many (.seq .point p)) bs → motive bs →
      motive ('.' :: as ++ bs)) : motive cs := by
  generalize hq : Pattern.many (.seq .point p) = q at h
  induction h with
  | stop => exact stop
  | more first rest _ ih =>
    cases hq
    obtain ⟨as, rfl, ha⟩ := matches_pointed_iff.1 first
    exact more ha rest (ih rfl)
  | _ => cases hq

/-- If `f` leaves points alone and turns each text that matches `p` into one that matches `q`, then
it turns each text that matches `dotted p` into one that matches `dotted q`. -/
lemma Matches.dotted_map {f : Char → Char} (hpoint : f '.' = '.')
    (hparts : ∀ {as}, p.Matches as → q.Matches (as.map f)) (h : (dotted p).Matches cs) :
    (dotted q).Matches (cs.map f) := by
  obtain ⟨as, bs, rfl, ha, hb⟩ := matches_seq_iff.1 h
  rw [List.map_append]
  refine .seq (hparts ha) (hb.pointed_induction
    (motive := fun bs => Matches (.many (.seq .point q)) (bs.map f)) .stop ?_)
  intro as bs ha _ ih
  rw [List.map_append, List.map_cons, hpoint]
  exact .more (.seq .point (hparts ha)) ih

/-- If a text that matches `p` can always be continued by `ds`, then so can one that matches
`dotted p`, for `ds` continues its last part. -/
lemma Matches.dotted_append (hparts : ∀ {as}, p.Matches as → p.Matches (as ++ ds))
    (h : (dotted p).Matches cs) : (dotted p).Matches (cs ++ ds) := by
  obtain ⟨as, bs, rfl, ha, hb⟩ := matches_seq_iff.1 h
  have hrest : bs = [] ∨ Matches (.many (.seq .point p)) (bs ++ ds) := by
    refine hb.pointed_induction
      (motive := fun bs => bs = [] ∨ Matches (.many (.seq .point p)) (bs ++ ds)) (.inl rfl) ?_
    rintro as bs ha - (rfl | ih)
    · exact .inr (by simpa using Matches.more (.seq .point (hparts ha)) .stop)
    · exact .inr (by simpa using Matches.more (.seq .point ha) ih)
  rcases hrest with rfl | hrest
  · simpa [dotted] using Matches.seq (hparts ha) .stop
  · rw [List.append_assoc]
    exact .seq ha hrest

/-- A text of small letters and digits, which is not empty, is one `part` of a name. -/
lemma part_of_all (hne : cs ≠ []) (h : cs.all CharSet.lowercase.has = true) : part.Matches cs :=
  matches_edged_of_forall (n := cs.length)
    (fun _ hms => matches_many_one_iff.2 fun c hc =>
      CharSet.has_mono (by decide) (by decide) (hms c hc)) hne (by omega) (List.all_eq_true.1 h)

/-- A text of 1 to 63 letters and digits matches `labelPattern`. -/
lemma labelPattern_of_all (hne : cs ≠ []) (hlength : cs.length ≤ 63)
    (h : cs.all CharSet.alphanumeric.has = true) : Definition.labelPattern.Matches cs := by
  rw [labelPattern_eq]
  exact matches_edged_of_forall (n := 61)
    (fun hlength hms => matches_upTo_iff.2 ⟨hlength, fun c hc =>
      CharSet.has_mono (by decide) (by decide) (hms c hc)⟩) hne hlength (List.all_eq_true.1 h)

/-- A `part` of a name stays one when it is continued by inner characters `ms` and an outer one
`e`. -/
lemma Matches.part_append {ms : List Char} {e : Char}
    (hms : ∀ c ∈ ms, CharSet.lowercaseHyphenated.has c = true)
    (he : CharSet.lowercase.has e = true) (h : part.Matches cs) :
    part.Matches (cs ++ (ms ++ [e])) := by
  rcases matches_edged_iff.1 h with ⟨a, ha, rfl⟩ | ⟨a, ns, z, ha, hns, hz, rfl⟩
  · exact matches_edged_iff.2 (.inr ⟨a, ms, e, ha, matches_many_one_iff.2 hms, he, rfl⟩)
  · refine matches_edged_iff.2 (.inr ⟨a, ns ++ z :: ms, e, ha, ?_, he, by simp⟩)
    have hz' := CharSet.has_mono (t := .lowercaseHyphenated) (by decide) (by decide) hz
    exact matches_many_one_iff.2 (List.forall_mem_append.2
      ⟨matches_many_one_iff.1 hns, List.forall_mem_cons.2 ⟨hz', hms⟩⟩)

/-- A name of RFC 1123 stays one when `-stats` is appended, as `StatsIngress.nameOf` does: its last
part is continued. -/
lemma Matches.subdomain_append (h : subdomain.Matches cs) :
    subdomain.Matches (cs ++ "-stats".toList) := by
  have hend : "-stats".toList = ['-', 's', 't', 'a', 't'] ++ ['s'] := rfl
  rw [hend]
  exact h.dotted_append fun ha => ha.part_append (List.all_eq_true.1 (by decide)) (by decide)

/-- A text that matches `namePattern`, as every base domain does, is a name of RFC 1123 when it is
put in lower case. -/
lemma Matches.subdomain_toLower (h : Definition.namePattern.Matches cs) :
    subdomain.Matches (cs.map Char.toLower) := by
  rw [namePattern_eq] at h
  refine h.dotted_map (q := part) (by decide) fun {as} hlabel => ?_
  rw [labelPattern_eq] at hlabel
  rcases matches_edged_iff.1 hlabel with ⟨a, ha, rfl⟩ | ⟨a, ms, e, ha, hms, he, rfl⟩
  · exact matches_edged_iff.2 (.inl ⟨_, CharSet.lowercase_toLower ha, rfl⟩)
  · refine matches_edged_iff.2 (.inr ⟨_, ms.map Char.toLower, _, CharSet.lowercase_toLower ha,
      matches_many_one_iff.2 ?_, CharSet.lowercase_toLower he, by simp⟩)
    rw [List.forall_mem_map]
    exact fun c hc => CharSet.lowercaseHyphenated_toLower ((matches_upTo_iff.1 hms).2 c hc)

end Pattern

/-! ### Names and labels -/

/-- The characters of `cs` are in the set `inner`, and the first and the last of them in the set
`border`. There is a first one, so that `cs` is not empty. -/
structure Bordered (border inner : CharSet) (cs : List Char) : Prop where
  inner : ∀ c ∈ cs, inner.has c = true
  first : ∃ a ∈ cs.head?, border.has a = true
  last : ∃ e ∈ cs.getLast?, border.has e = true

/-- A text that may stand in a label of an object if it is short enough: letters and digits at both
ends, and `labelling` throughout. -/
def IsLabelText (s : String) : Prop := Bordered .alphanumeric .labelling s.toList

/-- A name of an object or of a host, as the API server demands it: `spelled` like a `subdomain`,
and with at most 253 characters. -/
structure IsSubdomain (s : String) : Prop where
  spelled : Pattern.subdomain.Matches s.toList
  short : s.length ≤ 253

namespace Bordered

variable {border inner border' inner' : CharSet} {as bs cs : List Char} {p : Pattern}

/-- A text that is `Bordered` by smaller sets is so by larger ones. -/
lemma mono (hborder : ∀ c, border.has c = true → border'.has c = true)
    (hinner : ∀ c, inner.has c = true → inner'.has c = true) (h : Bordered border inner cs) :
    Bordered border' inner' cs where
  inner c hc := hinner c (h.inner c hc)
  first := h.first.imp fun a ha => ha.imp_right (hborder a)
  last := h.last.imp fun e he => he.imp_right (hborder e)

/-- Two texts that are `Bordered`, with a point between them, are so together if a point is an inner
character. -/
lemma append_point (hpoint : inner.has '.' = true) (ha : Bordered border inner as)
    (hb : Bordered border inner bs) : Bordered border inner (as ++ '.' :: bs) where
  inner := List.forall_mem_append.2 ⟨ha.inner, List.forall_mem_cons.2 ⟨hpoint, hb.inner⟩⟩
  first := by
    obtain ⟨a, hmem, hhas⟩ := ha.first
    rw [Option.mem_def] at hmem
    exact ⟨a, by simp [hmem], hhas⟩
  last := by
    obtain ⟨e, hmem, hhas⟩ := hb.last
    rw [Option.mem_def] at hmem
    exact ⟨e, by simp [List.getLast?_cons, hmem], hhas⟩

/-- A text that matches `dotted p` is `Bordered` if each text that matches `p` is, and a point is an
inner character. -/
lemma of_dotted (hpoint : inner.has '.' = true)
    (hparts : ∀ {as}, p.Matches as → Bordered border inner as)
    (h : (Pattern.dotted p).Matches cs) : Bordered border inner cs := by
  obtain ⟨as, bs, rfl, ha, hb⟩ := Pattern.matches_seq_iff.1 h
  refine hb.pointed_induction
    (motive := fun bs => ∀ as, Bordered border inner as → Bordered border inner (as ++ bs))
    ?_ ?_ as (hparts ha)
  · intro as has
    rwa [List.append_nil]
  · intro as bs ha _ ih ds hds
    rw [List.cons_append, ← List.cons_append, ← List.append_assoc]
    exact ih _ (hds.append_point hpoint (hparts ha))

/-- A name of RFC 1123 starts and ends with a small letter or a digit, and has only characters of
`naming`. -/
lemma of_subdomain (h : Pattern.subdomain.Matches cs) : Bordered .lowercase .naming cs := by
  refine of_dotted (by decide) (fun {as} hpart => ?_) h
  have hborder : ∀ {c}, CharSet.lowercase.has c = true → CharSet.naming.has c = true :=
    CharSet.has_mono (by decide) (by decide)
  rcases Pattern.matches_edged_iff.1 hpart with ⟨a, ha, rfl⟩ | ⟨a, ms, e, ha, hms, he, rfl⟩
  · exact ⟨by simpa using hborder ha, ⟨a, rfl, ha⟩, ⟨a, rfl, ha⟩⟩
  · refine ⟨?_, ⟨a, rfl, ha⟩, ⟨e, by simp [List.getLast?_cons], he⟩⟩
    have hinner : ∀ c ∈ ms, CharSet.naming.has c = true := fun c hc =>
      CharSet.has_mono (by decide) (by decide) (Pattern.matches_many_one_iff.1 hms c hc)
    simpa [hborder ha, hborder he, or_imp, forall_and] using hinner

end Bordered

/-- Whether a text is `Bordered` is decided by looking at its characters. -/
instance {border inner : CharSet} {cs : List Char} : Decidable (Bordered border inner cs) :=
  decidable_of_iff (cs.all inner.has = true ∧ cs.head?.any border.has = true ∧
    cs.getLast?.any border.has = true) <| by
    rw [List.all_eq_true, Option.any_eq_true, Option.any_eq_true]
    exact ⟨fun h => ⟨h.1, h.2.1, h.2.2⟩, fun h => ⟨h.inner, h.first, h.last⟩⟩

/-- Whether a text is an `IsLabelText` is decided by looking at its characters. -/
instance (s : String) : Decidable (IsLabelText s) :=
  inferInstanceAs (Decidable (Bordered .alphanumeric .labelling s.toList))

/-- A name is an `IsLabelText`. Only its length can keep it from being the value of a label. -/
lemma IsSubdomain.isLabelText {s : String} (h : IsSubdomain s) : IsLabelText s :=
  (Bordered.of_subdomain h.spelled).mono
    (fun _ => CharSet.has_mono (by decide) (by decide))
    (fun _ => CharSet.has_mono (by decide) (by decide))

/-- A text that matches `namePattern` is a name of a host exactly if it has no capitals and at most
253 characters. -/
lemma isSubdomain_iff_of_namePattern {s : String}
    (h : Definition.namePattern.Matches s.toList) :
    IsSubdomain s ↔ (∀ c ∈ s.toList, c.isUpper = false) ∧ s.length ≤ 253 := by
  constructor
  · intro hs
    have hinner := (Bordered.of_subdomain hs.spelled).inner
    exact ⟨fun c hc => CharSet.isUpper_of_naming (hinner c hc), hs.short⟩
  · rintro ⟨hsmall, hshort⟩
    have hmap : s.toList.map Char.toLower = s.toList :=
      (List.map_congr_left (g := id) fun c hc =>
        CharSet.toLower_of_not_isUpper (hsmall c hc)).trans (List.map_id _)
    exact ⟨hmap ▸ h.subdomain_toLower, hshort⟩

/-! ### The ingress of an admitted domain -/

namespace StatsIngress

/-- The hosts for which an ingress has rules. A rule without a host counts for none. -/
def hostsOf (i : Ingress) : List String :=
  ((i.spec.bind IngressSpec.rules).getD []).filterMap IngressRule.host

/-- An ingress that the API server accepts: its name and its hosts are names, and the values of its
labels are label texts of at most 63 characters. -/
structure Accepted (i : Ingress) : Prop where
  name : ∃ n ∈ i.metadata.name, IsSubdomain n
  labels : ∀ l ∈ i.metadata.labels.getD [], IsLabelText l.2 ∧ l.2.length ≤ 63
  hosts : ∀ h ∈ hostsOf i, IsSubdomain h

variable {name : String}

/-- The name of the ingress of a domain is a name if it has at most 253 characters. -/
lemma isSubdomain_nameOf (hname : IsSubdomain name) (hlength : (nameOf name).length ≤ 253) :
    IsSubdomain (nameOf name) where
  spelled := by
    rw [nameOf, String.toList_append]
    exact hname.spelled.subdomain_append
  short := hlength

/-- The values of the labels of the ingress of a domain are label texts, whatever their length. -/
lemma isLabelText_labelsOf (hname : IsSubdomain name) :
    ∀ l ∈ labelsOf name, IsLabelText l.2 := by
  simp only [labelsOf, List.forall_mem_cons]
  exact ⟨by decide, hname.isLabelText, by decide, by decide⟩

/-- The labels of the ingress of a domain have at most 63 characters each exactly if the name of the
domain does: the values of the other labels are fixed, and short. -/
lemma length_labelsOf_iff : (∀ l ∈ labelsOf name, l.2.length ≤ 63) ↔ name.length ≤ 63 := by
  simp only [labelsOf, List.forall_mem_cons]
  exact ⟨fun h => h.2.1, fun h => ⟨by decide, h, by decide, by decide⟩⟩

/-- **When the ingress of an admitted domain is accepted.** The ingress that is built for a domain
with a `uid`, a proper name and an `Admitted` spec has a proper name, label texts for the values of
its labels, and one host, the base domain, which is a proper name up to its capitals. It is
`Accepted` exactly if the name of the domain has at most 63 characters, and the base domain no
capitals and at most 253 characters.

**Proof sketch.** The name of the ingress continues the last part of the domain's name, see
`isSubdomain_nameOf`. Label texts are the constant ones and the name, by `isLabelText_labelsOf`, of
which only the name can be too long, by `length_labelsOf_iff`. The pattern of base domains is that
of hosts up to capitals, by `isSubdomain_iff_of_namePattern`. -/
theorem build_accepted_iff (backend : StatsBackend) (key : ObjectKey) {d : Domain}
    (huid : d.metadata.uid.isSome) (hname : IsSubdomain key.name)
    (hlength : (nameOf key.name).length ≤ 253) (hspec : d.spec.Admitted) :
    ∃ i, build key d backend = .ok i ∧ (∃ n ∈ i.metadata.name, IsSubdomain n) ∧
      (∀ l ∈ i.metadata.labels.getD [], IsLabelText l.2) ∧
      hostsOf i = [d.spec.baseDomain] ∧
      Pattern.subdomain.Matches (d.spec.baseDomain.toList.map Char.toLower) ∧
      (Accepted i ↔ key.name.length ≤ 63 ∧
        (∀ c ∈ d.spec.baseDomain.toList, c.isUpper = false) ∧
        d.spec.baseDomain.length ≤ 253) := by
  obtain ⟨uid, hu⟩ := Option.isSome_iff_exists.1 huid
  have hnamed := isSubdomain_nameOf hname hlength
  have hlabels := isLabelText_labelsOf hname
  have hhost := isSubdomain_iff_of_namePattern hspec.1
  rw [build, ownerOf?, hu]
  refine ⟨_, rfl, ⟨_, rfl, hnamed⟩, hlabels, rfl, hspec.1.subdomain_toLower, ?_⟩
  constructor
  · intro h
    exact ⟨length_labelsOf_iff.1 fun l hl => (h.labels l hl).2,
      hhost.1 (h.hosts _ (List.mem_singleton_self _))⟩
  · rintro ⟨hshort, hbase⟩
    exact ⟨⟨_, rfl, hnamed⟩, fun l hl => ⟨hlabels l hl, length_labelsOf_iff.2 hshort l hl⟩,
      List.forall_mem_singleton.2 (hhost.2 hbase)⟩

/-- The ingress of an ordinary domain is accepted. -/
theorem build_accepted_acme :
    let key : ObjectKey := ⟨"mail", "acme"⟩
    let d : Domain := {
      metadata := { name := some "acme", ns := some "mail", uid := some "d1" }
      spec := { baseDomain := "acme.io", dkim := ⟨"s1", "key"⟩ } }
    IsSubdomain key.name ∧ d.spec.Admitted ∧ ∃ i, build key d {} = .ok i ∧ Accepted i := by
  intro key d
  have hpart : Pattern.part.Matches "acme".toList :=
    Pattern.part_of_all (by decide) (by decide)
  have hname : IsSubdomain key.name := ⟨hpart.dotted_single, by decide⟩
  have hlabel : ∀ {s : String}, s.toList ≠ [] → s.toList.length ≤ 63 →
      s.toList.all CharSet.alphanumeric.has = true →
      Definition.labelPattern.Matches s.toList := Pattern.labelPattern_of_all
  have hbase : "acme.io".toList = "acme".toList ++ '.' :: "io".toList := by decide
  have hspec : d.spec.Admitted := by
    refine ⟨?_, hlabel (s := "s1") (by decide) (by decide) (by decide)⟩
    rw [hbase]
    exact (hlabel (by decide) (by decide) (by decide)).dotted_cons
      (hlabel (by decide) (by decide) (by decide)).dotted_single
  obtain ⟨i, hi, -, -, -, -, haccepted⟩ :=
    build_accepted_iff {} key (d := d) rfl hname (by decide) hspec
  have hsmall : "acme.io".toList.all (fun c => !c.isUpper) = true := by decide
  have hlower : ∀ c ∈ "acme.io".toList, c.isUpper = false := fun c hc =>
    Bool.not_eq_true' _ ▸ List.all_eq_true.1 hsmall c hc
  exact ⟨hname, hspec, i, hi, haccepted.2 ⟨by decide, hlower, by decide⟩⟩

/-- Admitted domains whose ingresses are not accepted: the name of the first is too long for a
label, the base domain of the second has a capital, and that of the third is too long for a host. -/
theorem build_not_accepted :
    let d (base : String) : Domain := {
      metadata := { uid := some "d1" }
      spec := { baseDomain := base, dkim := ⟨"s1", "key"⟩ } }
    let long := String.ofList (List.replicate 64 'a')
    let deep := String.ofList ((List.replicate 127 ['a', '.']).flatten ++ ['a'])
    (IsSubdomain long ∧ (nameOf long).length ≤ 253 ∧ (d "acme").spec.Admitted ∧
      ∃ i, build ⟨"mail", long⟩ (d "acme") {} = .ok i ∧ ¬ Accepted i) ∧
    IsSubdomain "acme" ∧ (d "Acme").spec.Admitted ∧ (d deep).spec.Admitted ∧
      (∃ i, build ⟨"mail", "acme"⟩ (d "Acme") {} = .ok i ∧ ¬ Accepted i) ∧
      ∃ i, build ⟨"mail", "acme"⟩ (d deep) {} = .ok i ∧ ¬ Accepted i := by
  intro d long deep
  have hname : ∀ {s : String}, s.toList ≠ [] → s.length ≤ 253 →
      s.toList.all CharSet.lowercase.has = true → IsSubdomain s := fun hne hshort h =>
    ⟨(Pattern.part_of_all hne h).dotted_single, hshort⟩
  have hlabel : ∀ {s : String}, s.toList ≠ [] → s.toList.length ≤ 63 →
      s.toList.all CharSet.alphanumeric.has = true →
      Definition.labelPattern.Matches s.toList := Pattern.labelPattern_of_all
  have hselector : Definition.labelPattern.Matches "s1".toList :=
    hlabel (by decide) (by decide) (by decide)
  have hbase : ∀ {s : String}, s.toList ≠ [] → s.toList.length ≤ 63 →
      s.toList.all CharSet.alphanumeric.has = true → (d s).spec.Admitted :=
    fun hne hlength h => ⟨(hlabel hne hlength h).dotted_single, hselector⟩
  have hdeep : Definition.namePattern.Matches deep.toList := by
    rw [String.toList_ofList]
    -- by induction on the number of labels, since the text is too long to be matched step by step
    generalize 127 = n
    have ha : Definition.labelPattern.Matches ['a'] :=
      Pattern.labelPattern_of_all (by decide) (by decide) (by decide)
    induction n with
    | zero => exact ha.dotted_single
    | succ n ih => exact ha.dotted_cons ih
  -- one more than a label may have, and two more than a host may have
  have hlongLength : long.length = 64 := String.length_ofList
  have hdeepLength : deep.length = 255 := by
    rw [String.length_ofList]
    decide +kernel
  have hlong : IsSubdomain long := by
    refine hname (String.toList_ofList ▸ nofun) (by omega) ?_
    rw [String.toList_ofList]
    decide
  refine ⟨⟨hlong, ?_, hbase (by decide) (by decide) (by decide), _, rfl, fun h => ?_⟩,
    hname (by decide) (by decide) (by decide), hbase (by decide) (by decide) (by decide),
    ⟨hdeep, hselector⟩, ⟨_, rfl, fun h => ?_⟩, _, rfl, fun h => ?_⟩
  · rw [nameOf, String.length_append, hlongLength]
    decide
  · have hshort : long.length ≤ 63 := length_labelsOf_iff.1 fun l hl => (h.labels l hl).2
    omega
  · have hsmall := Bordered.of_subdomain (h.hosts "Acme" (List.mem_singleton_self _)).spelled
    exact absurd (hsmall.inner 'A' (by decide)) (by decide)
  · have hshort : deep.length ≤ 253 := (h.hosts deep (List.mem_singleton_self _)).short
    omega

end StatsIngress

end MailDomain
