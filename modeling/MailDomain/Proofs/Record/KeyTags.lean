import MailDomain.Proofs.Text.Parts
import MailDomain.Record.Dkim

/-!
# The keys in a DKIM record

A record holds the keys that stand in its `p` tags, each without its white space, and nothing else
of a record matters. So neither the order of the tags, nor the other tags, nor white space anywhere
changes which keys a record holds.

## Main definitions

* `Dkim.keys` — the keys in the `p` tags of a record.
* `Dkim.KeyTag` — a tag is a `p` tag with a value, said without reading it.

## Main results

* `Dkim.hasKey_iff` — a record holds the keys in its `p` tags, apart from the blank one.
* `Dkim.hasKey_respaced` — white space does not matter, wherever it is.
* `Dkim.hasKey_joined` — which keys a record holds that was joined from tags.
-/

set_option relaxedAutoImplicit false
set_option autoImplicit false

namespace MailDomain.Dkim

open Text

/-! ### Keys -/

/-- The key in a tag without its white space, if the tag is a `p` tag: one with an equals sign
before which there is nothing but a `p` and white space around it. -/
def key? (tag : List Char) : Option (List Char) :=
  match cutAt? '=' tag with
  | some (name, value) => if trim name = ['p'] then some (squeeze value) else none
  | none => none

/-- The keys in the `p` tags of a record, in order. The tags are the pieces of the record between
semicolons. -/
def keys (record : String) : List (List Char) :=
  (pieces (· == ';') record.toList).filterMap key?

variable {tag key : List Char}

/-- The test `holdsKey key` passes on a tag exactly if `key` is the key in it. -/
lemma holdsKey_iff : holdsKey key tag = true ↔ key? tag = some key := by
  rw [holdsKey, key?]
  cases cutAt? '=' tag with
  | none => simp
  | some p =>
    obtain ⟨name, value⟩ := p
    by_cases hname : trim name = ['p'] <;> simp [hname]

/-- **A record holds a key exactly if the key is not blank and is one of those in its `p` tags**,
each time without white space. -/
theorem hasKey_iff {record publicKey : String} :
    hasKey record publicKey = true ↔
      squeeze publicKey.toList ≠ [] ∧ squeeze publicKey.toList ∈ keys record := by
  simp [hasKey, keys, List.mem_filterMap, holdsKey_iff]

/-- Two records with the same `keys`, in any order and number, hold the same keys. -/
lemma hasKey_congr {record record' publicKey : String}
    (h : ∀ key, key ∈ keys record' ↔ key ∈ keys record) :
    hasKey record' publicKey = hasKey record publicKey := by
  rw [Bool.eq_iff_iff, hasKey_iff, hasKey_iff, h]

/-! ### White space -/

/-- A text is `p` after trimming exactly if it is so after squeezing and trimming. -/
lemma trim_squeeze_eq_p_iff (name : List Char) :
    trim (squeeze name) = ['p'] ↔ trim name = ['p'] := by
  rw [trim_eq_singleton_iff rfl, trim_eq_singleton_iff rfl, squeeze_squeeze]

/-- Squeezing the white space out of a tag does not change the key in it. -/
lemma key?_squeeze (tag : List Char) : key? (squeeze tag) = key? tag := by
  rw [key?, key?, cutAt?_squeeze rfl]
  cases cutAt? '=' tag with
  | none => rfl
  | some p => simp [trim_squeeze_eq_p_iff]

/-- Two records that are the same after squeezing have the same `keys`. -/
lemma keys_congr {record record' : String}
    (h : squeeze record'.toList = squeeze record.toList) : keys record' = keys record := by
  have hkeys : ∀ r : String, keys r = (pieces (· == ';') (squeeze r.toList)).filterMap key? := by
    intro r
    rw [keys, pieces_squeeze rfl, List.filterMap_map]
    exact List.filterMap_congr fun tag _ => (key?_squeeze tag).symm
  rw [hkeys, hkeys, h]

/-- Squeezing is all that matters: if two records are the same after it, and so are two keys, then
the one record holds the one key exactly if the other holds the other. -/
lemma hasKey_of_squeeze_eq {record record' publicKey publicKey' : String}
    (hrecord : squeeze record'.toList = squeeze record.toList)
    (hkey : squeeze publicKey'.toList = squeeze publicKey.toList) :
    hasKey record' publicKey' = hasKey record publicKey := by
  rw [Bool.eq_iff_iff, hasKey_iff, hasKey_iff, keys_congr hrecord, hkey]

/-- **White space does not matter.** If white space is inserted into a record and a key or removed
from them, at any places, then whether the record holds the key stays as it was, and so it does if
all white space is removed from both.

**Proof sketch.** Texts that are `Respaced` are the same after squeezing, and then
`hasKey_of_squeeze_eq` applies: no separator is white space, so that a record is cut into tags, by
`pieces_squeeze`, and a tag into name and value, by `cutAt?_squeeze`, before or after squeezing with
the same parts. A name is trimmed to `p` exactly if it is squeezed to `p`, and a value and a key are
squeezed anyway. -/
theorem hasKey_respaced (record record' publicKey publicKey' : String)
    (hrecord : Respaced record.toList record'.toList)
    (hkey : Respaced publicKey.toList publicKey'.toList) :
    hasKey record' publicKey' = hasKey record publicKey ∧
      hasKey record publicKey =
        hasKey (.ofList (squeeze record.toList)) (.ofList (squeeze publicKey.toList)) :=
  ⟨hasKey_of_squeeze_eq (respaced_iff.1 hrecord).symm (respaced_iff.1 hkey).symm,
    hasKey_of_squeeze_eq (by simp) (by simp)⟩

/-- A key that was wrapped with an ideographic space, in a record with white space around its
separators. -/
theorem hasKey_respaced_wrapped :
    let record := "v=DKIM1;k=rsa;p=MIIBIj"
    let record' := "v = DKIM1; k=r sa;\u2003p\u00A0=MII\u3000BIj\n"
    Respaced record.toList record'.toList ∧ Respaced "MIIBIj".toList " MIIB Ij".toList ∧
      hasKey record "MIIBIj" = true ∧ hasKey record' " MIIB Ij" = true := by
  intro record record'
  have hrecord : Respaced record.toList record'.toList := respaced_iff.2 (by decide +kernel)
  have hkey : Respaced "MIIBIj".toList " MIIB Ij".toList := respaced_iff.2 (by decide +kernel)
  have hholds : hasKey record "MIIBIj" = true := by decide +kernel
  exact ⟨hrecord, hkey, hholds, (hasKey_respaced _ _ _ _ hrecord hkey).1.trans hholds⟩

/-! ### Tags -/

/-- The tag has the name `p`, up to white space around it, before its first equals sign, and the
text `value` after that. -/
def KeyTag (tag : String) (value : List Char) : Prop :=
  ∃ name, tag.toList = name ++ '=' :: value ∧ '=' ∉ name ∧
    ∃ before after, name = before ++ 'p' :: after ∧ ∀ c ∈ before ++ after, isBlank c = true

/-- The key in a tag is what squeezing leaves of the value of a `KeyTag`. -/
theorem key?_eq_some_iff {tag : String} :
    key? tag.toList = some key ↔ ∃ value, KeyTag tag value ∧ squeeze value = key := by
  rw [key?]
  constructor
  · intro h
    split at h
    · next name value hcut =>
      obtain ⟨htag, hname⟩ := cutAt?_eq_some_iff.1 hcut
      split at h
      · next hp =>
        rw [trim_eq_singleton_iff rfl, squeeze_eq_singleton_iff rfl] at hp
        exact ⟨value, ⟨name, htag, hname, hp⟩, Option.some.inj h⟩
      · cases h
    · cases h
  · rintro ⟨value, ⟨name, htag, hname, hp⟩, rfl⟩
    have hcut : cutAt? '=' tag.toList = some (name, value) := cutAt?_eq_some_iff.2 ⟨htag, hname⟩
    have htrim : trim name = ['p'] := by
      rwa [trim_eq_singleton_iff rfl, squeeze_eq_singleton_iff rfl]
    rw [hcut]
    exact if_pos htrim

/-- The `keys` of a record that was joined from tags, none of which contains a semicolon, are those
in the tags. -/
theorem keys_intercalate {tags : List String} (htags : ∀ t ∈ tags, ';' ∉ t.toList) :
    keys (";".intercalate tags) = tags.filterMap fun t => key? t.toList := by
  rcases eq_or_ne tags [] with rfl | hne
  · rfl
  · have hpieces : pieces (· == ';') ([';'].intercalate (tags.map String.toList)) =
        tags.map String.toList := pieces_intercalate (by simpa using htags) (by simpa using hne)
    have hlist : (";".intercalate tags).toList = [';'].intercalate (tags.map String.toList) :=
      String.toList_intercalate
    rw [keys, hlist, hpieces, List.filterMap_map]
    rfl

/-- The tag has the name `p`, up to white space around it, with some value. -/
def IsKeyTag (tag : String) : Prop := ∃ value, KeyTag tag value

/-- There is a key in a tag exactly if it `IsKeyTag`. -/
lemma isSome_key?_iff {tag : String} : (key? tag.toList).isSome = true ↔ IsKeyTag tag := by
  simp [IsKeyTag, Option.isSome_iff_exists, key?_eq_some_iff]

instance : DecidablePred IsKeyTag := fun _ => decidable_of_iff _ isSome_key?_iff

/-- Tags that are no `p` tags contribute nothing to the keys, and can be left out. -/
lemma filterMap_filter_isKeyTag (tags : List String) :
    ((tags.filter IsKeyTag).filterMap fun t => key? t.toList) =
      tags.filterMap fun t => key? t.toList := by
  rw [List.filterMap_filter]
  refine List.filterMap_congr fun t _ => ?_
  by_cases ht : IsKeyTag t
  · rw [if_pos (decide_eq_true ht)]
  · rw [if_neg (by simpa using ht)]
    rw [← isSome_key?_iff] at ht
    exact (Option.not_isSome_iff_eq_none.1 ht).symm

/-- **Only `p` tags matter, and each of them does.** A record that was joined from tags holds a key
exactly if the key is not blank and stands, up to white space, after the first equals sign of a tag
with the name `p`. So it holds the same keys as any record with the same `p` tags in any order,
whatever the other tags of the two are and wherever they stand. If all its `p` tags are blank, then
it holds no key, and if there is one `p` tag, then no two keys that differ in more than white space.

**Proof sketch.** By `keys_intercalate` and `key?_eq_some_iff` the keys of the record are the values
of its `p` tags without white space, and `hasKey_iff` compares with these. Tags of other names
contribute none, by `filterMap_filter_isKeyTag`, and the order does not matter, by
`hasKey_congr`. -/
theorem hasKey_joined (tags : List String) (publicKey : String)
    (htags : ∀ t ∈ tags, ';' ∉ t.toList) :
    let record := ";".intercalate tags
    (hasKey record publicKey = true ↔
      squeeze publicKey.toList ≠ [] ∧
        ∃ t ∈ tags, ∃ value, KeyTag t value ∧ squeeze value = squeeze publicKey.toList) ∧
    (∀ tags' : List String, (∀ t ∈ tags', ';' ∉ t.toList) →
      (tags'.filter IsKeyTag).Perm (tags.filter IsKeyTag) →
        hasKey (";".intercalate tags') publicKey = hasKey record publicKey) ∧
    ((∀ t ∈ tags, ∀ value, KeyTag t value → squeeze value = []) →
      hasKey record publicKey = false) ∧
    ∀ otherKey, (tags.filter IsKeyTag).length = 1 → hasKey record publicKey = true →
      hasKey record otherKey = true → squeeze otherKey.toList = squeeze publicKey.toList := by
  intro record
  have hkeys : keys record = (tags.filter IsKeyTag).filterMap fun t => key? t.toList := by
    rw [filterMap_filter_isKeyTag, keys_intercalate htags]
  have hiff : hasKey record publicKey = true ↔ squeeze publicKey.toList ≠ [] ∧
      ∃ t ∈ tags, ∃ value, KeyTag t value ∧ squeeze value = squeeze publicKey.toList := by
    simp only [hasKey_iff, record, keys_intercalate htags, List.mem_filterMap, key?_eq_some_iff]
  refine ⟨hiff, fun tags' htags' hperm => ?_, fun hblank => ?_, fun otherKey hone h h' => ?_⟩
  · refine hasKey_congr fun key => ?_
    rw [hkeys, keys_intercalate htags', ← filterMap_filter_isKeyTag]
    exact (hperm.filterMap _).mem_iff
  · rw [Bool.eq_false_iff, ne_eq, hiff]
    rintro ⟨hne, t, ht, value, hvalue, heq⟩
    exact hne (heq.symm.trans (hblank t ht value hvalue))
  · obtain ⟨t, ht⟩ := List.length_eq_one_iff.1 hone
    obtain ⟨-, hkey⟩ := hasKey_iff.1 h
    obtain ⟨-, hother⟩ := hasKey_iff.1 h'
    rw [hkeys, ht, List.mem_filterMap] at hkey hother
    obtain ⟨_, hmem, hkey⟩ := hkey
    obtain ⟨_, hmem', hother⟩ := hother
    cases List.mem_singleton.1 hmem
    cases List.mem_singleton.1 hmem'
    exact Option.some.inj (hother.symm.trans hkey)

/-- A key that ends in equals signs stands in the `p` tag of a record and in one of its other tags,
which are altered, and then the key is revoked. -/
theorem hasKey_joined_padded :
    let tags := ["v=DKIM1", " n=p=AQAB==", "\tp = AQ AB== ", "", "pp=AQAC"]
    let altered := ["\tp = AQ AB== ", "n=AQAC", "p"]
    let revoked := ["v=DKIM1", " n=p=AQAB==", "p= "]
    ((∀ t ∈ tags, ';' ∉ t.toList) ∧ (∀ t ∈ altered, ';' ∉ t.toList) ∧
        (∀ t ∈ revoked, ';' ∉ t.toList) ∧
        (altered.filter IsKeyTag).Perm (tags.filter IsKeyTag) ∧
        (∀ t ∈ revoked, ∀ value, KeyTag t value → squeeze value = []) ∧
        (tags.filter IsKeyTag).length = 1) ∧
      hasKey (";".intercalate tags) "AQAB==" = true ∧
      hasKey (";".intercalate altered) "AQAB==" = true ∧
      hasKey (";".intercalate revoked) "AQAB==" = false ∧
      hasKey (";".intercalate tags) "AQAC" = false := by
  intro tags altered revoked
  have htags : ∀ t ∈ tags, ';' ∉ t.toList := by decide +kernel
  have haltered : ∀ t ∈ altered, ';' ∉ t.toList := by decide +kernel
  have hrevoked : ∀ t ∈ revoked, ';' ∉ t.toList := by decide +kernel
  have hperm : (altered.filter IsKeyTag).Perm (tags.filter IsKeyTag) := by decide +kernel
  have hone : (tags.filter IsKeyTag).length = 1 := by decide +kernel
  have hblank : ∀ t ∈ revoked, ∀ value, KeyTag t value → squeeze value = [] := by
    intro t ht value hvalue
    have hkeys : ∀ t ∈ revoked, (key? t.toList).getD [] = [] := by decide +kernel
    have hkey : key? t.toList = some (squeeze value) := key?_eq_some_iff.2 ⟨value, hvalue, rfl⟩
    simpa [hkey] using hkeys t ht
  obtain ⟨hiff, hsame, -, htwo⟩ := hasKey_joined tags "AQAB==" htags
  have hvalue : KeyTag "\tp = AQ AB== " " AQ AB== ".toList :=
    ⟨['\t', 'p', ' '], by decide +kernel, by decide, ['\t'], [' '], rfl, by simp [isBlank]⟩
  have hholds : hasKey (";".intercalate tags) "AQAB==" = true :=
    hiff.2 ⟨by decide +kernel, _, by simp [tags], _, hvalue, by decide +kernel⟩
  refine ⟨⟨htags, haltered, hrevoked, hperm, hblank, hone⟩, hholds,
    (hsame altered haltered hperm).trans hholds,
    (hasKey_joined revoked "AQAB==" hrevoked).2.2.1 hblank, ?_⟩
  rw [Bool.eq_false_iff]
  intro hother
  have hdiffer : squeeze "AQAC".toList ≠ squeeze "AQAB==".toList := by decide +kernel
  exact hdiffer (htwo "AQAC" hone hholds hother)

end MailDomain.Dkim
