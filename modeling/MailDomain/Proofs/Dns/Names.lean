import MailDomain.Proofs.Convergence.Resolver
import MailDomain.Proofs.Definition.Admission
import MailDomain.Proofs.Text.Words

/-!
# Which names can be asked about

The checks of a domain ask about names that come from its base domain and its selector. The patterns
for the two bound the labels of these names, and leave open how many labels there are. So a name of
an admitted domain has labels that can be read, and it is read unless it is too long as a whole.

## Main definitions

* `DnsName.wire` — a name as it is sent.
* `DnsName.pointed` — labels as they are written, a point after each.
* `DnsName.Legible` — a label that can be read.

## Main results

* `DnsName.read_pointed` — labels that can be read are a name unless they are too long together.
* `Checker.query_admitted` — which names of an admitted domain can be asked about.
* `Checker.query_admitted_overlong` — an admitted domain with a name that cannot be.
-/

set_option relaxedAutoImplicit false
set_option autoImplicit false

namespace MailDomain

namespace DnsName

variable {check : List Char → Except Fault (List Char)} {f : List Char → List Char}
  {n : DnsName} {l : List Char} {ls : List (List Char)}

/-! ### Names that are sent -/

/-- The name as it is sent: each label after the octet that says how long it is, and a zero at the
end. -/
def wire (n : DnsName) : List UInt8 :=
  n.labels.flatMap (fun l => UInt8.ofNat l.length :: l.map fun c => UInt8.ofNat c.toNat) ++ [0]

/-- The form of a name on the wire has one octet more than its `size`, which is the zero at its
end. -/
lemma length_wire (n : DnsName) : n.wire.length = n.size + 1 := by
  have hlabels : ∀ ls : List (List Char), (ls.flatMap fun l =>
      UInt8.ofNat l.length :: l.map fun c => UInt8.ofNat c.toNat).length = sizeOf ls := by
    intro ls
    induction ls with
    | nil => rfl
    | cons l ls ih =>
      simp [sizeOf, ih]
      omega
  rw [wire, List.length_append, hlabels]
  rfl

/-! ### Names that are written -/

/-- The labels as they are written, with a point after each of them. -/
def pointed (ls : List (List Char)) : List Char := ls.flatMap (· ++ ['.'])

lemma pointed_cons (l : List Char) (ls : List (List Char)) :
    pointed (l :: ls) = l ++ '.' :: pointed ls := by
  simp [pointed]

/-- The text `pointed ls` has as many characters as the labels have octets on the wire, since a
point takes the place of a length. -/
lemma length_pointed (ls : List (List Char)) : (pointed ls).length = sizeOf ls := by
  induction ls with
  | nil => rfl
  | cons l ls ih => simp [pointed_cons, sizeOf, ih, Nat.add_assoc, Nat.add_comm]

/-- A character that the reader of names takes as it is: no point, no backslash, and none that it
refuses. -/
def isOrdinary (c : Char) : Bool := c != '.' && c != '\\' && !isRefused c

/-- A label that can be read in either way: folded to lower case, and plain as it stands. Its
characters are ordinary and there is at least one. -/
structure Legible (l : List Char) : Prop where
  ne_nil : l ≠ []
  ordinary : l.all isOrdinary = true
  folded : foldedLabel l = .ok (l.map Char.toLower)
  plain : plainLabel l = .ok l

/-- A label that is `Legible` has at most `maxLabel` characters. -/
lemma Legible.length_le (h : Legible l) : l.length ≤ maxLabel := (plainLabel_ok_iff.1 h.plain).2.2

/-- Ordinary characters up to a point are taken as one label, after those that were collected in
`acc`. -/
lemma labelsFrom_append (hl : l.all isOrdinary = true) (n : DnsName) (acc rest : List Char) :
    labelsFrom check .label n acc (l ++ '.' :: rest) = (do
      let m ← n.append (← check (acc.reverse ++ l))
      labelsFrom check .label m [] rest) := by
  induction l generalizing acc with
  | nil => simp [labelsFrom]
  | cons c l ih =>
    simp only [List.all_cons, isOrdinary, Bool.and_eq_true, bne_iff_ne, Bool.not_eq_true'] at hl
    obtain ⟨⟨⟨hpoint, hescape⟩, hrefused⟩, hl⟩ := hl
    rw [List.cons_append, labelsFrom, if_neg hpoint, if_neg hescape, hrefused,
      if_neg Bool.false_ne_true, ih (by simpa [isOrdinary] using hl), List.reverse_cons,
      List.append_assoc, List.singleton_append]

/-- The first of the labels that are written is checked and put at the end of the name, if this has
room for it. -/
lemma labelsFrom_pointed_cons (hl : l.all isOrdinary = true) (hcheck : check l = .ok (f l))
    (n : DnsName) (ls : List (List Char)) :
    labelsFrom check .label n [] (pointed (l :: ls)) =
      (n.append (f l)).bind fun m => labelsFrom check .label m [] (pointed ls) := by
  rw [pointed_cons, labelsFrom_append hl, List.reverse_nil, List.nil_append, hcheck]
  rfl

/-- Another label at the end adds its length and one octet to the size. -/
lemma sizeOf_concat (ls : List (List Char)) (l : List Char) :
    sizeOf (ls ++ [l]) = sizeOf ls + l.length + 1 := by
  induction ls with
  | nil => simp [sizeOf]
  | cons k ls ih =>
    rw [List.cons_append, sizeOf, sizeOf, ih]
    omega

/-- Labels that are written are read as long as the name has room for them, and the first that it
has no room for is reported.

**Proof sketch.** Induction on the labels, for every name `n` that was read before them. -/
lemma labelsFrom_pointed (check : List Char → Except Fault (List Char))
    (hls : ∀ l ∈ ls, l.all isOrdinary = true ∧ check l = .ok (f l) ∧ (f l).length = l.length)
    (hn : n.size ≤ maxName) :
    (n.size + sizeOf ls ≤ maxName →
        labelsFrom check .label n [] (pointed ls) = .ok ⟨n.labels ++ ls.map f⟩) ∧
      (maxName < n.size + sizeOf ls →
        ∃ k, maxName < k ∧
          labelsFrom check .label n [] (pointed ls) = .error (.nameTooLong k)) := by
  induction ls generalizing n with
  | nil =>
    refine ⟨fun _ => ?_, fun h => absurd hn (Nat.not_le.2 h)⟩
    rw [List.map_nil, List.append_nil]
    rfl
  | cons l ls ih =>
    rw [List.forall_mem_cons] at hls
    obtain ⟨⟨hl, hcheck, hlength⟩, hls⟩ := hls
    rw [labelsFrom_pointed_cons hl hcheck, append, hlength, sizeOf]
    split
    · next hlong => exact ⟨fun h => by omega, fun _ => ⟨_, hlong, rfl⟩⟩
    · next hshort =>
      have hsize : size ⟨n.labels ++ [f l]⟩ = n.size + l.length + 1 := by
        rw [size, sizeOf_concat, hlength, size]
      obtain ⟨hok, herror⟩ := ih (n := ⟨n.labels ++ [f l]⟩) hls (by omega)
      rw [hsize] at hok herror
      rw [Except.bind, List.map_cons]
      refine ⟨fun h => ?_, fun h => herror (by omega)⟩
      rw [hok (by omega), List.append_assoc, List.singleton_append]

/-- **Labels that can be read are a name.** A text of labels that are `Legible` is read as these
labels in lower case if it has at most `maxName` characters, and otherwise fails with `nameTooLong`.

**Proof sketch.** By `labelsFrom_pointed` with the check that folds. Where the name has no room, the
plain reading is tried and fails too, and its fault is the one that is reported. The text is not
that of the root, since it has a label. -/
theorem read_pointed {s : String} (hs : s.toList = pointed ls) (hne : ls ≠ [])
    (hls : ∀ l ∈ ls, Legible l) :
    (s.length ≤ maxName → read s = .ok ⟨ls.map (List.map Char.toLower)⟩) ∧
      (maxName < s.length → ∃ k, maxName < k ∧ read s = .error (.nameTooLong k)) := by
  have hroot : s ≠ "." := by
    rintro rfl
    cases ls with
    | nil => exact hne rfl
    | cons l ls =>
      have hlength := congrArg List.length hs
      rw [length_pointed, sizeOf] at hlength
      have hpos := List.length_pos_iff.2 (hls l List.mem_cons_self).ne_nil
      simp at hlength
      omega
  have hlength : s.length = root.size + sizeOf ls := by
    rw [← String.length_toList, hs, length_pointed]
    exact (Nat.zero_add _).symm
  have hfolded := labelsFrom_pointed foldedLabel (n := root) (f := List.map Char.toLower)
    (fun l hl => ⟨(hls l hl).ordinary, (hls l hl).folded, List.length_map _⟩) (Nat.zero_le _)
  have hplain := labelsFrom_pointed plainLabel (n := root) (f := id)
    (fun l hl => ⟨(hls l hl).ordinary, (hls l hl).plain, rfl⟩) (Nat.zero_le _)
  rw [read, readAs, readAs, if_neg hroot, if_neg hroot, hs, hlength]
  refine ⟨fun h => by rw [hfolded.1 h]; rfl, fun h => ?_⟩
  -- the reading in small letters fails as well, and its fault is not the one that is reported
  obtain ⟨k, -, hk⟩ := hfolded.2 h
  rw [hk]
  exact hplain.2 h

/-! ### Small letters -/

/-- ASCII letters are ordinary characters. -/
lemma isOrdinary_of_isAlpha {c : Char} (hc : c.isAlpha = true) : isOrdinary c = true := by
  have hblank := Text.isBlank_of_isAlpha hc
  have hpoint : c ≠ '.' := by
    rintro rfl
    exact absurd hc (by decide)
  have hescape : c ≠ '\\' := by
    rintro rfl
    exact absurd hc (by decide)
  simp only [Char.isAlpha, Char.isUpper, Char.isLower, Bool.or_eq_true, Bool.and_eq_true,
    decide_eq_true_eq, UInt32.le_iff_toNat_le, UInt32.reduceToNat, Char.reduceVal,
    Char.toNat_val] at hc
  simp only [isOrdinary, isRefused, hblank, Bool.false_or, Bool.and_eq_true, bne_iff_ne,
    Bool.not_eq_true', Bool.or_eq_false_iff, Bool.and_eq_false_iff, decide_eq_false_iff_not]
  exact ⟨⟨hpoint, hescape⟩, by omega, by omega⟩

/-- Ordinary characters stay so when they are put in lower case. -/
lemma all_isOrdinary_toLower (hl : l.all isOrdinary = true) :
    (l.map Char.toLower).all isOrdinary = true := by
  rw [List.all_eq_true] at hl ⊢
  rw [List.forall_mem_map]
  intro c hc
  by_cases hupper : c.isUpper
  · exact isOrdinary_of_isAlpha (by simp [Char.isAlpha, hupper])
  · rw [Char.toLower_eq_of_not_isUpper hupper]
    exact hl c hc

/-- Putting labels in lower case and writing them is the same as writing them and putting the text
in lower case. -/
lemma pointed_map_toLower (ls : List (List Char)) :
    pointed (ls.map (List.map Char.toLower)) = (pointed ls).map Char.toLower := by
  induction ls with
  | nil => rfl
  | cons l ls ih =>
    rw [List.map_cons, pointed_cons, pointed_cons, ih, List.map_append, List.map_cons]
    rfl

/-- A label of ordinary characters is written without escapes. -/
lemma labelText_eq (hl : l.all isOrdinary = true) : labelText l = l := by
  induction l with
  | nil => rfl
  | cons c l ih =>
    simp only [List.all_cons, isOrdinary, Bool.and_eq_true, bne_iff_ne] at hl
    rw [labelText, List.flatMap_cons, ← labelText, ih (by simpa [isOrdinary] using hl.2)]
    simp [hl.1.1]

/-- A name whose labels have ordinary characters is written as `pointed`, with a point at its
end. -/
lemma toList_text (hne : n.labels ≠ []) (hls : ∀ l ∈ n.labels, l.all isOrdinary = true) :
    n.text.toList = pointed n.labels := by
  rw [text, List.isEmpty_eq_false_iff.2 hne, if_neg Bool.false_ne_true, String.toList_ofList,
    pointed]
  exact List.flatMap_congr fun l hl => by rw [labelText_eq (hls l hl)]

end DnsName

/-! ### Names of patterns -/

namespace Pattern

open DnsName

variable {cs l : List Char}

/-- A text that matches `labelPattern` starts with a letter or a digit, has only `hyphenated`
characters, and at most `maxLabel` of them. -/
lemma Matches.label_spec (h : Definition.labelPattern.Matches l) :
    (∃ a as, l = a :: as ∧ CharSet.alphanumeric.has a = true) ∧
      (∀ c ∈ l, CharSet.hyphenated.has c = true) ∧ l.length ≤ maxLabel := by
  have hedge : ∀ {c}, CharSet.alphanumeric.has c = true → CharSet.hyphenated.has c = true :=
    CharSet.has_mono (by decide) (by decide)
  rw [labelPattern_eq] at h
  rcases matches_edged_iff.1 h with ⟨a, ha, rfl⟩ | ⟨a, ms, e, ha, hms, he, rfl⟩
  · have hone : 1 ≤ maxLabel := by decide
    exact ⟨⟨a, [], rfl, ha⟩, List.forall_mem_singleton.2 (hedge ha), hone⟩
  · obtain ⟨hlength, hinner⟩ := matches_upTo_iff.1 hms
    refine ⟨⟨a, _, rfl, ha⟩, List.forall_mem_cons.2 ⟨hedge ha, List.forall_mem_append.2
      ⟨hinner, List.forall_mem_singleton.2 (hedge he)⟩⟩, ?_⟩
    rw [List.length_cons, List.length_append, List.length_singleton, maxLabel]
    omega

/-- A letter or a digit with `hyphenated` characters after it may stand as a label. -/
lemma isLabel_cons {a : Char} {as : List Char} (ha : CharSet.alphanumeric.has a = true)
    (has : ∀ c ∈ as, CharSet.hyphenated.has c = true) : isLabel (a :: as) = true := by
  have hstart : isLabelStart a = true :=
    CharSet.forall_has (by decide) (by decide) (by decide) ha
  have hchar : ∀ c ∈ as, isLabelChar c = true := fun c hc =>
    CharSet.forall_has (by decide) (by decide) (by decide) (has c hc)
  rw [isLabel, hstart, List.all_eq_true.2 hchar]
  rfl

/-- A text that matches `labelPattern` is a `Legible` label. -/
lemma Matches.legible (h : Definition.labelPattern.Matches l) : Legible l := by
  obtain ⟨⟨a, as, rfl, ha⟩, hall, hlength⟩ := h.label_spec
  have hordinary : ∀ c ∈ a :: as, isOrdinary c = true := fun c hc =>
    CharSet.forall_has (by decide) (by decide) (by decide) (hall c hc)
  have hspelled : ∀ c ∈ a :: as, (c.isAlphanum || c == '-') = true := fun c hc =>
    CharSet.forall_has (p := fun c => c.isAlphanum || c == '-') (by decide) (by decide) (by decide)
      (hall c hc)
  have hbare : (a != '*' && a != '_') = true :=
    CharSet.forall_has (p := fun a => a != '*' && a != '_') (by decide) (by decide) (by decide) ha
  have hplain : isLabel (a :: as) = true :=
    isLabel_cons ha fun c hc => hall c (List.mem_cons_of_mem a hc)
  have hsmall : isLabel ((a :: as).map Char.toLower) = true := by
    refine isLabel_cons (CharSet.has_mono (by decide) (by decide) (CharSet.lowercase_toLower ha)) ?_
    rw [List.forall_mem_map]
    exact fun c hc => CharSet.has_mono (by decide) (by decide)
      (CharSet.lowercaseHyphenated_toLower (hall c (List.mem_cons_of_mem a hc)))
  refine ⟨List.cons_ne_nil a as, List.all_eq_true.2 hordinary, ?_,
    plainLabel_ok_iff.2 ⟨rfl, hplain, hlength⟩⟩
  rw [Bool.and_eq_true, bne_iff_ne, bne_iff_ne] at hbare
  rw [foldedLabel, if_neg (by simp [hbare.1, hbare.2]), if_pos (List.all_eq_true.2 hspelled)]
  exact plainLabel_ok_iff.2 ⟨rfl, hsmall, by rwa [List.length_map]⟩

/-- A base domain with a point at its end is the `pointed` text of labels that match
`labelPattern`. -/
lemma Matches.exists_pointed (h : Definition.namePattern.Matches cs) :
    ∃ ls, (∀ l ∈ ls, Definition.labelPattern.Matches l) ∧ cs ++ ['.'] = pointed ls := by
  obtain ⟨as, bs, rfl, has, hbs⟩ := matches_seq_iff.1 h
  -- the pattern has a point before each further label, and labels are written with one after each
  obtain ⟨ls, hls, hpointed⟩ : ∃ ls, (∀ l ∈ ls, Definition.labelPattern.Matches l) ∧
      bs ++ ['.'] = '.' :: pointed ls := by
    refine hbs.pointed_induction (motive := fun bs => ∃ ls,
      (∀ l ∈ ls, Definition.labelPattern.Matches l) ∧ bs ++ ['.'] = '.' :: pointed ls)
      ⟨[], List.forall_mem_nil _, rfl⟩ ?_
    rintro as bs has - ⟨ls, hls, hpointed⟩
    refine ⟨as :: ls, List.forall_mem_cons.2 ⟨has, hls⟩, ?_⟩
    rw [List.append_assoc, hpointed, List.cons_append, pointed_cons]
  refine ⟨as :: ls, List.forall_mem_cons.2 ⟨has, hls⟩, ?_⟩
  rw [List.append_assoc, hpointed, pointed_cons]

/-- A base domain ends with a character other than a point. -/
lemma Matches.exists_getLast? (h : Definition.namePattern.Matches cs) :
    ∃ e, cs.getLast? = some e ∧ e ≠ '.' := by
  obtain ⟨e, he, hborder⟩ := (Bordered.of_subdomain h.subdomain_toLower).last
  rw [List.getLast?_map, Option.mem_map] at he
  obtain ⟨e, he, rfl⟩ := he
  refine ⟨e, he, ?_⟩
  rintro rfl
  exact absurd hborder (by decide)

end Pattern

/-! ### The names of an admitted domain -/

namespace Record

variable {name : String}

/-- Nothing is dropped by `withoutEndDots` from a name that ends with something else than a dot. -/
lemma withoutEndDots_eq {e : Char} (hlast : name.toList.getLast? = some e) (he : e ≠ '.') :
    withoutEndDots name = name := by
  have hkept : name.toList.rdropWhile (· == '.') = name.toList := by
    rw [List.rdropWhile_eq_self_iff]
    intro hne
    rw [List.getLast?_eq_some_getLast hne, Option.some_inj] at hlast
    rw [hlast, beq_iff_eq]
    exact he
  rw [withoutEndDots, ← List.rdropWhile, hkept, String.ofList_toList]

/-- A name that ends with something else than a dot is `qualified` by one dot at its end. -/
lemma qualified_eq {e : Char} (hlast : name.toList.getLast? = some e) (he : e ≠ '.') :
    qualified name = name ++ "." := by
  rw [qualified, hlast, if_neg (by simpa using he)]

end Record

namespace Checker

open DnsName

variable {d : Domain} {c : Check}

/-- The labels that the name of a check has before those of the base domain: the selector and the
label for keys, or none. -/
def labelsAhead (d : Domain) : Check → List (List Char)
  | .dkim => [d.spec.dkim.selector.toList, Record.domainKeyLabel.toList]
  | .stats => []
  | .spf => []

/-- The name of a check, with the dot at its end, is the `labelsAhead` as they are written, followed
by the base domain and a dot. -/
lemma toList_nameOf (h : d.spec.Admitted) (c : Check) :
    (nameOf d c).toList = pointed (labelsAhead d c) ++ (d.spec.baseDomain.toList ++ ['.']) := by
  obtain ⟨e, hlast, he⟩ := h.1.exists_getLast?
  have hbase : (Record.qualified d.spec.baseDomain).toList = d.spec.baseDomain.toList ++ ['.'] := by
    rw [Record.qualified_eq hlast he, String.toList_append]
    rfl
  cases c with
  | dkim =>
    have hname : (Record.dkimName d.spec.dkim.selector d.spec.baseDomain).toList.getLast? =
        some e := by
      rw [Record.dkimName, Record.withoutEndDots_eq hlast he, String.toList_append,
        List.getLast?_append, hlast, Option.some_or]
    rw [nameOf, Record.qualified_eq hname he, Record.dkimName, Record.withoutEndDots_eq hlast he]
    simp [labelsAhead, pointed]
  | stats => exact hbase
  | spf => exact hbase

/-- The label for keys, which starts with an underscore, is `Legible`. -/
lemma legible_domainKeyLabel : Legible Record.domainKeyLabel.toList :=
  ⟨by decide, by decide, by decide, by decide⟩

/-- The name of a check of an admitted domain is the `pointed` text of labels that are `Legible`. -/
lemma exists_pointed_nameOf (h : d.spec.Admitted) (c : Check) :
    ∃ ls, ls ≠ [] ∧ (∀ l ∈ ls, Legible l) ∧ (nameOf d c).toList = pointed ls := by
  obtain ⟨ls, hls, hbase⟩ := h.1.exists_pointed
  have hahead : ∀ l ∈ labelsAhead d c, Legible l := by
    cases c with
    | dkim =>
      exact List.forall_mem_cons.2
        ⟨h.2.legible, List.forall_mem_singleton.2 legible_domainKeyLabel⟩
    | stats => exact List.forall_mem_nil _
    | spf => exact List.forall_mem_nil _
  refine ⟨labelsAhead d c ++ ls, ?_, List.forall_mem_append.2
    ⟨hahead, fun l hl => (hls l hl).legible⟩, ?_⟩
  · rintro hempty
    rw [(List.append_eq_nil_iff.1 hempty).2] at hbase
    simp [pointed] at hbase
  · rw [toList_nameOf h, hbase, pointed, pointed, pointed, List.flatMap_append]

/-- The length of the name of a check: what the `labelsAhead` take on the wire, the base domain, and
the dot at its end. -/
lemma length_nameOf (h : d.spec.Admitted) (c : Check) :
    (nameOf d c).length = DnsName.sizeOf (labelsAhead d c) + d.spec.baseDomain.length + 1 := by
  rw [← String.length_toList, toList_nameOf h, List.length_append, List.length_append,
    length_pointed, String.length_toList, List.length_singleton, Nat.add_assoc]

/-- If the name of a check has at most 255 characters, the check has a question, about the labels of
the name in lower case. -/
lemma query_of_le (h : d.spec.Admitted) (hle : (nameOf d c).length ≤ 255) :
    ∃ ls, ls ≠ [] ∧ (∀ l ∈ ls, Legible l) ∧ (nameOf d c).toList = pointed ls ∧
      query d c = .ok ⟨nameOf d c, ⟨ls.map (List.map Char.toLower)⟩, typeOf c⟩ := by
  obtain ⟨ls, hne, hls, hwritten⟩ := exists_pointed_nameOf h c
  refine ⟨ls, hne, hls, hwritten, ?_⟩
  rw [query, (read_pointed hwritten hne hls).1 hle]

/-- If the name of a check has more than 255 characters, the check has no question and fails with
`invalidName`. -/
lemma query_of_lt (h : d.spec.Admitted) (hlt : 255 < (nameOf d c).length) :
    ∃ k, 255 < k ∧
      query d c = .error (.invalidName (nameOf d c) (Fault.nameTooLong k).message) := by
  obtain ⟨ls, hne, hls, hwritten⟩ := exists_pointed_nameOf h c
  obtain ⟨k, hk, hread⟩ := (read_pointed hwritten hne hls).2 hlt
  exact ⟨k, hk, by rw [query, hread]⟩

/-- A check that has a question does not end with `invalidName`, whatever the resolver does. -/
lemma resolved_ne_invalidName {q : Dns.Query} (hq : query d c = .ok q) (probe : ProbeConfig)
    (resolver : Dns.Query → Dns.Exchange) (name reason : String) :
    resolved probe resolver c d ≠ .error (.invalidName name reason) := by
  have hanswers : ∀ x, answers probe q x ≠ .error (.invalidName name reason) := by
    rintro (⟨code, rs⟩ | _ | _)
    · cases code <;> exact nofun
    · exact nofun
    · exact nofun
  rw [resolved_of_query_ok probe resolver hq]
  cases hx : answers probe q (resolver q) with
  | error e =>
    rintro ⟨⟩
    exact hanswers _ hx
  | ok rs => exact nofun

/-- **Which names of an admitted domain can be asked about.** The name of a check is one dot longer
than the base domain, and that of the key also has the selector and the label for keys, with a dot
after each. If it has at most 255 characters, then it is read as it is written up to its capitals,
with labels of 1 to 63 octets, and sent with one octet more than it has characters. If it has more,
then the check ends with an invalid name, whatever the resolver does, and no other check does.

**Proof sketch.** By `exists_pointed_nameOf` the name is made of labels that are `Legible`: the
patterns bound the labels, and have no character that is an escape. So `read_pointed` reads them one
after the other as long as the name has room for them, which gives `query_of_le` and `query_of_lt`.
The lengths are those of `length_nameOf`. -/
theorem query_admitted (d : Domain) (h : d.spec.Admitted) :
    (nameOf d .dkim).length = d.spec.dkim.selector.length + d.spec.baseDomain.length + 13 ∧
      (nameOf d .stats).length = d.spec.baseDomain.length + 1 ∧
      (nameOf d .spf).length = d.spec.baseDomain.length + 1 ∧
      ∀ c,
        ((nameOf d c).length ≤ 255 → ∃ q, query d c = .ok q ∧
          q.name.text.toList = (nameOf d c).toList.map Char.toLower ∧
          (∀ l ∈ q.name.labels, 1 ≤ l.length ∧ l.length ≤ 63) ∧
          q.name.wire.length = (nameOf d c).length + 1) ∧
        (255 < (nameOf d c).length → ∃ k, 255 < k ∧
          query d c = .error (.invalidName (nameOf d c) (Fault.nameTooLong k).message)) ∧
        ∀ probe resolver,
          (∃ name reason, resolved probe resolver c d = .error (.invalidName name reason)) ↔
            255 < (nameOf d c).length := by
  have hkey : Record.domainKeyLabel.toList.length = 10 := by decide
  refine ⟨?_, ?_, ?_, fun c => ⟨fun hle => ?_, query_of_lt h, fun probe resolver => ⟨?_, ?_⟩⟩⟩
  · rw [length_nameOf h, labelsAhead, DnsName.sizeOf, DnsName.sizeOf, DnsName.sizeOf, hkey,
      String.length_toList]
    omega
  · rw [length_nameOf h, labelsAhead, DnsName.sizeOf, Nat.zero_add]
  · rw [length_nameOf h, labelsAhead, DnsName.sizeOf, Nat.zero_add]
  · obtain ⟨ls, hne, hls, hwritten, hquery⟩ := query_of_le h hle
    -- the name is read label by label, and only its capitals are lost
    have hsmall : pointed (ls.map (List.map Char.toLower)) =
        (nameOf d c).toList.map Char.toLower := by
      rw [pointed_map_toLower, hwritten]
    refine ⟨_, hquery, ?_, ?_, ?_⟩
    · rw [toList_text (by simpa using hne), hsmall]
      rw [List.forall_mem_map]
      exact fun l hl => all_isOrdinary_toLower (hls l hl).ordinary
    · rw [List.forall_mem_map]
      intro l hl
      rw [List.length_map]
      exact ⟨List.length_pos_iff.2 (hls l hl).ne_nil, (hls l hl).length_le⟩
    · rw [length_wire, size, ← length_pointed, hsmall, List.length_map, String.length_toList]
  · rintro ⟨name, reason, hinvalid⟩
    -- a name that is short enough has a question, and then it is no invalid name
    by_contra hle
    obtain ⟨ls, -, -, -, hquery⟩ := query_of_le h (Nat.not_lt.1 hle)
    exact resolved_ne_invalidName hquery probe resolver name reason hinvalid
  · intro hlt
    obtain ⟨k, -, hquery⟩ := query_of_lt h hlt
    exact ⟨_, _, resolved_of_query_error probe resolver hquery⟩

/-- The names of an ordinary domain, whose checks can all ask about theirs. -/
theorem query_admitted_acme :
    let d : Domain := {
      metadata := { name := some "acme", ns := some "mail" }
      spec := { baseDomain := "Acme.io", dkim := ⟨"s1", "key"⟩ } }
    d.spec.Admitted ∧ (∃ q, query d .dkim = .ok q ∧
        q.name.text.toList = "s1._domainkey.acme.io.".toList ∧ q.name.wire.length = 23) ∧
      ∀ c probe resolver name reason,
        resolved probe resolver c d ≠ .error (.invalidName name reason) := by
  intro d
  have hlabel : ∀ {s : String}, s.toList ≠ [] → s.toList.length ≤ 63 →
      s.toList.all CharSet.alphanumeric.has = true →
      Definition.labelPattern.Matches s.toList := Pattern.labelPattern_of_all
  have hbase : "Acme.io".toList = "Acme".toList ++ '.' :: "io".toList := by decide
  have hspec : d.spec.Admitted := by
    refine ⟨?_, hlabel (s := "s1") (by decide) (by decide) (by decide)⟩
    rw [hbase]
    exact (hlabel (by decide) (by decide) (by decide)).dotted_cons
      (hlabel (by decide) (by decide) (by decide)).dotted_single
  have hselectorLength : d.spec.dkim.selector.length = 2 := by decide
  have hbaseLength : d.spec.baseDomain.length = 7 := by decide
  obtain ⟨hdkim, hstats, hspf, hnames⟩ := query_admitted d hspec
  have hshort : ∀ c, (nameOf d c).length ≤ 255 := by
    rintro ⟨⟩ <;> omega
  obtain ⟨q, hq, htext, -, hwire⟩ := (hnames .dkim).1 (hshort .dkim)
  refine ⟨hspec, ⟨q, hq, ?_, by omega⟩, fun c probe resolver name reason hinvalid => ?_⟩
  · rw [htext, toList_nameOf hspec]
    decide
  · exact absurd (((hnames c).2.2 probe resolver).1 ⟨_, _, hinvalid⟩) (Nat.not_lt.2 (hshort c))

/-- An admitted domain whose base domain is short enough for a name itself, while the check of its
key ends with an invalid name, whatever the resolver does. -/
theorem query_admitted_overlong :
    let label := String.ofList (List.replicate 60 'a')
    let d : Domain := {
      metadata := { name := some "acme", ns := some "mail" }
      spec := { baseDomain := ".".intercalate [label, label, label, label],
                dkim := ⟨"kannon", "key"⟩ } }
    d.spec.Admitted ∧ d.spec.baseDomain.length = 243 ∧ (∃ q, query d .stats = .ok q) ∧
      ∀ probe resolver, ∃ name reason,
        resolved probe resolver .dkim d = .error (.invalidName name reason) := by
  intro label d
  have hlabel : Definition.labelPattern.Matches (List.replicate 60 'a') :=
    Pattern.labelPattern_of_all (by decide) (by decide) (by decide)
  have hjoined : ∀ s : String, (".".intercalate [s, s, s, s]).toList =
      s.toList ++ '.' :: (s.toList ++ '.' :: (s.toList ++ '.' :: s.toList)) := by
    simp
  have hbase := hjoined label
  rw [String.toList_ofList] at hbase
  have hspec : d.spec.Admitted := by
    refine ⟨?_, Pattern.labelPattern_of_all (by decide) (by decide) (by decide)⟩
    change Definition.namePattern.Matches (".".intercalate [label, label, label, label]).toList
    rw [hbase]
    exact hlabel.dotted_cons (hlabel.dotted_cons (hlabel.dotted_cons hlabel.dotted_single))
  have hlength : d.spec.baseDomain.length = 243 := by
    change (".".intercalate [label, label, label, label]).length = 243
    rw [← String.length_toList, hbase]
    simp only [List.length_append, List.length_cons, List.length_replicate]
  -- the base domain leaves room for a dot, but not for the selector and the label for keys
  have hstats : (nameOf d .stats).length ≤ 255 := by
    rw [length_nameOf hspec, labelsAhead, hlength]
    decide
  have hdkim : 255 < (nameOf d .dkim).length := by
    rw [length_nameOf hspec, labelsAhead, hlength]
    decide
  obtain ⟨ls, -, -, -, hquery⟩ := query_of_le hspec hstats
  obtain ⟨k, -, hfails⟩ := query_of_lt hspec hdkim
  exact ⟨hspec, hlength, ⟨_, hquery⟩, fun probe resolver =>
    ⟨_, _, resolved_of_query_error probe resolver hfails⟩⟩

end Checker

end MailDomain
