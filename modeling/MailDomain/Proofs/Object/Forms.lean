import MailDomain.Proofs.Json.Printing
import MailDomain.Proofs.Json.Records
import MailDomain.Proofs.Object.Writing

/-!
# The forms of specifications and statuses

The specification of a domain and its status can be written in more than one way: as objects with
their members in any order and with others among them, or as arrays, with null or nothing for what
may be missing. Each way to write them is read as the same value, and what is printed for a value is
one of them. So a status that was persisted is read as the one that was written, and the next pass
compares with that.

## Main definitions

* `DkimConfig.Form`, `DomainSpec.Form`, `DnsStatus.Form`, `DomainStatus.Form` — the values that are
  ways to write a record, said without the reader.
* `DomainSpec.row`, `DomainStatus.row` — a record as the array of its fields.

## Main results

* `DomainSpec.decode_eq_ok_iff_form`, `DomainStatus.decode_eq_ok_iff_form` — a record is read
  exactly from its forms.
* `Json.readRecord_render` — what is read from a value is read from its printed text.
* `reading_normalises` — what is read is printed in one form, from which it is read again.
-/

set_option relaxedAutoImplicit false
set_option autoImplicit false

namespace MailDomain

open Json

/-! ### Plain values -/

/-- A field that is read by `Json.text` and has to come has the value `s` exactly if it comes as the
string `s`. -/
lemma Json.gives_text_iff {f : RecordField String} {o : Option Json} {s : String}
    (hread : f.read = Json.text) (hf : f.absent = none) : f.Gives o s ↔ o = some (.str s) := by
  have htext : ∀ v : Json, Json.text v = .ok s ↔ v = .str s := by
    intro v
    cases v <;> simp [Draft.ofJson, Json.text]
  simp [f.gives_iff_of_required hf, hread, htext]

/-- A field that is read by `Json.flag` and has to come has the value `b` exactly if it comes as the
truth value `b`. -/
lemma Json.gives_flag_iff {f : RecordField Bool} {o : Option Json} {b : Bool}
    (hread : f.read = flag) (hf : f.absent = none) : f.Gives o b ↔ o = some (.bool b) := by
  have hflag : ∀ v : Json, flag v = .ok b ↔ v = .bool b := by
    intro v
    cases v <;> simp [Draft.ofJson, flag]
  simp [f.gives_iff_of_required hf, hread, hflag]

/-- The reader `word64` gives the integer `g` for the number `g`, and for nothing else. -/
lemma Json.word64_eq_ok_iff {v : Json} {g : Int64} : word64 v = .ok g ↔ v = ofInt g.toInt := by
  constructor
  · intro h
    obtain ⟨n, hn, rfl⟩ := map_eq_ok_iff.1 h
    cases v with
    | num m =>
      cases m with
      | int n' =>
        rw [Draft.ofJson, integer] at hn
        split at hn
        · next hrange =>
          obtain rfl := Except.ok.inj hn
          rw [Int64.toInt_ofInt_of_le hrange.1 (by omega)]
          rfl
        · cases hn
      | float => cases hn
    | _ => cases hn
  · rintro rfl
    exact word64_ofInt g

/-- The reader `Json.optional read` gives `none` for null, and for any other value what `read` makes
of it. -/
lemma Json.optional_eq_ok_iff {α : Type} {read : Decoder α} {v : Json} {o : Option α} :
    Json.optional read v = .ok o ↔
      (v = .null ∧ o = none) ∨ (v ≠ .null ∧ ∃ a, read v = .ok a ∧ some a = o) := by
  cases v with
  | null => simp [Draft.ofJson, Json.optional, eq_comm]
  | _ => simp [Draft.ofJson, Json.optional, map_eq_ok_iff]

/-! ### Specifications -/

namespace DkimConfig

/-- The values that are ways to write the DKIM key `c`: objects and arrays that bring its selector
and its public key. -/
def Form (c : DkimConfig) (v : Json) : Prop :=
  Brings v [("selector", some (.str c.selector)), ("publicKey", some (.str c.publicKey))]

/-- The fields of a DKIM key, as a `Row`. -/
def fields : Row (String × String × Unit) :=
  .field selectorField (.field publicKeyField .none)

/-- The reader of DKIM keys is that of their `fields`. -/
lemma decode_eq : decode = fields.decode shape "struct DkimConfig" fun c => ⟨c.1, c.2.1⟩ := by
  funext d
  cases d <;> simp [decode, fields, Row.decode, Row.expectations, Row.ofMembers, Row.ofElems]

/-- A value is read as the DKIM key `c` exactly if it is a `Form` of `c`. -/
theorem decode_eq_ok_iff_form {c : DkimConfig} {v : Json} : decode v = .ok c ↔ c.Form v := by
  rw [decode_eq, Row.decode_eq_ok_iff (r := fields) (by decide) ⟨rfl, rfl, trivial⟩]
  constructor
  · rintro ⟨_, _, hbrings, ⟨_, _, rfl, ha, _, _, rfl, hb, rfl⟩, rfl⟩
    obtain rfl := (gives_text_iff rfl rfl).1 ha
    obtain rfl := (gives_text_iff rfl rfl).1 hb
    exact hbrings
  · intro h
    exact ⟨_, (_, _, ()), h, ⟨_, _, rfl, rfl, _, _, rfl, rfl, rfl⟩, rfl⟩

/-- What `encode` gives for a DKIM key is a `Form` of it. -/
lemma form_encode (c : DkimConfig) : c.Form c.encode :=
  .members (by simp [Members.under])

end DkimConfig

namespace DomainSpec

/-- The values that are ways to write the specification `s`: objects and arrays that bring its base
domain and a `Form` of its DKIM key. -/
def Form (s : DomainSpec) (v : Json) : Prop :=
  ∃ dkim, s.dkim.Form dkim ∧
    Brings v [("baseDomain", some (.str s.baseDomain)), ("dkim", some dkim)]

/-- The specification `s` as the array of its fields, which is a way to write it that `encode` does
not choose. -/
def row (s : DomainSpec) : Json := .arr [.str s.baseDomain, s.dkim.encode]

/-- The fields of a specification, as a `Row`. -/
def fields : Row (String × DkimConfig × Unit) :=
  .field baseDomainField (.field dkimField .none)

/-- The reader of specifications is that of their `fields`. -/
lemma decode_eq : decode = fields.decode shape "struct DomainSpec" fun c => ⟨c.1, c.2.1⟩ := by
  funext d
  cases d <;> simp [decode, fields, Row.decode, Row.expectations, Row.ofMembers, Row.ofElems]

/-- **A value is read as the specification `s` exactly if it is a form of it**, by the law
`Row.decode_eq_ok_iff` for its two fields. -/
theorem decode_eq_ok_iff_form {s : DomainSpec} {v : Json} : decode v = .ok s ↔ s.Form v := by
  rw [decode_eq, Row.decode_eq_ok_iff (r := fields) (by decide) ⟨rfl, rfl, trivial⟩]
  constructor
  · rintro ⟨_, _, hbrings, ⟨_, _, rfl, ha, _, _, rfl, hb, rfl⟩, rfl⟩
    obtain rfl := (gives_text_iff rfl rfl).1 ha
    obtain ⟨dkim, rfl, hdkim⟩ := (dkimField.gives_iff_of_required rfl).1 hb
    exact ⟨dkim, DkimConfig.decode_eq_ok_iff_form.1 hdkim, hbrings⟩
  · rintro ⟨dkim, hdkim, hbrings⟩
    have hread := DkimConfig.decode_eq_ok_iff_form.2 hdkim
    exact ⟨_, (_, _, ()), hbrings, ⟨_, _, rfl, rfl, _, _, rfl, hread, rfl⟩, rfl⟩

/-- What `encode` gives for a specification is a `Form` of it. -/
lemma form_encode (s : DomainSpec) : s.Form s.encode :=
  ⟨_, s.dkim.form_encode, .members (by simp [Members.under])⟩

/-- The `row` of a specification is a `Form` of it. -/
lemma form_row (s : DomainSpec) : s.Form s.row :=
  ⟨_, s.dkim.form_encode, .elements (by rintro (_ | _ | i) <;> rfl)⟩

end DomainSpec

/-! ### Statuses -/

namespace DnsStatus

/-- The values that are ways to write the outcome `s` of the checks: objects and arrays that bring a
truth value for each check. -/
def Form (s : DnsStatus) (v : Json) : Prop :=
  Brings v [("dkim", some (.bool s.dkim)), ("stats", some (.bool s.stats)),
    ("spf", some (.bool s.spf))]

/-- The fields of the outcome of the checks, as a `Row`. -/
def fields : Row (Bool × Bool × Bool × Unit) :=
  .field dkimField (.field statsField (.field spfField .none))

/-- The reader of outcomes of the checks is that of their `fields`. -/
lemma decode_eq :
    decode = fields.decode shape "struct DnsStatus" fun c => ⟨c.1, c.2.1, c.2.2.1⟩ := by
  funext d
  cases d <;> simp [decode, fields, Row.decode, Row.expectations, Row.ofMembers, Row.ofElems]

/-- A value is read as the outcome `s` of the checks exactly if it is a `Form` of it. -/
theorem decode_eq_ok_iff_form {s : DnsStatus} {v : Json} : decode v = .ok s ↔ s.Form v := by
  rw [decode_eq, Row.decode_eq_ok_iff (r := fields) (by decide) ⟨rfl, rfl, rfl, trivial⟩]
  constructor
  · rintro ⟨_, _, hbrings, ⟨_, _, rfl, ha, _, _, rfl, hb, _, _, rfl, hc, rfl⟩, rfl⟩
    obtain rfl := (gives_flag_iff rfl rfl).1 ha
    obtain rfl := (gives_flag_iff rfl rfl).1 hb
    obtain rfl := (gives_flag_iff rfl rfl).1 hc
    exact hbrings
  · intro h
    exact ⟨_, (_, _, _, ()), h, ⟨_, _, rfl, rfl, _, _, rfl, rfl, _, _, rfl, rfl, rfl⟩, rfl⟩

/-- What `encode` gives for the outcome of the checks is a `Form` of it. -/
lemma form_encode (s : DnsStatus) : s.Form s.encode :=
  .members (by simp [Members.under])

end DnsStatus

namespace DomainStatus

/-- What may stand in a status for the outcome `s` of the checks: a `Form` of it, or nothing if no
check passed. -/
inductive DnsForm : DnsStatus → Option Json → Prop
  | absent : DnsForm .none none
  | present {s : DnsStatus} {v : Json} (h : s.Form v) : DnsForm s (some v)

/-- What may stand in a status for the generation: its number, or for `none` null or nothing. -/
inductive GenerationForm : Option Int64 → Option Json → Prop
  | absent : GenerationForm none none
  | null : GenerationForm none (some .null)
  | number (g : Int64) : GenerationForm (some g) (some (ofInt g.toInt))

/-- The values that are ways to write the status `s`: objects and arrays that bring a `DnsForm` and
a `GenerationForm`, of which both may be missing. -/
def Form (s : DomainStatus) (v : Json) : Prop :=
  ∃ dns generation, DnsForm s.dns dns ∧ GenerationForm s.observedGeneration generation ∧
    Brings v [("dns", dns), ("observedGeneration", generation)]

/-- The generation of a status as `encode` gives it, with null for `none`. -/
def encodeGeneration : Option Int64 → Json
  | none => .null
  | some g => ofInt g.toInt

/-- The status `s` as the array of its fields, which is a way to write it that `encode` does not
choose. -/
def row (s : DomainStatus) : Json := .arr [s.dns.encode, encodeGeneration s.observedGeneration]

/-- The field for the outcome of the checks is read as `s` exactly if what comes for it is a
`DnsForm` of `s`. -/
lemma dnsField_gives_iff {s : DnsStatus} {o : Option Json} : dnsField.Gives o s ↔ DnsForm s o := by
  cases o with
  | none =>
    constructor
    · rintro ⟨⟩
      exact .absent
    · rintro ⟨⟩
      rfl
  | some v =>
    constructor
    · intro h
      exact .present (DnsStatus.decode_eq_ok_iff_form.1 h)
    · rintro (_ | hform)
      exact DnsStatus.decode_eq_ok_iff_form.2 hform

/-- The field for the generation is read as `g` exactly if what comes for it is a `GenerationForm`
of `g`. -/
lemma observedGenerationField_gives_iff {g : Option Int64} {o : Option Json} :
    observedGenerationField.Gives o g ↔ GenerationForm g o := by
  cases o with
  | none =>
    constructor
    · rintro ⟨⟩
      exact .absent
    · rintro ⟨⟩
      rfl
  | some v =>
    refine Iff.trans (b := Json.optional word64 v = .ok g) Iff.rfl ?_
    rw [optional_eq_ok_iff]
    constructor
    · rintro (⟨rfl, rfl⟩ | ⟨-, a, ha, rfl⟩)
      · exact .null
      · obtain rfl := word64_eq_ok_iff.1 ha
        exact .number a
    · rintro (_ | _ | g)
      · exact .inl ⟨rfl, rfl⟩
      · exact .inr ⟨nofun, g, word64_ofInt g, rfl⟩

/-- The fields of a status, as a `Row`. -/
def fields : Row (DnsStatus × Option Int64 × Unit) :=
  .field dnsField (.field observedGenerationField .none)

/-- The reader of statuses is that of their `fields`. -/
lemma decode_eq : decode = fields.decode shape "struct DomainStatus" fun c => ⟨c.1, c.2.1⟩ := by
  funext d
  cases d <;> simp [decode, fields, Row.decode, Row.expectations, Row.ofMembers, Row.ofElems]

/-- **A value is read as the status `s` exactly if it is a form of it**, by the law
`Row.decode_eq_ok_iff` for its two fields. -/
theorem decode_eq_ok_iff_form {s : DomainStatus} {v : Json} : decode v = .ok s ↔ s.Form v := by
  rw [decode_eq, Row.decode_eq_ok_iff (r := fields) (by decide) ⟨rfl, rfl, trivial⟩]
  constructor
  · rintro ⟨_, _, hbrings, ⟨dns, _, rfl, ha, generation, _, rfl, hb, rfl⟩, rfl⟩
    exact ⟨dns, generation, dnsField_gives_iff.1 ha, observedGenerationField_gives_iff.1 hb,
      hbrings⟩
  · rintro ⟨dns, generation, ha, hb, hbrings⟩
    exact ⟨_, (_, _, ()), hbrings, ⟨_, _, rfl, dnsField_gives_iff.2 ha, _, _, rfl,
      observedGenerationField_gives_iff.2 hb, rfl⟩, rfl⟩

/-- What `encodeGeneration` gives is a `GenerationForm`. -/
lemma form_encodeGeneration (g : Option Int64) : GenerationForm g (some (encodeGeneration g)) := by
  cases g with
  | none => exact .null
  | some g => exact .number g

/-- What `encode` gives for a status is an object of its two fields, of which neither is ever left
out. -/
lemma encode_eq (s : DomainStatus) :
    s.encode = .obj [("dns", s.dns.encode),
      ("observedGeneration", encodeGeneration s.observedGeneration)] := by
  rw [encode]
  cases s.observedGeneration <;> rfl

/-- What `encode` gives for a status is a `Form` of it. -/
lemma form_encode (s : DomainStatus) : s.Form s.encode := by
  rw [encode_eq]
  exact ⟨_, _, .present s.dns.form_encode, form_encodeGeneration _,
    .members (by simp [Members.under])⟩

/-- The `row` of a status is a `Form` of it. -/
lemma form_row (s : DomainStatus) : s.Form s.row :=
  ⟨_, _, .present s.dns.form_encode, form_encodeGeneration _,
    .elements (by rintro (_ | _ | i) <;> rfl)⟩

end DomainStatus

/-! ### Texts -/

/-- What a reader makes of a value that is `Integral`, it makes of the text that `render` gives for
the value. -/
lemma Json.readRecord_render {α : Type} {read : Decoder α} {v : Json} {a : α} (hv : v.Integral)
    (ha : read v = .ok a) : readRecord read (render v) = .ok a := by
  rw [readRecord, ofText_render hv]
  simp [ha, atEnd, Reader.skip]

/-- What `encode` gives for a specification contains no number, and so is `Integral`. -/
lemma DomainSpec.integral_encode (s : DomainSpec) : s.encode.Integral := by
  simp [encode, DkimConfig.encode, Integral, IntegralValues]

/-- The `row` of a specification contains no number, and so is `Integral`. -/
lemma DomainSpec.integral_row (s : DomainSpec) : s.row.Integral := by
  simp [row, DkimConfig.encode, Integral, IntegralElems, IntegralValues]

/-- What `encode` gives for the outcome of the checks contains no number, and so is `Integral`. -/
lemma DnsStatus.integral_encode (s : DnsStatus) : s.encode.Integral := by
  simp [encode, Integral, IntegralValues]

/-- What `encodeGeneration` gives is null or an integer of 64 bits, and so is `Integral`. -/
lemma DomainStatus.integral_encodeGeneration (g : Option Int64) :
    (encodeGeneration g).Integral := by
  cases g with
  | none => trivial
  | some g => exact ⟨g.le_toInt, g.toInt_lt.trans (by decide)⟩

/-- What `encode` gives for a status is `Integral`, since its only number is a generation. -/
lemma DomainStatus.integral_encode (s : DomainStatus) : s.encode.Integral := by
  rw [encode_eq]
  exact ⟨s.dns.integral_encode, integral_encodeGeneration _, trivial⟩

/-- The `row` of a status is `Integral`, since its only number is a generation. -/
lemma DomainStatus.integral_row (s : DomainStatus) : s.row.Integral :=
  ⟨s.dns.integral_encode, integral_encodeGeneration _, trivial⟩

/-- **Reading normalises.** A specification or a status is read exactly from the values that are
forms of it. What is printed for it is one of these, and so is the array of its fields, and each is
read again as the same specification or status, from the value and from its text, whatever its
strings and its generation are. So a pass finds a status that was persisted different from a new one
exactly if it was another one that was written.

**Proof sketch.** The first two parts are `DomainSpec.decode_eq_ok_iff_form` and
`DomainStatus.decode_eq_ok_iff_form`. With them, `form_encode` and `form_row` say that what is
printed is read back from the value, and `Json.readRecord_render` carries this over to the text,
since the values are `Integral`. The last part compares the status that was read back by
`statusChanged_iff`. -/
theorem reading_normalises (v : Json) (spec : DomainSpec) (status : DomainStatus) :
    (DomainSpec.decode v = .ok spec ↔ spec.Form v) ∧
      (DomainStatus.decode v = .ok status ↔ status.Form v) ∧
      (DomainSpec.decode spec.encode = .ok spec ∧ DomainSpec.decode spec.row = .ok spec) ∧
      (DomainStatus.decode status.encode = .ok status ∧
        DomainStatus.decode status.row = .ok status) ∧
      (readRecord DomainSpec.decode (render spec.encode) = .ok spec ∧
        readRecord DomainSpec.decode (render spec.row) = .ok spec) ∧
      (readRecord DomainStatus.decode (render status.encode) = .ok status ∧
        readRecord DomainStatus.decode (render status.row) = .ok status) ∧
      ∀ new, statusChanged (readRecord DomainStatus.decode (render status.encode)).toOption
        (some new) = true ↔ status ≠ new := by
  have hspec := DomainSpec.decode_eq_ok_iff_form.2 spec.form_encode
  have hspecRow := DomainSpec.decode_eq_ok_iff_form.2 spec.form_row
  have hstatus := DomainStatus.decode_eq_ok_iff_form.2 status.form_encode
  have hstatusRow := DomainStatus.decode_eq_ok_iff_form.2 status.form_row
  have hpersisted := readRecord_render status.integral_encode hstatus
  refine ⟨DomainSpec.decode_eq_ok_iff_form, DomainStatus.decode_eq_ok_iff_form, ⟨hspec, hspecRow⟩,
    ⟨hstatus, hstatusRow⟩, ⟨readRecord_render spec.integral_encode hspec,
      readRecord_render spec.integral_row hspecRow⟩,
    ⟨hpersisted, readRecord_render status.integral_row hstatusRow⟩, fun new => ?_⟩
  rw [hpersisted, statusChanged_iff]
  exact not_congr Option.some_inj

/-- A status whose members are out of order, among others and without a generation is read, and so
are the fields of what was read. -/
theorem reading_normalises_unordered :
    let dns : Json := .obj [("spf", .bool true), ("y", .str "a"), ("dkim", .bool false),
      ("stats", .bool true)]
    let v : Json := .obj [("x", .null), ("dns", dns), ("x", .arr [])]
    let status : DomainStatus := ⟨⟨false, true, true⟩, none⟩
    DomainStatus.decode v = .ok status ∧ DomainStatus.decode status.row = .ok status := by
  intro dns v status
  obtain ⟨-, hread, -, ⟨-, hrow⟩, -⟩ := reading_normalises v ⟨"", "", ""⟩ status
  have hdns : status.dns.Form dns := .members (by simp [status, Members.under])
  exact ⟨hread.2 ⟨some dns, none, .present hdns, .absent, .members (by simp [Members.under])⟩, hrow⟩

end MailDomain
