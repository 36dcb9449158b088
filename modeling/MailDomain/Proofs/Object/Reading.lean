import MailDomain.Cluster.Server
import MailDomain.Object.Domain
import MailDomain.Object.Ingress
import MailDomain.Proofs.Json.Lookup

/-!
# Objects as values

A domain or an ingress is read from a value field by field, and its metadata apart from the rest.
So a text that is set in the metadata is all that changes of the object that is read.

## Main definitions

* `Json.withMetadata` — a value with a text set in its metadata.
* `LawfulManifest` — the metadata of a kind of objects are read apart from the rest.
* `Shows` — a value is read as an object with a key.

## Main results

* `ObjectMeta.decode_eq_ok_iff`, `Domain.decode_eq_ok_iff`, `Ingress.decode_eq_ok_iff` — an object
  is read exactly if each of its fields is.
* `Shows.setUid`, `Shows.setVersion` — a new identity or version is read as one.
* `Shows.uid_eq`, `Shows.version_eq`, `Shows.name_eq` — what a server looks at without reading.
-/

set_option relaxedAutoImplicit false
set_option autoImplicit false

namespace MailDomain

open Json

/-! ### Metadata -/

/-- **Metadata are read field by field**: from an object whose members have different names they are
read as `m` exactly if each field, by `member?`, is what `m` has for it. Members of other names are
passed over. -/
theorem ObjectMeta.decode_eq_ok_iff {md : Members} {m : ObjectMeta}
    (hmd : (md.map Prod.fst).Nodup) :
    ObjectMeta.decode (.ofJson (.obj md)) = .ok m ↔
      member? "name" text md = .ok m.name ∧
      member? "generateName" text md = .ok m.generateName ∧
      member? "namespace" text md = .ok m.ns ∧
      member? "uid" text md = .ok m.uid ∧
      member? "resourceVersion" text md = .ok m.resourceVersion ∧
      member? "generation" word64 md = .ok m.generation ∧
      member? "labels" textMap md = .ok m.labels ∧
      member? "deletionTimestamp" timestamp md = .ok m.deletionTimestamp ∧
      member? "ownerReferences" (list OwnerReference.decode) md = .ok m.ownerReferences := by
  obtain ⟨name, generateName, ns, uid, version, generation, labels, deletion, owners⟩ := m
  rw [ObjectMeta.decode, presentMembers_bind_eq_ok_iff (by decide) hmd]
  simp only [List.forall_mem_cons, perhaps_met_iff]
  simp only [present?_named hmd, bind_eq_ok_iff, pure, Except.pure, List.map_cons, List.map_nil,
    name_perhaps, List.mem_cons, String.reduceEq, List.not_mem_nil, or_false, or_true]
  constructor
  · rintro ⟨-, _, h₁, _, h₂, _, h₃, _, h₄, _, h₅, _, h₆, _, h₇, _, h₈, _, h₉, h⟩
    cases h
    exact ⟨h₁, h₂, h₃, h₄, h₅, h₆, h₇, h₈, h₉⟩
  · rintro ⟨h₁, h₂, h₃, h₄, h₅, h₆, h₇, h₈, h₉⟩
    exact ⟨⟨⟨_, h₈⟩, ⟨_, h₂⟩, ⟨_, h₆⟩, ⟨_, h₇⟩, ⟨_, h₁⟩, ⟨_, h₃⟩, ⟨_, h₉⟩, ⟨_, h₅⟩, ⟨_, h₄⟩,
      nofun⟩, _, h₁, _, h₂, _, h₃, _, h₄, _, h₅, _, h₆, _, h₇, _, h₈, _, h₉, rfl⟩

/-- A value that is read as metadata is an object. -/
lemma ObjectMeta.obj_of_decode {v : Json} {m : ObjectMeta}
    (h : ObjectMeta.decode (.ofJson v) = .ok m) : ∃ md, v = .obj md := by
  cases v with
  | obj md => exact ⟨md, rfl⟩
  | _ => cases h

/-- A field that is read as a text, or as none, is the string under its name, if there is one. -/
lemma Json.text_of_member? {ms : Members} {name : String} {o : Option String}
    (h : member? name text ms = .ok o) : (Members.get? name ms).bind Json.str? = o := by
  rw [member?] at h
  cases hv : Members.get? name ms with
  | none =>
    rw [hv] at h
    exact Except.ok.inj h
  | some v =>
    rw [hv] at h
    cases v with
    | null => exact Except.ok.inj h
    | str s => exact Except.ok.inj h
    | _ => cases h

/-- Setting a member under another name leaves the field `other`. -/
lemma Json.member?_set_of_ne {α : Type} {read : Decoder α} {name other : String} (h : other ≠ name)
    (v : Json) (ms : Members) : member? other read (ms.set name v) = member? other read ms :=
  member?_congr (Members.get?_set_of_ne h v ms)

/-- Setting a string under the name of a text field gives the field that text. -/
lemma Json.member?_set_self (name s : String) (ms : Members) :
    member? name text (ms.set name (.str s)) = .ok (some s) :=
  member?_text (Members.get?_set_self name _ ms)

/-- Metadata in which the member `uid` was set are read with that `uid`, and otherwise as before. -/
lemma ObjectMeta.decode_setUid {md : Members} {m : ObjectMeta} (hmd : (md.map Prod.fst).Nodup)
    (h : ObjectMeta.decode (.ofJson (.obj md)) = .ok m) (s : String) :
    ObjectMeta.decode (.ofJson (.obj (md.set "uid" (.str s)))) = .ok { m with uid := some s } := by
  rw [decode_eq_ok_iff hmd] at h
  rw [decode_eq_ok_iff (Members.nodup_set hmd _ _)]
  simp [member?_set_of_ne, member?_set_self, h]

/-- Metadata in which the member `resourceVersion` was set are read with that version, and otherwise
as before. -/
lemma ObjectMeta.decode_setVersion {md : Members} {m : ObjectMeta} (hmd : (md.map Prod.fst).Nodup)
    (h : ObjectMeta.decode (.ofJson (.obj md)) = .ok m) (s : String) :
    ObjectMeta.decode (.ofJson (.obj (md.set "resourceVersion" (.str s)))) =
      .ok { m with resourceVersion := some s } := by
  rw [decode_eq_ok_iff hmd] at h
  rw [decode_eq_ok_iff (Members.nodup_set hmd _ _)]
  simp [member?_set_of_ne, member?_set_self, h]

/-! ### Domains and ingresses -/

/-- A domain is read from an object with different names exactly if its metadata, its specification
and its status are. -/
theorem Domain.decode_eq_ok_iff {ms : Members} {d : Domain} (hms : (ms.map Prod.fst).Nodup) :
    Domain.decode (.ofJson (.obj ms)) = .ok d ↔
      metadataField.member ms = .ok d.metadata ∧ specField.member ms = .ok d.spec ∧
        statusField.member ms = .ok d.status := by
  obtain ⟨metadata, spec, status⟩ := d
  rw [Draft.ofJson, Domain.decode, recordMembers_bind_eq_ok_iff (by decide) hms]
  simp only [List.forall_mem_cons]
  simp only [bind_eq_ok_iff, pure, Except.pure, RecordField.ofMembers_named hms, List.map_cons,
    List.map_nil, RecordField.name_expectation, List.mem_cons, List.not_mem_nil, or_false, or_true,
    true_or]
  constructor
  · rintro ⟨-, _, h₁, _, h₂, _, h₃, h⟩
    cases h
    exact ⟨h₁, h₂, h₃⟩
  · rintro ⟨h₁, h₂, h₃⟩
    exact ⟨⟨RecordField.met_of_member h₁, RecordField.met_of_member h₂,
      RecordField.met_of_member h₃, nofun⟩, _, h₁, _, h₂, _, h₃, rfl⟩

/-- The outcome of the checks is read from an object with different names exactly if each of its
flags is. -/
theorem DnsStatus.decode_eq_ok_iff {ms : Members} {s : DnsStatus} (hms : (ms.map Prod.fst).Nodup) :
    DnsStatus.decode (.ofJson (.obj ms)) = .ok s ↔
      dkimField.member ms = .ok s.dkim ∧ statsField.member ms = .ok s.stats ∧
        spfField.member ms = .ok s.spf := by
  obtain ⟨dkim, stats, spf⟩ := s
  rw [Draft.ofJson, DnsStatus.decode, recordMembers_bind_eq_ok_iff (by decide) hms]
  simp only [List.forall_mem_cons]
  simp only [bind_eq_ok_iff, pure, Except.pure, RecordField.ofMembers_named hms, List.map_cons,
    List.map_nil, RecordField.name_expectation, List.mem_cons, List.not_mem_nil, or_false, or_true,
    true_or]
  constructor
  · rintro ⟨-, _, h₁, _, h₂, _, h₃, h⟩
    cases h
    exact ⟨h₁, h₂, h₃⟩
  · rintro ⟨h₁, h₂, h₃⟩
    exact ⟨⟨RecordField.met_of_member h₁, RecordField.met_of_member h₂,
      RecordField.met_of_member h₃, nofun⟩, _, h₁, _, h₂, _, h₃, rfl⟩

/-- A status is read from an object with different names exactly if the outcome of the checks and
the generation are. -/
theorem DomainStatus.decode_eq_ok_iff {ms : Members} {s : DomainStatus}
    (hms : (ms.map Prod.fst).Nodup) :
    DomainStatus.decode (.ofJson (.obj ms)) = .ok s ↔
      dnsField.member ms = .ok s.dns ∧
        observedGenerationField.member ms = .ok s.observedGeneration := by
  obtain ⟨dns, observedGeneration⟩ := s
  rw [Draft.ofJson, DomainStatus.decode, recordMembers_bind_eq_ok_iff (by decide) hms]
  simp only [List.forall_mem_cons]
  simp only [bind_eq_ok_iff, pure, Except.pure, RecordField.ofMembers_named hms, List.map_cons,
    List.map_nil, RecordField.name_expectation, List.mem_cons, List.not_mem_nil, or_false, or_true,
    true_or]
  constructor
  · rintro ⟨-, _, h₁, _, h₂, h⟩
    cases h
    exact ⟨h₁, h₂⟩
  · rintro ⟨h₁, h₂⟩
    exact ⟨⟨RecordField.met_of_member h₁, RecordField.met_of_member h₂, nofun⟩, _, h₁, _, h₂, rfl⟩

/-- An ingress is read from an object with different names exactly if its `apiVersion` and `kind`
are those of ingresses where they are given, and its metadata, specification and status are read, of
which each may be missing. -/
theorem Ingress.decode_eq_ok_iff {ms : Members} {i : Ingress} (hms : (ms.map Prod.fst).Nodup) :
    Ingress.decode (.ofJson (.obj ms)) = .ok i ↔
      (Expectation.of "apiVersion" (exactly Kind.ingress.apiVersion)).Met ms ∧
      (Expectation.of "kind" (exactly Kind.ingress.name)).Met ms ∧
      (∃ m, member? "metadata" ObjectMeta.decode ms = .ok m ∧ i.metadata = m.getD {}) ∧
      member? "spec" IngressSpec.decode ms = .ok i.spec ∧
      member? "status" IngressStatus.decode ms = .ok i.status := by
  obtain ⟨metadata, spec, status⟩ := i
  rw [Ingress.decode, presentMembers_bind_eq_ok_iff (by decide) hms]
  simp only [List.forall_mem_cons, perhaps_met_iff]
  simp only [present?_named hms, bind_eq_ok_iff, pure, Except.pure, List.map_cons, List.map_nil,
    name_perhaps, name_of, List.mem_cons, String.reduceEq, List.not_mem_nil, or_false, or_true]
  constructor
  · rintro ⟨⟨h₁, h₂, -⟩, _, h₃, _, h₄, _, h₅, h⟩
    cases h
    exact ⟨h₁, h₂, ⟨_, h₃, rfl⟩, h₄, h₅⟩
  · rintro ⟨h₁, h₂, ⟨m, h₃, rfl⟩, h₄, h₅⟩
    exact ⟨⟨h₁, h₂, ⟨_, h₃⟩, ⟨_, h₄⟩, ⟨_, h₅⟩, nofun⟩, _, h₃, _, h₄, _, h₅, rfl⟩

/-! ### Changes of a value -/

/-- The object `v` with the string `s` set under `name` in its `metadata`. A value that is no object
counts as an empty one. -/
def Json.withMetadata (v : Json) (name s : String) : Json :=
  let md := ((v.get? "metadata").getD (.obj [])).members
  .obj (v.members.set "metadata" (.obj (md.set name (.str s))))

/-- The law of a kind of objects on which a server relies: the metadata of an object stand under
`metadata`, and are read apart from the rest of it. Domains and ingresses both satisfy it. -/
class LawfulManifest (Spec Status : Type) [Manifest (Resource Spec Status)] : Prop where
  metadata_of_decode : ∀ {ms : Members} {r : Resource Spec Status}, (ms.map Prod.fst).Nodup →
    Manifest.decode (.ofJson (.obj ms)) = .ok r → r.key?.isSome →
    ∃ v : Json, Members.get? "metadata" ms = some v ∧ ObjectMeta.decode v = .ok r.metadata
  decode_set_metadata : ∀ {ms : Members} {r : Resource Spec Status} {v : Json} {m : ObjectMeta},
    (ms.map Prod.fst).Nodup → Manifest.decode (.ofJson (.obj ms)) = .ok r →
    ObjectMeta.decode v = .ok m →
    Manifest.decode (.ofJson (.obj (ms.set "metadata" v))) = .ok { r with metadata := m }

instance : LawfulManifest DomainSpec DomainStatus where
  metadata_of_decode {ms d} hms h _ := by
    obtain ⟨hmetadata, -⟩ := (Domain.decode_eq_ok_iff hms).1 h
    cases hv : Members.get? "metadata" ms with
    | none =>
      rw [RecordField.member, Domain.metadataField, hv] at hmetadata
      cases hmetadata
    | some v =>
      rw [RecordField.member_of_get? hv] at hmetadata
      exact ⟨v, rfl, hmetadata⟩
  decode_set_metadata {ms d v m} hms h hm := by
    obtain ⟨-, hspec, hstatus⟩ := (Domain.decode_eq_ok_iff hms).1 h
    refine (Domain.decode_eq_ok_iff (Members.nodup_set hms _ _)).2 ⟨?_, ?_, ?_⟩
    · rw [RecordField.member_of_get? (Members.get?_set_self "metadata" v ms)]
      exact hm
    · rw [RecordField.member_congr (Members.get?_set_of_ne (by decide) v ms)]
      exact hspec
    · rw [RecordField.member_congr (Members.get?_set_of_ne (by decide) v ms)]
      exact hstatus

/-- Setting a member leaves an expectation of another name `Met`. -/
lemma Json.Expectation.Met.set {x : Expectation} {ms : Members} {name : String} (h : x.Met ms)
    (hx : x.name ≠ name) (v : Json) : x.Met (ms.set name v) := by
  intro w hw
  rw [Members.get?_set_of_ne hx] at hw
  exact h w hw

instance : LawfulManifest (Option IngressSpec) IngressStatus where
  metadata_of_decode {ms i} hms h hkey := by
    obtain ⟨-, -, ⟨m, hm, hi⟩, -⟩ := (Ingress.decode_eq_ok_iff hms).1 h
    rw [member?] at hm
    split at hm
    · cases hm
      rw [Resource.key?, hi] at hkey
      cases hkey
    · cases hm
      rw [Resource.key?, hi] at hkey
      cases hkey
    · next v _ hv =>
      obtain ⟨a, ha, rfl⟩ := map_eq_ok_iff.1 hm
      exact ⟨v, hv, ha.trans (congrArg Except.ok hi.symm)⟩
  decode_set_metadata {ms i v m} hms h hm := by
    obtain ⟨hversion, hkind, -, hspec, hstatus⟩ := (Ingress.decode_eq_ok_iff hms).1 h
    obtain ⟨md, rfl⟩ := ObjectMeta.obj_of_decode hm
    refine (Ingress.decode_eq_ok_iff (Members.nodup_set hms _ _)).2
      ⟨hversion.set (by decide) _, hkind.set (by decide) _,
        ⟨_, member?_of_get? (Members.get?_set_self ..) nofun hm, rfl⟩, ?_, ?_⟩
    · rw [member?_set_of_ne (by decide)]
      exact hspec
    · rw [member?_set_of_ne (by decide)]
      exact hstatus

section Shows

variable {Spec Status : Type} [Manifest (Resource Spec Status)]

/-- The value `v` is an object in which no name comes twice, and it is read as the object `r`, which
has the key `key`. -/
structure Shows (v : Json) (key : ObjectKey) (r : Resource Spec Status) : Prop where
  distinct : v.Distinct
  isObj : ∃ ms, v = .obj ms
  decode_eq : Manifest.decode (.ofJson v) = .ok r
  key?_eq : r.key? = some key

variable [LawfulManifest Spec Status] {v : Json} {key : ObjectKey} {r : Resource Spec Status}

/-- A value that `Shows` an object has an object under `metadata`, which is read as the metadata of
the object. -/
lemma Shows.metadata (h : Shows v key r) :
    ∃ ms md : Members, v = .obj ms ∧ ms.Distinct ∧
      Members.get? "metadata" ms = some (.obj md) ∧ md.Distinct ∧
      ObjectMeta.decode (.ofJson (.obj md)) = .ok r.metadata := by
  obtain ⟨ms, rfl⟩ := h.isObj
  have hms := distinct_obj.1 h.distinct
  obtain ⟨w, hw, hdecode⟩ := LawfulManifest.metadata_of_decode hms.names h.decode_eq
    (by rw [h.key?_eq]; rfl)
  obtain ⟨md, rfl⟩ := ObjectMeta.obj_of_decode hdecode
  exact ⟨ms, md, rfl, hms, hw, distinct_obj.1 (hms.get? hw), hdecode⟩

/-- Suppose that setting a string in the metadata changes what is read of them to `m`, which has the
same key. Then a value that `Shows` an object shows it with the metadata `m` when the string was
set. -/
lemma Shows.setMetadata {name s : String} {m : ObjectMeta} (h : Shows v key r)
    (hm : ∀ {md : Members}, (md.map Prod.fst).Nodup →
      ObjectMeta.decode (.ofJson (.obj md)) = .ok r.metadata →
      ObjectMeta.decode (.ofJson (.obj (md.set name (.str s)))) = .ok m)
    (hkey : m.key? = r.metadata.key?) :
    Shows (v.withMetadata name s) key { r with metadata := m } := by
  obtain ⟨ms, md, rfl, hms, hmd, hdistinct, hdecode⟩ := h.metadata
  have hvalue : (Json.obj ms).withMetadata name s =
      .obj (ms.set "metadata" (.obj (md.set name (.str s)))) := by
    simp [Json.withMetadata, Json.get?, Json.members, hmd]
  rw [hvalue]
  exact {
    distinct := distinct_obj.2
      (hms.set _ (distinct_obj.2 (hdistinct.set name (v := .str s) trivial)))
    isObj := ⟨_, rfl⟩
    decode_eq := LawfulManifest.decode_set_metadata hms.names h.decode_eq
      (hm hdistinct.names hdecode)
    key?_eq := hkey.trans h.key?_eq }

/-- A value that `Shows` an object shows it with another `uid` when that was set in its metadata. -/
theorem Shows.setUid (h : Shows v key r) (s : String) :
    Shows (v.withMetadata "uid" s) key { r with metadata := { r.metadata with uid := some s } } :=
  h.setMetadata (fun hmd hdecode => ObjectMeta.decode_setUid hmd hdecode s) rfl

/-- A value that `Shows` an object shows it with another version when that was set in its
metadata. -/
theorem Shows.setVersion (h : Shows v key r) (s : String) :
    Shows (v.withMetadata "resourceVersion" s) key
      { r with metadata := { r.metadata with resourceVersion := some s } } :=
  h.setMetadata (fun hmd hdecode => ObjectMeta.decode_setVersion hmd hdecode s) rfl

/-- A text that a server looks up in the metadata of a value that `Shows` an object is what the
field is read as. -/
lemma Shows.metadataText {name : String} {o : Option String} (h : Shows v key r)
    (ho : ∀ {md : Members}, (md.map Prod.fst).Nodup →
      ObjectMeta.decode (.ofJson (.obj md)) = .ok r.metadata → member? name text md = .ok o) :
    Cluster.Server.metadataText name v = o := by
  obtain ⟨ms, md, rfl, -, hmd, hdistinct, hdecode⟩ := h.metadata
  have hfound : (Json.obj ms).get? "metadata" = some (.obj md) := hmd
  rw [Cluster.Server.metadataText, hfound]
  exact text_of_member? (ho hdistinct.names hdecode)

/-- The `uid` that a server looks up in a value is that of the object that the value `Shows`. -/
lemma Shows.uid_eq (h : Shows v key r) : Cluster.Server.metadataText "uid" v = r.metadata.uid :=
  h.metadataText fun hmd hdecode => ((ObjectMeta.decode_eq_ok_iff hmd).1 hdecode).2.2.2.1

/-- The version that a server looks up in a value is that of the object that the value `Shows`. -/
lemma Shows.version_eq (h : Shows v key r) :
    Cluster.Server.metadataText "resourceVersion" v = r.metadata.resourceVersion :=
  h.metadataText fun hmd hdecode => ((ObjectMeta.decode_eq_ok_iff hmd).1 hdecode).2.2.2.2.1

/-- The name that a server looks up in a value is that of the key of the object that the value
`Shows`. -/
lemma Shows.name_eq (h : Shows v key r) : Cluster.Server.metadataText "name" v = some key.name := by
  rw [h.metadataText fun hmd hdecode => ((ObjectMeta.decode_eq_ok_iff hmd).1 hdecode).1]
  obtain ⟨name, hname, hns⟩ := Option.bind_eq_some_iff.1 h.key?_eq
  obtain ⟨ns, -, hkey⟩ := Option.bind_eq_some_iff.1 hns
  cases hkey
  exact hname

end Shows

end MailDomain
