import MailDomain.Proofs.Object.Writing

/-!
# What a status patch replaces

The API server merges a status patch into the object that it keeps, and a merge keeps what the patch
does not name. A status names everything that is read from one, so that after the merge nothing is
read of the status before it, whatever that was. Nothing else changes but the version.

## Main definitions

* `StatusReplaced` — an object has a new version and a new status, and is otherwise as it was.

## Main results

* `Domain.statusReplaced` — what the patch of a domain does to any object.
* `statusPatch_replaces` — a domain with a version has a patch, which replaces the status, and one
  without a version has none.
-/

set_option relaxedAutoImplicit false
set_option autoImplicit false

namespace MailDomain

open Json

/-- The object with the members `live` has become that with the members `ms`: its version is
`version` and its status is read as `status`. All other members are as they were, and so are the
other members of its metadata. -/
structure StatusReplaced (live ms : Members) (version : String) (status : Option DomainStatus) :
    Prop where
  distinct : ms.Distinct
  others : ∀ name, name ≠ "status" → name ≠ "metadata" →
    Members.get? name ms = Members.get? name live
  metadata : ∃ md, Members.get? "metadata" ms = some (.obj md) ∧
    Members.get? "resourceVersion" md = some (.str version) ∧
    ∀ old, Members.get? "metadata" live = some (.obj old) → ∀ name, name ≠ "resourceVersion" →
      Members.get? name md = Members.get? name old
  status_read : Domain.statusField.member ms = .ok status
  /-- If the rest of the object was read, then the whole is read now, whether or not its status
  could be read before. -/
  decode_eq : ∀ m spec, Domain.metadataField.member live = .ok m →
    Domain.specField.member live = .ok spec →
      Domain.decode (.ofJson (.obj ms)) =
        .ok ⟨{ m with resourceVersion := some version }, spec, status⟩

namespace Domain

variable {live : Members} {m : ObjectMeta}

/-- Setting the version sets it in the member `metadata`, which is put there if it was not. -/
lemma get?_metadata_withVersion (live : Members) (version : String) :
    Members.get? "metadata" ((obj live).withMetadata "resourceVersion" version).members =
      some (.obj (((Members.get? "metadata" live).getD (.obj [])).members.set "resourceVersion"
        (.str version))) :=
  Members.get?_set_self "metadata" _ live

/-- Setting the version leaves every member but `metadata` as it was. -/
lemma get?_withVersion_of_ne {name : String} (h : name ≠ "metadata") (live : Members)
    (version : String) :
    Members.get? name ((obj live).withMetadata "resourceVersion" version).members =
      Members.get? name live :=
  Members.get?_set_of_ne h _ live

/-- Setting the version makes no name occur twice. -/
lemma distinct_withVersion (h : live.Distinct) (version : String) :
    ((obj live).withMetadata "resourceVersion" version).members.Distinct := by
  have hmetadata : ((Members.get? "metadata" live).getD (.obj [])).Distinct := by
    cases hv : Members.get? "metadata" live with
    | none => exact distinct_obj.2 ⟨List.nodup_nil, nofun⟩
    | some v => exact h.get? hv
  exact h.set "metadata" (distinct_obj.2 (hmetadata.members.set _ (v := .str version) trivial))

/-- Metadata in which the version was set are read with that version, and otherwise as before. -/
lemma metadataField_withVersion (h : live.Distinct) (hm : metadataField.member live = .ok m)
    (version : String) :
    metadataField.member ((obj live).withMetadata "resourceVersion" version).members =
      .ok { m with resourceVersion := some version } := by
  cases hv : Members.get? "metadata" live with
  | none =>
    rw [RecordField.member, metadataField, hv] at hm
    cases hm
  | some v =>
    have hdecode : ObjectMeta.decode v = .ok m := (RecordField.member_of_get? hv).symm.trans hm
    obtain ⟨old, rfl⟩ := ObjectMeta.obj_of_decode hdecode
    have hold : (old.map Prod.fst).Nodup := (distinct_obj.1 (h.get? hv)).names
    refine (RecordField.member_of_get? (get?_metadata_withVersion live version)).trans ?_
    rw [hv]
    exact ObjectMeta.decode_setVersion hold hdecode version

/-- **The patch of a domain replaces the status of any object** whose members have distinct names.

**Proof sketch.** By `mergePatch_patchOf` the patch sets the version in the metadata, and then
merges the status of the domain or removes that of the object. A status that was merged into any
value is read back, `statusField_withStatus`, since each member that is read is written: the flags
are set, and the generation is set or removed. -/
theorem statusReplaced (d : Domain) (h : live.Distinct) (version : String) :
    ∃ ms, mergePatch (.obj live) (patchOf version d.encode) = .obj ms ∧
      StatusReplaced live ms version d.status := by
  have hversion := distinct_withVersion h version
  refine ⟨_, mergePatch_patchOf _ d version, hversion.withStatus d.status, ?_, ?_, ?_, ?_⟩
  · intro name hstatus hmetadata
    rw [Members.get?_withStatus_of_ne _ hstatus, get?_withVersion_of_ne hmetadata]
  · have hmetadata := (Members.get?_withStatus_of_ne d.status (by decide) _).trans
      (get?_metadata_withVersion live version)
    refine ⟨_, hmetadata, Members.get?_set_self "resourceVersion" _ _, ?_⟩
    intro old hold name hname
    rw [hold]
    exact Members.get?_set_of_ne hname _ old
  · exact statusField_withStatus d.status hversion
  · intro m spec hm hspec
    refine decode_withStatus d.status hversion (metadataField_withVersion h hm version) ?_
    exact (RecordField.member_congr (get?_withVersion_of_ne (by decide) live version)).trans hspec

end Domain

/-- **A status patch replaces the whole status and nothing else.** Without a version, a domain has
no `statusPatch`. With one, it has a patch that makes of any object on the server, whatever is in
it, an object of that version with the status of the domain, which is read back as it was written: a
status write that follows finds nothing to change. All other members of the object and of its
metadata stay as they were.

**Proof sketch.** With a version, `statusPatch` is `patchOf` that version, and
`Domain.statusReplaced` says what merging it does. The status that is read then is `d.status`, so
that `statusChanged` compares equal statuses. -/
theorem statusPatch_replaces (kind : String) (d : Domain) (live : Members)
    (hlive : (Json.obj live).Distinct) :
    (d.metadata.resourceVersion = none → statusPatch kind d = .error (.versionless kind)) ∧
    ∀ version, d.metadata.resourceVersion = some version →
      ∃ patch ms, statusPatch kind d = .ok patch ∧ mergePatch (.obj live) patch = .obj ms ∧
        StatusReplaced live ms version d.status ∧
        ∀ status, Domain.statusField.member ms = .ok status →
          statusChanged status d.status = false := by
  constructor
  · intro hnone
    rw [statusPatch, hnone]
  · intro version hversion
    obtain ⟨ms, hms, hreplaced⟩ := d.statusReplaced (distinct_obj.1 hlive) version
    have hpatch : statusPatch kind d = .ok (patchOf version d.encode) := by
      rw [statusPatch, hversion]
      rfl
    refine ⟨_, ms, hpatch, hms, hreplaced, fun status hstatus => ?_⟩
    cases hstatus.symm.trans hreplaced.status_read
    simp [statusChanged]

/-- The status of a domain without a generation is written over one with a generation, of which not
even the flags could be read. -/
theorem statusPatch_replaces_unreadable :
    let d : Domain := {
      metadata := { name := some "acme", ns := some "mail", resourceVersion := some "7" }
      spec := { baseDomain := "acme.example", dkim := ⟨"s1", "key"⟩ }
      status := some ⟨⟨true, false, true⟩, none⟩ }
    let old : Members := [("name", .str "acme"), ("managedFields", .arr [.null]),
      ("resourceVersion", .str "6")]
    let live : Members := [("metadata", .obj old), ("spec", d.spec.encode),
      ("status", .obj [("dns", .obj [("dkim", .str "no"), ("note", .obj [("spf", .null)])]),
        ("observedGeneration", ofInt 3), ("phase", .str "Ready")])]
    (Json.obj live).Distinct ∧ d.metadata.resourceVersion = some "7" ∧
      ∃ patch ms, statusPatch "Domain" d = .ok patch ∧ mergePatch (.obj live) patch = .obj ms ∧
        StatusReplaced live ms "7" (some ⟨⟨true, false, true⟩, none⟩) := by
  intro d old live
  have hlive : (Json.obj live).Distinct := by
    simp [live, old, d, Distinct, DistinctValues, DistinctElems, DomainSpec.encode,
      DkimConfig.encode, ofInt]
  obtain ⟨patch, ms, hpatch, hms, hreplaced, -⟩ :=
    (statusPatch_replaces "Domain" d live hlive).2 "7" rfl
  exact ⟨hlive, rfl, patch, ms, hpatch, hms, hreplaced⟩

end MailDomain
