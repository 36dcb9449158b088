import MailDomain.Cluster.StatusPatch
import MailDomain.Pass.StatsIngress
import MailDomain.Proofs.Object.Reading
import MailDomain.Proofs.Pass.Protocol

/-!
# What the operator writes

The operator writes the statuses of domains, as merge patches, and whole ingresses. A domain whose
status was patched has exactly the status that was written, whatever status it had, and an ingress
that was built is read back as it was.

## Main definitions

* `Json.Members.withStatus` — the members of an object after a status was merged in or removed.

## Main results

* `DomainStatus.decode_mergePatch` — a status that was merged into any value is read back.
* `Domain.mergePatch_patchOf` — what the patch of a status does to any value.
* `Shows.mergeStatus` — a domain whose status was patched is the domain with that status.
* `StatsIngress.shows_of_build` — an ingress that was built is read back.
-/

set_option relaxedAutoImplicit false
set_option autoImplicit false

namespace MailDomain

open Json

/-! ### Statuses -/

/-- The outcome of the checks is read back after it was merged into any value that is `Distinct`,
since it sets every flag. -/
theorem DnsStatus.decode_mergePatch {w : Json} (hw : w.Distinct) (s : DnsStatus) :
    DnsStatus.decode (mergePatch w s.encode : Json) = .ok s := by
  have hs : s.encode.Distinct := by simp [encode, Distinct, DistinctValues]
  have hms := distinct_obj.1 (hw.mergePatch s.encode hs)
  refine (decode_eq_ok_iff hms.names).2 ⟨?_, ?_, ?_⟩ <;>
  · simp [RecordField.member, dkimField, statsField, spfField, mergeMembers,
      Members.get?_set_of_ne]
    rfl

/-- The number that stands for an integer of 64 bits is read back by `word64`. -/
lemma Json.word64_ofInt (g : Int64) : word64 (ofInt g.toInt : Json) = .ok g := by
  have hrange : -9223372036854775808 ≤ g.toInt ∧ g.toInt ≤ 9223372036854775807 :=
    ⟨g.le_toInt, by have := g.toInt_lt; omega⟩
  change (if _ ∧ _ then _ else _ : Except Mismatch Int).map Int64.ofInt = _
  rw [if_pos hrange]
  exact congrArg Except.ok (Int64.ofInt_toInt g)

/-- A status is read back after it was merged into any value that is `Distinct`: the outcome of the
checks is merged, and the generation is set, or removed if there is none. -/
theorem DomainStatus.decode_mergePatch {w : Json} (hw : w.Distinct) (s : DomainStatus) :
    DomainStatus.decode (mergePatch w s.encode : Json) = .ok s := by
  obtain ⟨dns, generation⟩ := s
  let ms := w.members.set "dns" (mergePatch ((Members.get? "dns" w.members).getD .null) dns.encode)
  have hdns : dnsField.member ms = .ok dns := by
    exact (RecordField.member_of_get? (Members.get?_set_self ..)).trans
      (DnsStatus.decode_mergePatch (hw.members.getD_get? "dns") dns)
  cases generation with
  | none =>
    have hs : (encode ⟨dns, none⟩).Distinct := by
      simp [encode, DnsStatus.encode, Distinct, DistinctValues]
    have hms := distinct_obj.1 (hw.mergePatch _ hs)
    refine (decode_eq_ok_iff hms.names).2 ⟨?_, ?_⟩
    · exact (RecordField.member_congr (Members.get?_erase_of_ne (by decide) ms)).trans hdns
    · have hgone : Members.get? "observedGeneration" (ms.erase "observedGeneration") = none :=
        Members.get?_erase_self ..
      exact RecordField.member_of_absent hgone rfl
  | some g =>
    have hs : (encode ⟨dns, some g⟩).Distinct := by
      simp [encode, DnsStatus.encode, Distinct, DistinctValues, ofInt]
    have hms := distinct_obj.1 (hw.mergePatch _ hs)
    refine (decode_eq_ok_iff hms.names).2 ⟨?_, ?_⟩
    · exact (RecordField.member_congr (Members.get?_set_of_ne (by decide) _ ms)).trans hdns
    · refine (RecordField.member_of_get?
        (Members.get?_set_self "observedGeneration" (ofInt g.toInt) ms)).trans ?_
      change (word64 (ofInt g.toInt : Json)).map some = _
      rw [word64_ofInt]
      rfl

/-- What stands under `status` in an encoded domain with a status is that status, encoded. -/
lemma Domain.get?_status_encode {d : Domain} {s : DomainStatus} (h : d.status = some s) :
    d.encode.get? "status" = some s.encode := by
  rw [Domain.encode, h]
  rfl

/-- An encoded status is `Distinct`. -/
lemma DomainStatus.distinct_encode (s : DomainStatus) : s.encode.Distinct := by
  obtain ⟨dns, _ | g⟩ := s <;>
    simp [encode, DnsStatus.encode, Distinct, DistinctValues, ofInt]

namespace Json.Members

/-- The members of an object after the given status was merged into what stands under `status`, or
for `none` after that was removed. -/
def withStatus (ms : Members) : Option DomainStatus → Members
  | none => ms.erase "status"
  | some s => ms.set "status" (mergePatch ((get? "status" ms).getD .null) s.encode)

variable {ms : Members} (status : Option DomainStatus)

/-- The members other than `status` are as they were before `withStatus`. -/
lemma get?_withStatus_of_ne {name : String} (h : name ≠ "status") (ms : Members) :
    get? name (ms.withStatus status) = get? name ms := by
  cases status with
  | none => exact get?_erase_of_ne h ms
  | some s => exact get?_set_of_ne h _ ms

/-- Members that are `Distinct` are so after `withStatus`. -/
lemma Distinct.withStatus (h : ms.Distinct) : (ms.withStatus status).Distinct := by
  cases status with
  | none => exact h.erase "status"
  | some s => exact h.set "status" ((h.getD_get? "status").mergePatch _ s.distinct_encode)

end Json.Members

namespace Domain

variable {ms : Members} (status : Option DomainStatus)

/-- The status that was merged or removed by `withStatus` is read back, by
`DomainStatus.decode_mergePatch`. -/
lemma statusField_withStatus (h : ms.Distinct) :
    statusField.member (ms.withStatus status) = .ok status := by
  cases status with
  | none => exact RecordField.member_of_absent (Members.get?_erase_self "status" ms) rfl
  | some s =>
    refine (RecordField.member_of_get? (Members.get?_set_self "status" _ ms)).trans ?_
    have hread := DomainStatus.decode_mergePatch (h.getD_get? "status") s
    change (DomainStatus.decode (mergePatch _ s.encode : Json)).map some = _
    rw [hread]
    rfl

/-- After `withStatus`, the members are read as a domain with that status, if the metadata and the
specification among them can be read. -/
lemma decode_withStatus {m : ObjectMeta} {spec : DomainSpec} (h : ms.Distinct)
    (hm : metadataField.member ms = .ok m) (hspec : specField.member ms = .ok spec) :
    Domain.decode (.ofJson (.obj (ms.withStatus status))) = .ok ⟨m, spec, status⟩ := by
  refine (Domain.decode_eq_ok_iff (h.withStatus status).names).2
    ⟨?_, ?_, statusField_withStatus status h⟩
  · exact (RecordField.member_congr (Members.get?_withStatus_of_ne status (by decide) ms)).trans hm
  · exact (RecordField.member_congr
      (Members.get?_withStatus_of_ne status (by decide) ms)).trans hspec

/-- Merging the patch of a domain into any value sets the version in the metadata, and then does to
the members what `withStatus` does. -/
lemma mergePatch_patchOf (v : Json) (d : Domain) (version : String) :
    mergePatch v (patchOf version d.encode) =
      .obj ((v.withMetadata "resourceVersion" version).members.withStatus d.status) := by
  -- A value without metadata is patched as one with empty metadata.
  have hmetadata : mergePatch ((v.get? "metadata").getD .null)
      (.obj [("resourceVersion", .str version)]) =
        .obj (((v.get? "metadata").getD (.obj [])).members.set "resourceVersion"
          (.str version)) := by
    cases v.get? "metadata" <;> rfl
  have hpatched : ∀ w : Json, mergePatch v
      (.obj [("metadata", .obj [("resourceVersion", .str version)]), ("status", w)]) =
        .obj (mergeMembers (v.withMetadata "resourceVersion" version).members
          [("status", w)]) := by
    intro w
    rw [mergePatch_obj]
    change obj (mergeMembers (Members.set "metadata" (mergePatch ((v.get? "metadata").getD .null)
      (.obj [("resourceVersion", .str version)])) v.members) [("status", w)]) = _
    rw [hmetadata]
    rfl
  -- A domain without a status writes null, which removes the member.
  rw [patchOf, hpatched]
  cases hstatus : d.status with
  | none =>
    have habsent : d.encode.get? "status" = none := by
      rw [Domain.encode, hstatus]
      rfl
    rw [habsent]
    rfl
  | some s =>
    rw [get?_status_encode hstatus]
    rfl

end Domain

/-- A value that `Shows` a domain shows it with the given status after `withStatus`. -/
lemma Shows.withStatus {v : Json} {key : ObjectKey} {d : Domain} (h : Shows v key d)
    (status : Option DomainStatus) :
    Shows (.obj (v.members.withStatus status)) key { d with status := status } := by
  obtain ⟨ms, rfl⟩ := h.isObj
  have hms := distinct_obj.1 h.distinct
  obtain ⟨hmetadata, hspec, -⟩ := (Domain.decode_eq_ok_iff hms.names).1 h.decode_eq
  exact ⟨distinct_obj.2 (hms.withStatus status), ⟨_, rfl⟩,
    Domain.decode_withStatus status hms hmetadata hspec, h.key?_eq⟩

/-- A value that `Shows` a domain shows it, after the patch of a domain with the status `s` was
merged into it, with that status and in the version that the patch names. -/
theorem Shows.mergeStatus {v : Json} {key : ObjectKey} {d e : Domain} {s : DomainStatus}
    (h : Shows v key d) (he : e.status = some s) (version : String) :
    Shows (mergePatch v (patchOf version e.encode)) key { d with
      metadata := { d.metadata with resourceVersion := some version }
      status := some s } := by
  rw [Domain.mergePatch_patchOf, he]
  exact (h.setVersion version).withStatus (some s)

/-! ### Ingresses -/

/-- A text under a name greater than all others is put at the end by `setText`. -/
lemma Json.setText_eq_append {m : TextMap} {name value : String} (h : ∀ p ∈ m, p.1 < name) :
    setText name value m = m ++ [(name, value)] := by
  induction m with
  | nil => rfl
  | cons p m ih =>
    obtain ⟨hp, hm⟩ := List.forall_mem_cons.1 h
    rw [setText, if_neg (ne_of_lt hp), if_neg (lt_asymm hp), ih hm, List.cons_append]

/-- Texts under sorted names are read in their order, after those in `acc`. -/
lemma Json.textMembers_ofTextMap {m acc : TextMap} (h : (acc ++ m).Pairwise (·.1 < ·.1)) :
    textMembers acc (Draft.ofMembers (m.map fun p => (p.1, .str p.2))) = .ok (acc ++ m) := by
  induction m generalizing acc with
  | nil => simp [Draft.ofMembers, textMembers]
  | cons p m ih =>
    have hset : setText p.1 p.2 acc = acc ++ [p] := setText_eq_append fun q hq =>
      (List.pairwise_append.1 h).2.2 q hq p List.mem_cons_self
    have hrest : ((acc ++ [p]) ++ m).Pairwise (·.1 < ·.1) := by simpa using h
    rw [List.map_cons, Draft.ofMembers, textMembers]
    simpa [orFault, Except.mapError, Draft.ofJson, Json.text, bind, Except.bind, hset] using
      ih hrest

/-- A text map that is sorted by name is read back as it was written. -/
theorem Json.textMap_ofTextMap {m : TextMap} (h : m.Pairwise (·.1 < ·.1)) :
    textMap (ofTextMap m : Json) = .ok m := by
  exact (bind_eq_ok_iff ..).2 ⟨m, textMembers_ofTextMap h, rfl⟩

/-- An owner reference is read back as it was written. -/
lemma OwnerReference.decode_encode (r : OwnerReference) :
    OwnerReference.decode (r.encode : Json) = .ok r := by
  obtain ⟨apiVersion, kind, name, uid, _ | controller, _ | block⟩ := r <;> rfl

namespace StatsIngress

variable {key : ObjectKey} {d : Domain} {backend : StatsBackend} {i : Ingress}

/-- The path to the stats service of a backend is read back as it was written. -/
lemma decode_pathTo (backend : StatsBackend) :
    IngressPath.decode (pathTo backend).encode = .ok (pathTo backend) := by
  have hport : ServicePort.word32 (.num (.int backend.servicePort.toNat)) =
      .ok backend.servicePort.toNat := by
    have hlt := backend.servicePort.toNat_lt
    exact if_pos (by omega)
  simp [pathTo, IngressPath.decode, IngressPath.encode, IngressBackend.decode,
    IngressBackend.encode, IngressService.decode, IngressService.encode, ServicePort.encode,
    ServicePort.decode, ofFields, Draft.ofJson, Draft.ofMembers, presentMembers, expectedMembers,
    perhaps, Expectation.of, Json.optional, orFault, present?, lastOf, ofInt, hport, Json.text,
    bind, Except.bind, Except.map, Except.mapError, pure, Except.pure, Ending.read, List.lookup]

/-- The specification of the ingress for a domain is read back as it was written. -/
lemma decode_specOf (d : Domain) (backend : StatsBackend) :
    IngressSpec.decode (specOf d backend).encode = .ok (specOf d backend) := by
  have hpath := decode_pathTo backend
  cases hclass : backend.ingressClass <;>
    simp [specOf, hclass, IngressSpec.decode, IngressSpec.encode, IngressRule.decode,
      IngressRule.encode, IngressPaths.decode, IngressPaths.encode, Json.list, elements, hpath,
      ofFields, Draft.ofJson, Draft.ofElems, Draft.ofMembers, presentMembers, expectedMembers,
      perhaps, Expectation.of, Json.optional, orFault, present?, lastOf, Json.text, bind,
      Except.bind, Except.map, Except.mapError, pure, Except.pure, Ending.read, List.lookup]

/-- The labels of the ingress for a domain are sorted by name, and so are read back in their
order. -/
lemma sorted_labelsOf (domainName : String) : (labelsOf domainName).Pairwise (·.1 < ·.1) := by
  have hnames : ["app.kubernetes.io/component", "app.kubernetes.io/instance",
      "app.kubernetes.io/managed-by", "app.kubernetes.io/part-of"].Pairwise (· < ·) := by decide
  exact (List.pairwise_map (f := Prod.fst) (l := labelsOf domainName)).1 hnames

/-- The metadata of an ingress that `build` made: the name, the namespace, the labels and the one
owner. -/
def metadataOf (key : ObjectKey) (owner : OwnerReference) : ObjectMeta where
  name := some (nameOf key.name)
  ns := some key.ns
  labels := some (labelsOf key.name)
  ownerReferences := some [owner]

/-- The metadata of an ingress that `build` made are read back as they were written. -/
lemma decode_metadataOf (key : ObjectKey) (owner : OwnerReference) :
    ObjectMeta.decode (metadataOf key owner).encode = .ok (metadataOf key owner) := by
  have hnames : ((metadataOf key owner).encode.members.map Prod.fst).Nodup := by
    simp [metadataOf, ObjectMeta.encode, ofFields, Json.members]
  refine (ObjectMeta.decode_eq_ok_iff hnames).2 ⟨rfl, rfl, rfl, rfl, rfl, rfl, ?_, rfl, ?_⟩
  · exact member?_of_get? rfl (by rintro ⟨⟩) (textMap_ofTextMap (sorted_labelsOf key.name))
  · refine member?_of_get? rfl (by rintro ⟨⟩) ?_
    simp [Draft.ofJson, Draft.ofElems, Json.list, elements, owner.decode_encode, bind, Except.bind,
      pure, Except.pure, orFault, Except.mapError, Ending.read]

/-- An ingress that `build` made is `Distinct` when it is encoded. -/
lemma distinct_of_build (h : build key d backend = .ok i) : i.encode.Distinct := by
  unfold build at h
  split at h
  · cases h
  · next owner howner =>
    cases h
    obtain ⟨uid, -, rfl⟩ := Option.map_eq_some_iff.1 howner
    cases hclass : backend.ingressClass <;>
      simp [Ingress.encode, Distinct, DistinctValues, DistinctElems, ofFields, ObjectMeta.encode,
        labelsOf, ofTextMap, OwnerReference.encode, IngressSpec.encode, specOf, hclass, pathTo,
        IngressRule.encode, IngressPaths.encode, IngressPath.encode, IngressBackend.encode,
        IngressService.encode, ServicePort.encode, ofInt]

/-- **An ingress that was built is read back**: its encoded form `Shows` it under the key
`keyOf key`. -/
theorem shows_of_build (h : build key d backend = .ok i) : Shows i.encode (keyOf key) i := by
  refine ⟨distinct_of_build h, ⟨_, rfl⟩, ?_, key?_build h⟩
  unfold build at h
  split at h
  · cases h
  · next owner howner =>
    cases h
    refine (Ingress.decode_eq_ok_iff ?_).2 ⟨?_, ?_, ⟨some (metadataOf key owner), ?_, rfl⟩, ?_, rfl⟩
    · simp
    · rintro v ⟨⟩
      rfl
    · rintro v ⟨⟩
      rfl
    · exact member?_of_get? rfl nofun (decode_metadataOf key owner)
    · exact member?_of_get? rfl nofun (decode_specOf d backend)

end StatsIngress

end MailDomain
