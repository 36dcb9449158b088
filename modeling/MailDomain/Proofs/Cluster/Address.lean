import Mathlib
import MailDomain.Cluster.Route
import MailDomain.Cluster.Store
import MailDomain.Pass.StatsIngress
import MailDomain.Proofs.Text.Parts

/-!
# Addresses of objects

A store on the API server puts the namespace and the name of an object into the address of a
request as they are. What they lead to is the object only if every character of them stands for
itself there.

## Main definitions

* `Cluster.isPlain` — the characters that stand for themselves in a part of a path.
* `Cluster.Addressable` — a key with addresses that are valid.
* `Cluster.pathOf` — the path of some parts.

## Main results

* `Cluster.segments_pathOf` — the parts of a path are those that it was made of.
* `Cluster.read_address` — which addresses are valid.
* `Cluster.Addressable.ofPath?_object` and its like — the paths of an object lead to it.
-/

set_option relaxedAutoImplicit false
set_option autoImplicit false

namespace MailDomain.Cluster

/-! ### Parts of paths -/

/-- The characters of the path that the texts `parts` make, with a slash between each two of
them. -/
def pathOf (parts : List String) : List Char := ['/'].intercalate (parts.map String.toList)

/-- **The parts of a path are those that it was made of**: `segments` of the `pathOf` some parts
gives these back, if there is a part and none of them contains a slash. Cutting undoes joining by
`Text.pieces_intercalate`. -/
theorem segments_pathOf {path : String} {parts : List String} (h : path.toList = pathOf parts)
    (hslash : ∀ s ∈ parts, '/' ∉ s.toList) (hne : parts ≠ []) : segments path = parts := by
  have hpieces : Text.pieces (· == '/') (pathOf parts) = parts.map String.toList :=
    Text.pieces_intercalate (by simpa using hslash) (by simpa using hne)
  rw [segments, h, hpieces]
  simp

/-! ### Valid addresses -/

/-- Whether the character may stand in a path and neither begins a query nor a fragment there. -/
def isClean (c : Char) : Bool := Address.inPath c && c != '?' && c != '#'

/-- Whether the character stands for itself in one part of a path. A `/` would end the part, and a
server decodes what follows a `%`, so that these two are left out as well. -/
def isPlain (c : Char) : Bool := isClean c && c != '/' && c != '%'

/-- The characters that a query adds to a path: a question mark and the text of the query, or
nothing if there is no query. -/
def queryText : Option String → List Char
  | none => []
  | some q => '?' :: q.toList

/-- **Which addresses are valid.** A text that consists of a path `p` and a query `q`, if any, is
read as just these two by `Address.read`, provided that it has at most `Address.maxLength` octets,
each character of `p` is `isClean`, and each of `q` may stand in a query and begins no fragment. -/
theorem read_address {s p : String} {q : Option String} (hs : s.toList = p.toList ++ queryText q)
    (hp : p.toList.all isClean)
    (hq : (queryText q).tail.all fun c => Address.inQuery c && c != '#')
    (hsize : s.utf8ByteSize ≤ Address.maxLength) : Address.read s = .ok ⟨p, q⟩ := by
  have hclean : ∀ c ∈ p.toList, Address.inPath c ∧ c ≠ '?' ∧ c ≠ '#' := by
    simpa [isClean, List.all_eq_true, and_assoc] using hp
  have hquery : ∀ c ∈ (queryText q).tail, Address.inQuery c ∧ c ≠ '#' := by
    simpa [List.all_eq_true] using hq
  have hfragment : Address.beforeFragment s = p.toList ++ queryText q := by
    rw [Address.beforeFragment, hs, List.takeWhile_eq_self_iff]
    intro c hc
    rcases List.mem_append.1 hc with hc | hc
    · simpa using (hclean c hc).2.2
    · cases q with
      | none => cases hc
      | some q =>
        rcases List.mem_cons.1 hc with rfl | hc
        · decide
        · simpa using (hquery c hc).2
  have hpath : ∀ c ∈ p.toList, (c != '?') = true := fun c hc => by simpa using (hclean c hc).2.1
  -- the first question mark is the one before the query, since the path has none
  have hpathChars : Address.pathChars s = p.toList := by
    rw [Address.pathChars, hfragment, List.takeWhile_append_of_pos hpath]
    cases q <;> simp [queryText]
  have hqueryChars : Address.queryChars s = queryText q := by
    rw [Address.queryChars, hfragment, List.dropWhile_append_of_pos hpath]
    cases q <;> simp [queryText]
  have hallPath : p.toList.all Address.inPath = true :=
    List.all_eq_true.2 fun c hc => (hclean c hc).1
  have hallQuery : (queryText q).tail.all Address.inQuery = true :=
    List.all_eq_true.2 fun c hc => (hquery c hc).1
  rw [Address.read, if_neg (by omega), hpathChars, hqueryChars, hallPath, hallQuery]
  cases q <;> simp [queryText]

/-! ### Where paths lead -/

variable {key : ObjectKey} {kind : Kind} {s : String}

/-- The parts of the path under which a server keeps all objects of one kind in the namespace `ns`.
The first part is empty, for the path begins with a slash. -/
def collectionParts : Kind → String → List String
  | .domain, ns => ["", "apis", "mail.firestoned.io", "v1alpha1", "namespaces", ns, "domains"]
  | .ingress, ns => ["", "apis", "networking.k8s.io", "v1", "namespaces", ns, "ingresses"]

/-- If the `segments` of a path are the `collectionParts` of a kind and some more, then the path
leads to what `Route.placeOf?` makes of the rest. -/
lemma ofPath?_of_segments {path ns : String} {rest : List String}
    (h : segments path = collectionParts kind ns ++ rest) :
    Route.ofPath? path = (Route.placeOf? rest).map fun place => ⟨kind, ns, place⟩ := by
  rw [Route.ofPath?, h]
  cases kind with
  | domain =>
    have hkind : Route.kindOf? ("mail.firestoned.io" ++ "/" ++ "v1alpha1") "domains" =
        some .domain := by decide
    simp only [collectionParts, List.cons_append, List.nil_append, hkind]
    cases Route.placeOf? rest <;> rfl
  | ingress =>
    have hkind : Route.kindOf? ("networking.k8s.io" ++ "/" ++ "v1") "ingresses" =
        some .ingress := by decide
    simp only [collectionParts, List.cons_append, List.nil_append, hkind]
    cases Route.placeOf? rest <;> rfl

/-- The `collectionPath` of a kind in a namespace, as the `pathOf` its parts. -/
lemma toList_collectionPath (kind : Kind) (ns : String) :
    (collectionPath kind (some ns)).toList = pathOf (collectionParts kind ns) := by
  cases kind <;>
    simp [collectionPath, groupPath, Kind.apiVersion, Kind.collection, pathOf, collectionParts,
      List.intercalate]

/-- The path of one object, as the `pathOf` its parts: those of its collection, and its name. -/
lemma toList_objectPath (kind : Kind) (key : ObjectKey) :
    (ClusterStore.objectPath kind key).toList =
      pathOf (collectionParts kind key.ns ++ [key.name]) := by
  cases kind <;>
    simp [ClusterStore.objectPath, collectionPath, groupPath, Kind.apiVersion, Kind.collection,
      pathOf, collectionParts, List.intercalate]

/-- The path of the status of one object, as the `pathOf` its parts: those of the object, and
`status`. -/
lemma toList_statusPath (kind : Kind) (key : ObjectKey) :
    (ClusterStore.objectPath kind key ++ "/status").toList =
      pathOf (collectionParts kind key.ns ++ [key.name, "status"]) := by
  cases kind <;>
    simp [ClusterStore.objectPath, collectionPath, groupPath, Kind.apiVersion, Kind.collection,
      pathOf, collectionParts, List.intercalate]

/-! ### Keys that stand for themselves -/

/-- A key whose name is not empty and all of whose characters are `isPlain`, so that the paths of
the object mean the object. -/
structure PlainKey (key : ObjectKey) : Prop where
  name_ne : key.name ≠ ""
  ns_plain : key.ns.toList.all isPlain
  name_plain : key.name.toList.all isPlain

/-- A text whose characters are `isPlain` has characters that are `isClean`. -/
lemma isClean_of_isPlain (h : s.toList.all isPlain) : s.toList.all isClean := by
  simp only [List.all_eq_true] at h ⊢
  intro c hc
  have hplain := h c hc
  simp only [isPlain, Bool.and_eq_true] at hplain
  exact hplain.1.1

/-- A text whose characters are `isPlain` contains no slash. -/
lemma slash_notMem_of_isPlain (h : s.toList.all isPlain) : '/' ∉ s.toList := by
  intro hslash
  have hplain := List.all_eq_true.1 h '/' hslash
  simp [isPlain] at hplain

/-- None of the `collectionParts` contains a slash, if the characters of the namespace are
`isPlain`. -/
lemma slash_notMem_collectionParts (hns : key.ns.toList.all isPlain) :
    ∀ s ∈ collectionParts kind key.ns, '/' ∉ s.toList := by
  have hslash := slash_notMem_of_isPlain hns
  cases kind <;> simp [collectionParts, hslash]

namespace PlainKey

variable (h : PlainKey key)
include h

/-- A `PlainKey` has a name and so is not refused by `ClusterStore.named`. -/
lemma named_eq : ClusterStore.named key = .ok () := by
  have hname : key.name.isEmpty = false := by simpa using h.name_ne
  rw [ClusterStore.named, hname]
  rfl

/-- The `collectionPath` for the namespace of a `PlainKey` has only characters that are
`isClean`. -/
lemma isClean_collectionPath : (collectionPath kind (some key.ns)).toList.all isClean := by
  have hns := isClean_of_isPlain h.ns_plain
  cases kind <;>
    simp [collectionPath, groupPath, Kind.apiVersion, Kind.collection, hns] <;> decide

/-- The path of the object under a `PlainKey` has only characters that are `isClean`. -/
lemma isClean_objectPath : (ClusterStore.objectPath kind key).toList.all isClean := by
  have hname := isClean_of_isPlain h.name_plain
  have hslash : isClean '/' = true := by decide
  simp [ClusterStore.objectPath, h.isClean_collectionPath, hname, hslash]

/-- The path of the status of the object under a `PlainKey` has only characters that are
`isClean`. -/
lemma isClean_statusPath : (ClusterStore.objectPath kind key ++ "/status").toList.all isClean := by
  rw [String.toList_append, List.all_append, h.isClean_objectPath]
  decide

/-- The `collectionPath` leads to all objects of its kind in the namespace. -/
theorem ofPath?_collection :
    Route.ofPath? (collectionPath kind (some key.ns)) = some ⟨kind, key.ns, .all⟩ := by
  have hsegments := segments_pathOf (toList_collectionPath kind key.ns)
    (slash_notMem_collectionParts h.ns_plain) (by cases kind <;> nofun)
  rw [← List.append_nil (collectionParts kind key.ns)] at hsegments
  exact ofPath?_of_segments hsegments

/-- The path of the object under a `PlainKey` leads to that object, and to nothing else. -/
theorem ofPath?_object :
    Route.ofPath? (ClusterStore.objectPath kind key) = some ⟨kind, key.ns, .object key.name⟩ := by
  have hname := slash_notMem_of_isPlain h.name_plain
  have hparts : ∀ s ∈ collectionParts kind key.ns ++ [key.name], '/' ∉ s.toList :=
    List.forall_mem_append.2 ⟨slash_notMem_collectionParts h.ns_plain, by simpa using hname⟩
  exact ofPath?_of_segments (segments_pathOf (toList_objectPath kind key) hparts (by simp))

/-- The path of the status of the object under a `PlainKey` leads to the status of that object. -/
theorem ofPath?_status :
    Route.ofPath? (ClusterStore.objectPath kind key ++ "/status") =
      some ⟨kind, key.ns, .status key.name⟩ := by
  have hname := slash_notMem_of_isPlain h.name_plain
  have hparts : ∀ s ∈ collectionParts kind key.ns ++ [key.name, "status"], '/' ∉ s.toList :=
    List.forall_mem_append.2 ⟨slash_notMem_collectionParts h.ns_plain, by simpa using hname⟩
  exact ofPath?_of_segments (segments_pathOf (toList_statusPath kind key) hparts (by simp))

end PlainKey

/-! ### Keys whose addresses fit -/

/-- A `PlainKey` so short that every address of a pass for the domain under it has at most
`Address.maxLength` octets. The longest is the one for the status or, for short names, the one for
the creation of the ingress. -/
structure Addressable (key : ObjectKey) : Prop extends PlainKey key where
  short : key.ns.utf8ByteSize + max key.name.utf8ByteSize 20 + 62 ≤ Address.maxLength

/-- If a domain has a `PlainKey`, so has its stats ingress: the characters of the suffix that
`StatsIngress.nameOf` appends are `isPlain`. -/
lemma PlainKey.keyOf (h : PlainKey key) : PlainKey (StatsIngress.keyOf key) where
  name_ne := by simp [StatsIngress.keyOf, StatsIngress.nameOf]
  ns_plain := h.ns_plain
  name_plain := by
    simp only [StatsIngress.keyOf, StatsIngress.nameOf, String.toList_append, List.all_append,
      h.name_plain, Bool.true_and]
    decide

/-- The octets of the `collectionPath`: those of the namespace, and a number for each kind. -/
lemma utf8ByteSize_collectionPath (kind : Kind) (ns : String) :
    (collectionPath kind (some ns)).utf8ByteSize =
      ns.utf8ByteSize + match kind with | .domain => 53 | .ingress => 48 := by
  cases kind with
  | domain =>
    have hstart : ("/apis/" ++ Kind.domain.apiVersion ++ "/namespaces/").utf8ByteSize = 45 := by rfl
    have hend : ("/" ++ Kind.domain.collection).utf8ByteSize = 8 := by rfl
    simp only [collectionPath, groupPath, String.utf8ByteSize_append] at *
    omega
  | ingress =>
    have hstart : ("/apis/" ++ Kind.ingress.apiVersion ++ "/namespaces/").utf8ByteSize = 38 := by
      rfl
    have hend : ("/" ++ Kind.ingress.collection).utf8ByteSize = 10 := by rfl
    simp only [collectionPath, groupPath, String.utf8ByteSize_append] at *
    omega

/-- The octets of the path of an object: those of the namespace and of the name, and a number for
each kind. -/
lemma utf8ByteSize_objectPath (kind : Kind) (key : ObjectKey) :
    (ClusterStore.objectPath kind key).utf8ByteSize =
      key.ns.utf8ByteSize + key.name.utf8ByteSize +
        match kind with | .domain => 54 | .ingress => 49 := by
  have hslash : "/".utf8ByteSize = 1 := by rfl
  rw [ClusterStore.objectPath, String.utf8ByteSize_append, String.utf8ByteSize_append,
    utf8ByteSize_collectionPath, hslash]
  cases kind <;> dsimp only <;> omega

/-- The name of the stats ingress has six octets more than that of its domain. -/
lemma utf8ByteSize_nameOf (name : String) :
    (StatsIngress.nameOf name).utf8ByteSize = name.utf8ByteSize + 6 := by
  have hend : "-stats".utf8ByteSize = 6 := by rfl
  rw [StatsIngress.nameOf, String.utf8ByteSize_append, hend]

namespace Addressable

variable (h : Addressable key)
include h

/-- Under an `Addressable` key, the address for reading the domain is short enough. -/
lemma domain_fits : (ClusterStore.objectPath .domain key).utf8ByteSize ≤ Address.maxLength := by
  have hshort := h.short
  rw [utf8ByteSize_objectPath]
  dsimp only
  omega

/-- Under an `Addressable` key, the address for writing the status of the domain is short enough. -/
lemma status_fits :
    (ClusterStore.objectPath .domain key ++ "/status?").utf8ByteSize ≤ Address.maxLength := by
  have hshort := h.short
  have hend : "/status?".utf8ByteSize = 8 := by rfl
  rw [String.utf8ByteSize_append, utf8ByteSize_objectPath, hend]
  dsimp only
  omega

/-- Under an `Addressable` key, the address for reading the stats ingress is short enough. -/
lemma ingress_fits :
    (ClusterStore.objectPath .ingress (StatsIngress.keyOf key)).utf8ByteSize ≤
      Address.maxLength := by
  have hshort := h.short
  rw [utf8ByteSize_objectPath, StatsIngress.keyOf, utf8ByteSize_nameOf]
  dsimp only
  omega

/-- Under an `Addressable` key, the address for deleting the stats ingress is short enough. -/
lemma deletion_fits :
    (ClusterStore.objectPath .ingress (StatsIngress.keyOf key) ++ "?").utf8ByteSize ≤
      Address.maxLength := by
  have hshort := h.short
  have hend : "?".utf8ByteSize = 1 := by rfl
  rw [String.utf8ByteSize_append, utf8ByteSize_objectPath, StatsIngress.keyOf,
    utf8ByteSize_nameOf, hend]
  dsimp only
  omega

/-- Under an `Addressable` key, the address for creating the stats ingress is short enough. It names
the collection and the field manager instead of the ingress. -/
lemma creation_fits :
    (collectionPath .ingress (some (StatsIngress.keyOf key).ns) ++ "?&fieldManager=" ++
      ClusterStore.fieldManager).utf8ByteSize ≤ Address.maxLength := by
  have hshort := h.short
  have hquery : "?&fieldManager=".utf8ByteSize = 15 := by rfl
  have hmanager : ClusterStore.fieldManager.utf8ByteSize = 19 := by rfl
  rw [String.utf8ByteSize_append, String.utf8ByteSize_append, utf8ByteSize_collectionPath, hquery,
    hmanager, StatsIngress.keyOf]
  dsimp only
  omega

end Addressable

end MailDomain.Cluster
