import Mathlib.Data.Finset.Sort
import Heir.Controller.Runtime.Rollout
import Heir.Lib.Unseparated
import Heir.Runtime.PodMetadata

set_option autoImplicit false

/-! # What the hash of a Secret shows

`HashSecretData` writes the keys of a Secret and their values to the digest, in the order of the
keys and with nothing in between. The hash is an annotation of the cluster agent's pods, so it
decides about their rollouts.

Two maps with different entries can give one text: `a` with the value `b`, and `ab` with an empty
value (`shifted_key_hashed_alike`). For a digest without collisions, the data with given keys are
told apart exactly when the keys are separated in the sense of `Unseparated`, and the rollouts
follow if the user's annotations leave the hash alone (`secret_hash_exact_iff`). Two versions of
one Secret need to have at most one key (`separated_self_iff`).
-/

namespace Heir.Controller.Runtime

open Heir.ControlPlane Heir.Core Heir.Runtime Unseparated

/-- What `HashSecretData` writes to the digest. -/
def secretStream (o : GoMap.RangeOrder Bytes) (data : GoMap Bytes) : Bytes :=
  (GoMap.sortedKeys o data).flatMap fun k => bytes k ++ data.getD k []

theorem hashSecretData_eq_sha256 (libs : Libs) (o : GoMap.RangeOrder Bytes) (data : GoMap Bytes) :
    hashSecretData libs o data = libs.sha256 (secretStream o data) := rfl

/-- The keys of the map. -/
def HasKeys (data : GoMap Bytes) (keys : Finset String) : Prop := ∀ k, k ∈ data ↔ k ∈ keys

/-- A Secret with these data. -/
def secretWith (data : GoMap Bytes) : Secret :=
  { metadata := { name := "tenant-cluster-agent-runtime", ns := "default" }, data := data }

/-- The text given to the digest and the pod template of the cluster agent are the same for two
Secrets exactly when their data are, whatever order the maps are ranged over. A Deployment rolls its
pods out again exactly when their template changes. -/
structure ToldApart (libs : Libs) (r : Runtime) (secret secret' : Secret) : Prop where
  stream : ∀ o o', secretStream o secret.data = secretStream o' secret'.data ↔
    secret.data = secret'.data
  rollout : ∀ ranges ranges',
    agentTemplate libs ranges r secret = agentTemplate libs ranges' r secret' ↔
      secret.data = secret'.data

/-! ## Maps and their keys -/

section Keys

variable {data data' : GoMap Bytes} {keys keys' : Finset String}

theorem sortedKeys_eq_sort (h : HasKeys data keys) (o : GoMap.RangeOrder Bytes) :
    GoMap.sortedKeys o data = keys.sort := by
  have hnodup : (GoMap.sortedKeys o data).Nodup :=
    (GoMap.sortStrings_perm _).nodup_iff.mpr (o.nodup_keys data)
  have hsorted : (GoMap.sortedKeys o data).SortedLT :=
    List.SortedLE.sortedLT_of_nodup (GoMap.sortedLE_sortStrings _) hnodup
  refine hsorted.eq_of_mem_iff keys.sortedLT_sort fun k => ?_
  rw [GoMap.mem_sortedKeys, Finset.mem_sort, ← h k, Std.ExtTreeMap.mem_iff_isSome_getElem?,
    Option.isSome_iff_exists]

theorem secretStream_eq_text (h : HasKeys data keys) (o : GoMap.RangeOrder Bytes) :
    secretStream o data = text bytes keys.sort fun k => data.getD k [] := by
  rw [secretStream, sortedKeys_eq_sort h o, text]

theorem secretStream_congr (o o' : GoMap.RangeOrder Bytes) (data : GoMap Bytes) :
    secretStream o data = secretStream o' data := by
  rw [secretStream, GoMap.sortedKeys_eq o o', secretStream]

theorem HasKeys.unique (h : HasKeys data keys) (h' : HasKeys data keys') : keys = keys' := by
  ext k
  rw [← h k, h' k]

theorem HasKeys.data_eq (h : HasKeys data keys) (h' : HasKeys data' keys)
    (hvalues : ∀ k ∈ keys, data.getD k [] = data'.getD k []) : data = data' := by
  apply Std.ExtTreeMap.ext_getElem?
  intro k
  by_cases hk : k ∈ keys
  · have hget := hvalues k hk
    rw [Std.ExtTreeMap.getD_eq_getD_getElem?, Std.ExtTreeMap.getD_eq_getD_getElem?] at hget
    obtain ⟨v, hv⟩ := Option.isSome_iff_exists.mp
      (Std.ExtTreeMap.mem_iff_isSome_getElem?.mp ((h k).mpr hk))
    obtain ⟨v', hv'⟩ := Option.isSome_iff_exists.mp
      (Std.ExtTreeMap.mem_iff_isSome_getElem?.mp ((h' k).mpr hk))
    rw [hv, hv', Option.getD_some, Option.getD_some] at hget
    rw [hv, hv', hget]
  · rw [Std.ExtTreeMap.getElem?_eq_none (mt (h k).mp hk),
      Std.ExtTreeMap.getElem?_eq_none (mt (h' k).mp hk)]

theorem hasKeys_singleton (k : String) (v : Bytes) :
    HasKeys ((∅ : GoMap Bytes).insert k v) {k} := by
  intro k'
  rw [Std.ExtTreeMap.mem_iff_isSome_getElem?, GoMap.getElem?_insert, Finset.mem_singleton]
  by_cases hk : k = k'
  · simp [hk]
  · simp [hk, Ne.symm hk]

/-- The map with these keys and values. -/
def dataOf (keys : Finset String) (value : String → Bytes) : GoMap Bytes :=
  GoMap.setAll ∅ (keys.sort.map fun k => (k, value k))

theorem getElem?_dataOf (keys : Finset String) (value : String → Bytes) (k : String) :
    (dataOf keys value)[k]? = if k ∈ keys then some (value k) else none := by
  have hfst : (keys.sort.map fun k => (k, value k)).map Prod.fst = keys.sort := by
    simp [Function.comp_def]
  by_cases hk : k ∈ keys
  · rw [if_pos hk, dataOf]
    refine GoMap.getElem?_setAll_of_mem _ _ ?_ ?_
    · rw [hfst]
      exact keys.sort_nodup _
    · exact List.mem_map.mpr ⟨k, (keys.mem_sort _).mpr hk, rfl⟩
  · rw [if_neg hk, dataOf, GoMap.getElem?_setAll_of_not_mem]
    · exact Std.ExtTreeMap.getElem?_empty
    · rw [hfst, Finset.mem_sort]
      exact hk

theorem hasKeys_dataOf (keys : Finset String) (value : String → Bytes) :
    HasKeys (dataOf keys value) keys := by
  intro k
  rw [Std.ExtTreeMap.mem_iff_isSome_getElem?, getElem?_dataOf]
  split <;> simp_all

theorem getD_dataOf (value : String → Bytes) {k : String} (hk : k ∈ keys) :
    (dataOf keys value).getD k [] = value k := by
  rw [Std.ExtTreeMap.getD_eq_getD_getElem?, getElem?_dataOf, if_pos hk, Option.getD_some]

theorem secretStream_dataOf (keys : Finset String) (value : String → Bytes)
    (o : GoMap.RangeOrder Bytes) : secretStream o (dataOf keys value) = text bytes keys.sort value := by
  rw [secretStream_eq_text (hasKeys_dataOf keys value)]
  exact text_congr fun k hk => getD_dataOf value ((keys.mem_sort _).mp hk)

end Keys

/-! ## The text given to the digest -/

section Stream

variable {data data' : GoMap Bytes} {keys keys' : Finset String}

/-- The empty key is the first one. -/
theorem bytes_ne_nil_of_mem_tail {k : String} (h : k ∈ keys.sort.tail) : bytes k ≠ [] := by
  intro hnil
  have hempty : k = "" := bytes_injective (hnil.trans (by decide))
  have hsorted := keys.sortedLT_sort
  cases hkeys : keys.sort with
  | nil =>
      rw [hkeys] at h
      cases h
  | cons first rest =>
      rw [hkeys] at h hsorted
      have hlt : first < k := List.rel_of_pairwise_cons hsorted.pairwise h
      rw [hempty, String.lt_iff_toList_lt] at hlt
      exact absurd hlt (List.not_lt_nil _)

theorem tells_sort_iff (keys keys' : Finset String) :
    Tells bytes keys.sort keys'.sort ↔ Separated bytes keys.sort keys'.sort :=
  tells_iff (keys.sort_nodup _) (keys'.sort_nodup _) (fun _ => bytes_ne_nil_of_mem_tail)
    (fun _ => bytes_ne_nil_of_mem_tail)

theorem data_eq_of_stream (hsep : Separated bytes keys.sort keys'.sort) (h : HasKeys data keys)
    (h' : HasKeys data' keys') {o o' : GoMap.RangeOrder Bytes}
    (hstream : secretStream o data = secretStream o' data') : data = data' := by
  rw [secretStream_eq_text h, secretStream_eq_text h'] at hstream
  obtain ⟨hsort, hvalues⟩ := (tells_sort_iff keys keys').mpr hsep _ _ hstream
  have hkeys : keys = keys' := by
    rw [← keys.sort_toFinset (· ≤ ·), hsort, keys'.sort_toFinset (· ≤ ·)]
  subst hkeys
  exact h.data_eq h' fun k hk => hvalues k ((keys.mem_sort _).mpr hk)

/-- If all data with these keys are told apart, the keys are separated. -/
theorem separated_of_data_eq
    (h : ∀ data data', HasKeys data keys → HasKeys data' keys' →
      secretStream .byKey data = secretStream .byKey data' → data = data') :
    Separated bytes keys.sort keys'.sort := by
  refine (tells_sort_iff keys keys').mp ?_
  intro value value' htext
  rw [← secretStream_dataOf keys value .byKey, ← secretStream_dataOf keys' value' .byKey] at htext
  have hdata := h _ _ (hasKeys_dataOf keys value) (hasKeys_dataOf keys' value') htext
  have hkeys : keys = keys' :=
    (hasKeys_dataOf keys value).unique (hdata ▸ hasKeys_dataOf keys' value')
  subst hkeys
  refine ⟨rfl, fun k hk => ?_⟩
  have hk := (keys.mem_sort _).mp hk
  rw [← getD_dataOf value hk, hdata, getD_dataOf value' hk]

theorem separated_self_iff : Separated bytes keys.sort keys.sort ↔ keys.card ≤ 1 := by
  rw [← keys.length_sort (· ≤ ·)]
  constructor
  · intro h
    generalize keys.sort = l at h
    cases h with
    | nil => simp
    | single k => simp
    | nilLeft h => simp
    | nilRight h => simp
    | heads h h' => exact absurd List.prefix_rfl h
  · intro h
    cases hl : keys.sort with
    | nil => exact .nil
    | cons k rest =>
        rw [hl, List.length_cons] at h
        have hrest : rest = [] := List.length_eq_zero_iff.mp (by omega)
        rw [hrest]
        exact .single k

theorem separated_singleton (k : String) :
    Separated bytes (Finset.sort {k}) (Finset.sort {k}) :=
  separated_self_iff.mpr (Finset.card_singleton k).le

end Stream

/-! ## The pods of the cluster agent -/

section Template

variable {libs : Libs} {r : Runtime} {secret secret' : Secret}
  {keys keys' : Finset String}

/-- The user's annotations leave the hash of the Secret alone. -/
def LeavesHash (r : Runtime) : Prop :=
  r.spec.controlPlane.deployment.additionalMetadata.annotations[ clusterAgentRuntimeHashAnnotation]? =
    none

theorem getElem?_agentTemplate (libs : Libs) (ranges : Ranges) (r : Runtime)
    (secret : Secret) (k : String) :
    (agentTemplate libs ranges r secret).annotations[k]? =
      (r.spec.controlPlane.deployment.additionalMetadata.annotations[k]?).or
        (if clusterAgentRuntimeHashAnnotation = k then
          some (hashSecretData libs ranges.bytes secret.data) else none) := by
  simp only [agentTemplate, generateClusterAgentDeployment, deploymentOf, getElem?_mergeMaps, mapOf,
    GoMap.setAll_cons, GoMap.setAll_nil, GoMap.getElem?_insert, Std.ExtTreeMap.getElem?_empty]

theorem agentTemplate_eq_of_annotations {ranges ranges' : Ranges}
    (h : (agentTemplate libs ranges r secret).annotations =
      (agentTemplate libs ranges' r secret').annotations) :
    agentTemplate libs ranges r secret = agentTemplate libs ranges' r secret' := by
  have hlabels : (agentTemplate libs ranges r secret).labels =
      (agentTemplate libs ranges' r secret').labels := mergeArgs_congr _ _ _ _ _ _
  have hspec : (agentTemplate libs ranges r secret).spec =
      (agentTemplate libs ranges' r secret').spec := rfl
  calc agentTemplate libs ranges r secret
      = ⟨(agentTemplate libs ranges r secret).labels, (agentTemplate libs ranges r secret).annotations,
          (agentTemplate libs ranges r secret).spec⟩ := rfl
    _ = ⟨(agentTemplate libs ranges' r secret').labels,
          (agentTemplate libs ranges' r secret').annotations,
          (agentTemplate libs ranges' r secret').spec⟩ := by rw [hlabels, h, hspec]
    _ = agentTemplate libs ranges' r secret' := rfl

/-- The pods are rolled out again exactly for another hash, which the user's annotations hide. -/
theorem agentTemplate_eq_iff (ranges ranges' : Ranges) :
    agentTemplate libs ranges r secret = agentTemplate libs ranges' r secret' ↔
      (LeavesHash r → hashSecretData libs ranges.bytes secret.data =
        hashSecretData libs ranges'.bytes secret'.data) := by
  constructor
  · intro h hfree
    have hentry := congrArg (fun t => t.annotations[ clusterAgentRuntimeHashAnnotation]?) h
    rw [getElem?_agentTemplate, getElem?_agentTemplate, hfree, if_pos rfl, if_pos rfl,
      Option.none_or, Option.none_or, Option.some.injEq] at hentry
    exact hentry
  · intro h
    refine agentTemplate_eq_of_annotations (Std.ExtTreeMap.ext_getElem? fun k => ?_)
    rw [getElem?_agentTemplate, getElem?_agentTemplate]
    by_cases hk : clusterAgentRuntimeHashAnnotation = k
    · subst hk
      rw [if_pos rfl, if_pos rfl]
      cases hextra : r.spec.controlPlane.deployment.additionalMetadata.annotations[
          clusterAgentRuntimeHashAnnotation]? with
      | none => rw [h hextra]
      | some v => rfl
    · rw [if_neg hk, if_neg hk]

/-- With separated keys and an annotation of its own, every change shows. -/
theorem toldApart_of_separated (hsha : Function.Injective libs.sha256)
    (hsep : Separated bytes keys.sort keys'.sort) (hfree : LeavesHash r)
    (h : HasKeys secret.data keys) (h' : HasKeys secret'.data keys') :
    ToldApart libs r secret secret' where
  stream o o' := by
    constructor
    · exact data_eq_of_stream hsep h h'
    · intro heq
      rw [heq, secretStream_congr o o']
  rollout ranges ranges' := by
    rw [agentTemplate_eq_iff]
    constructor
    · intro hsame
      have hhash := hsame hfree
      rw [hashSecretData_eq_sha256, hashSecretData_eq_sha256] at hhash
      exact data_eq_of_stream hsep h h' (hsha hhash)
    · intro heq _
      rw [heq, hashSecretData_congr libs ranges'.bytes ranges.bytes]

theorem toldApart_of_data_eq (h : secret.data = secret'.data) : ToldApart libs r secret secret' where
  stream o o' := by
    rw [h, secretStream_congr o o']
    exact iff_of_true rfl rfl
  rollout ranges ranges' := by
    rw [agentTemplate_eq_iff, h]
    exact iff_of_true (fun _ => hashSecretData_congr libs _ _ _) rfl

theorem dataOf_ne (h : ¬(keys = ∅ ∧ keys' = ∅)) :
    dataOf keys (fun _ => [0]) ≠ dataOf keys' (fun _ => []) := by
  intro heq
  have hkeys : keys = keys' :=
    (hasKeys_dataOf keys _).unique (heq ▸ hasKeys_dataOf keys' _)
  subst hkeys
  have hne : keys ≠ ∅ := fun hempty => h ⟨hempty, hempty⟩
  obtain ⟨k, hk⟩ := Finset.nonempty_iff_ne_empty.mpr hne
  have hvalue := congrArg (fun data : GoMap Bytes => data.getD k []) heq
  rw [getD_dataOf _ hk, getD_dataOf _ hk] at hvalue
  cases hvalue

/-- An annotation of the user that hides the hash hides a change of the data, if there are any. -/
theorem leavesHash_of_toldApart
    (h : ∀ secret secret' : Secret, HasKeys secret.data keys → HasKeys secret'.data keys' →
      ToldApart libs r secret secret')
    (hne : ¬(keys = ∅ ∧ keys' = ∅)) : LeavesHash r := by
  by_contra hhidden
  have htold := h (secretWith (dataOf keys fun _ => [0])) (secretWith (dataOf keys' fun _ => []))
    (hasKeys_dataOf keys _) (hasKeys_dataOf keys' _)
  have hrollout := htold.rollout ⟨fun _ => .byKey, .byKey⟩ ⟨fun _ => .byKey, .byKey⟩
  refine dataOf_ne hne (hrollout.mp ?_)
  exact (agentTemplate_eq_iff _ _).mpr fun hfree => absurd hfree hhidden

/-- **What the hash shows.** For a digest without collisions and two sets of keys: all Secrets with
these keys are told apart by the text given to the digest and by the pods of the cluster agent if
and only if the keys are separated and, unless there are none, the user's annotations leave the hash
alone. -/
theorem secret_hash_exact_iff (hsha : Function.Injective libs.sha256) (r : Runtime)
    (keys keys' : Finset String) :
    (∀ secret secret' : Secret, HasKeys secret.data keys → HasKeys secret'.data keys' →
        ToldApart libs r secret secret') ↔
      Separated bytes keys.sort keys'.sort ∧ (keys = ∅ ∧ keys' = ∅ ∨ LeavesHash r) := by
  constructor
  · intro h
    constructor
    · refine separated_of_data_eq fun data data' hdata hdata' hstream => ?_
      have htold := h (secretWith data) (secretWith data') hdata hdata'
      exact (htold.stream .byKey .byKey).mp hstream
    · by_cases hne : keys = ∅ ∧ keys' = ∅
      · exact Or.inl hne
      · exact Or.inr (leavesHash_of_toldApart h hne)
  · rintro ⟨hsep, ⟨rfl, rfl⟩ | hfree⟩ secret secret' h h'
    · exact toldApart_of_data_eq (h.data_eq h' fun k hk => absurd hk (Finset.notMem_empty k))
    · exact toldApart_of_separated hsha hsep hfree h h'

/-- Two manifests under the one key that the Secret of the cluster agent has. -/
theorem one_key_told_apart :
    ToldApart (sampleLibs (.minimal "tenant" "default")) (.minimal "tenant" "default")
      (secretWith ((∅ : GoMap Bytes).insert layout.runtimeManifest.secretKey (bytes "kind: Runtime")))
      (secretWith ((∅ : GoMap Bytes).insert layout.runtimeManifest.secretKey (bytes ""))) := by
  have hfree : LeavesHash (.minimal "tenant" "default") := Std.ExtTreeMap.getElem?_empty
  refine (secret_hash_exact_iff ?_ _ _ _).mpr ⟨separated_singleton _, Or.inr hfree⟩ _ _
    (hasKeys_singleton _ _) (hasKeys_singleton _ _)
  exact ofList_map_injective

/-- One entry, `a` with the value `b`. -/
def keyAndValue : GoMap Bytes := (∅ : GoMap Bytes).insert "a" (bytes "b")

/-- One entry, `ab` with an empty value. -/
def keyAlone : GoMap Bytes := (∅ : GoMap Bytes).insert "ab" []

/-- **A byte that moves from the value to the key.** The data are different, the digest has no
collisions and the user sets no annotations. Still the digest is given one text, and the cluster
agent is not rolled out again. -/
theorem shifted_key_hashed_alike :
    Function.Injective (sampleLibs (.minimal "tenant" "default")).sha256 ∧
      LeavesHash (.minimal "tenant" "default") ∧ keyAndValue ≠ keyAlone ∧
      secretStream .byKey keyAndValue = secretStream .byKey keyAlone ∧
      agentTemplate (sampleLibs (.minimal "tenant" "default")) ⟨fun _ => .byKey, .byKey⟩
          (.minimal "tenant" "default") (secretWith keyAndValue) =
        agentTemplate (sampleLibs (.minimal "tenant" "default")) ⟨fun _ => .byKey, .byKey⟩
          (.minimal "tenant" "default") (secretWith keyAlone) := by
  have hne : keyAndValue ≠ keyAlone := by decide +kernel
  have hstream : secretStream .byKey keyAndValue = secretStream .byKey keyAlone := by decide +kernel
  refine ⟨ofList_map_injective, Std.ExtTreeMap.getElem?_empty, hne, hstream, ?_⟩
  refine (agentTemplate_eq_iff _ _).mpr fun _ => ?_
  exact congrArg (sampleLibs (.minimal "tenant" "default")).sha256 hstream

end Template

end Heir.Controller.Runtime
