import CloudThreat.Proofs.ServiceDiagram
import Mathlib.Data.List.Forall2
import Mathlib.Data.List.Perm.Subperm

namespace CloudThreat

namespace NodeId

/-- Characters that become the underscore, or are one. -/
def isBlurred (c : Char) : Bool :=
  !isKept true c || c = '_'

/-- Texts of one length that differ in blurred characters only. -/
def Alike (s t : String) : Prop :=
  List.Forall₂ (fun c d => c = d ∨ isBlurred c = true ∧ isBlurred d = true) s.toList t.toList

instance (s t : String) : Decidable (Alike s t) :=
  inferInstanceAs (Decidable (List.Forall₂ _ s.toList t.toList))

theorem keep_eq_keep_iff {c d : Char} :
    (if isKept true c then c else '_') = (if isKept true d then d else '_') ↔
      c = d ∨ isBlurred c = true ∧ isBlurred d = true := by
  by_cases hc : isKept true c = true <;> by_cases hd : isKept true d = true
  · have blurred : isBlurred c = true ∧ isBlurred d = true → c = d := by
      intro h
      simp only [isBlurred, hc, hd, Bool.not_true, Bool.false_or, decide_eq_true_eq] at h
      rw [h.1, h.2]
    simpa [hc, hd] using blurred
  · have distinct : c ≠ d := by
      rintro rfl
      exact hd hc
    simp [isBlurred, hc, hd, distinct]
  · have distinct : c ≠ d := by
      rintro rfl
      exact hc hd
    simp [isBlurred, hc, hd, distinct, eq_comm]
  · simp [isBlurred, hc, hd]

theorem sanitize_eq_sanitize_iff {s t : String} :
    sanitize true s = sanitize true t ↔ Alike s t := by
  rw [sanitize, sanitize, String.ofList_inj, ← List.forall₂_eq_eq_eq, List.forall₂_map_left_iff,
    List.forall₂_map_right_iff, Alike]
  simp only [keep_eq_keep_iff]

end NodeId

namespace Diagram

open DataFlow (externalUser externalUserId)

variable {resources : List Resource}

/-- A list without repetitions is as long as one with the same members just if that has none. -/
theorem length_eq_iff_nodup {ids all : List String} (nodup : ids.Nodup)
    (same : ∀ id, id ∈ ids ↔ id ∈ all) : ids.length = all.length ↔ all.Nodup := by
  have sub : ids.Subperm all := List.subperm_of_subset nodup fun id => (same id).mp
  constructor
  · intro hl
    exact (sub.perm_of_length_le (Nat.le_of_eq hl.symm)).nodup_iff.mp nodup
  · intro hall
    exact ((List.perm_ext_iff_of_nodup nodup hall).mpr same).length_eq

/-- Without the users, the nodes are as many as the resources just if all ids are distinct. -/
theorem resourceNodes_length_eq_iff :
    (resourceNodes resources).length = resources.length ↔
      (resources.map NodeId.ofResource).Nodup := by
  have same : ∀ id, id ∈ (resourceNodes resources).map Node.id ↔
      id ∈ resources.map NodeId.ofResource := by
    intro id
    rw [resourceNodes_ids, List.mem_eraseDups]
  have hl := length_eq_iff_nodup (resourceNodes_ids_nodup resources) same
  rwa [List.length_map, List.length_map] at hl

theorem resourceNodes_length_le (resources : List Resource) :
    (resourceNodes resources).length ≤ resources.length := by
  have sub : ((resourceNodes resources).map Node.id).Subperm
      (resources.map NodeId.ofResource) := by
    refine List.subperm_of_subset (resourceNodes_ids_nodup resources) fun id hid => ?_
    rwa [resourceNodes_ids, List.mem_eraseDups] at hid
  simpa using sub.length_le

theorem resourceType_isSome_of_mem {n : Node} (h : n ∈ resourceNodes resources) :
    n.resourceType.isSome = true := by
  obtain ⟨id, _, hn⟩ := List.mem_filterMap.mp h
  obtain ⟨r, _, rfl⟩ := Option.map_eq_some_iff.mp hn
  rfl

/-- A test that the users fail sees the nodes of the resources only. -/
theorem filter_nodes_of_users {p : Node → Bool} (fails : p externalUser = false) :
    (ofResources resources).nodes.filter p = (resourceNodes resources).filter p := by
  have none : (users (resourceNodes resources)).filter p = [] := by
    refine List.filter_eq_nil_iff.mpr fun n hn => ?_
    obtain ⟨_, rfl⟩ := mem_users_iff.mp hn
    simp [fails]
  rw [ofResources_nodes, List.filter_append, none, List.append_nil]

theorem filter_resourceType_isSome :
    (ofResources resources).nodes.filter (fun n => n.resourceType.isSome) =
      resourceNodes resources := by
  rw [filter_nodes_of_users rfl]
  exact List.filter_eq_self.mpr fun n hn => resourceType_isSome_of_mem hn

theorem filter_id_ne_length_eq_iff :
    ((resourceNodes resources).filter (fun n => n.id ≠ externalUserId)).length = resources.length ↔
      (resources.map NodeId.ofResource).Nodup ∧
        externalUserId ∉ resources.map NodeId.ofResource := by
  have named : (∀ n ∈ resourceNodes resources, n.id ≠ externalUserId) ↔
      externalUserId ∉ resources.map NodeId.ofResource := by
    rw [← List.mem_eraseDups, ← resourceNodes_ids]
    simp [eq_comm]
  have kept : ((resourceNodes resources).filter (fun n => n.id ≠ externalUserId)).length =
      (resourceNodes resources).length ↔ externalUserId ∉ resources.map NodeId.ofResource := by
    rw [List.length_filter_eq_length_iff, ← named]
    simp
  have fewer := List.length_filter_le (fun n : Node => decide (n.id ≠ externalUserId))
    (resourceNodes resources)
  have most := resourceNodes_length_le resources
  rw [← kept, ← resourceNodes_length_eq_iff]
  omega

theorem ofResource_of_id_eq_none {r : Resource} (h : r.id = none) :
    NodeId.ofResource r = NodeId.sanitize true r.fullName := by
  rw [NodeId.ofResource, h, Option.getD_none]

theorem ids_nodup_iff (noIds : ∀ r ∈ resources, r.id = none) :
    (resources.map NodeId.ofResource).Nodup ↔
      resources.Pairwise fun r s => ¬ NodeId.Alike r.fullName s.fullName := by
  rw [List.nodup_iff_pairwise_ne, List.pairwise_map]
  refine List.Pairwise.iff_of_mem fun {r s} hr hs => ?_
  rw [ofResource_of_id_eq_none (noIds r hr), ofResource_of_id_eq_none (noIds s hs), ne_eq,
    NodeId.sanitize_eq_sanitize_iff]

/-- Resources without ids have a node each just if no two of their names are alike, and these are
all nodes but that of the users just if moreover no name is alike to the id of the users. -/
theorem ofResources_node_each_iff (noIds : ∀ r ∈ resources, r.id = none) :
    (((ofResources resources).nodes.filter fun n => n.resourceType.isSome).length =
        resources.length ↔
      resources.Pairwise fun r s => ¬ NodeId.Alike r.fullName s.fullName) ∧
    (((ofResources resources).nodes.filter fun n => n.id ≠ externalUserId).length =
        resources.length ↔
      (resources.Pairwise fun r s => ¬ NodeId.Alike r.fullName s.fullName) ∧
        ∀ r ∈ resources, ¬ NodeId.Alike r.fullName externalUserId) := by
  have unlikeUsers : externalUserId ∉ resources.map NodeId.ofResource ↔
      ∀ r ∈ resources, ¬ NodeId.Alike r.fullName externalUserId := by
    have own : NodeId.sanitize true externalUserId = externalUserId := by decide
    rw [List.mem_map, not_exists]
    refine forall_congr' fun r => ?_
    rw [not_and]
    refine forall_congr' fun hr => ?_
    rw [ofResource_of_id_eq_none (noIds r hr), ← NodeId.sanitize_eq_sanitize_iff, own]
  constructor
  · rw [filter_resourceType_isSome, resourceNodes_length_eq_iff, ids_nodup_iff noIds]
  · rw [filter_nodes_of_users (by decide), filter_id_ne_length_eq_iff, ids_nodup_iff noIds,
      unlikeUsers]

/-- A public service and the database behind it. -/
def serviceAndDatabase : List Resource :=
  [.new "aws_ecs_service" "app" (.obj [("associate_public_ip_address", .bool true)]),
    .new "aws_db_instance" "app" (.obj [])]

theorem serviceAndDatabase_node_each :
    (∀ r ∈ serviceAndDatabase, r.id = none) ∧ (ofResources serviceAndDatabase).nodes.length = 3 ∧
    ((ofResources serviceAndDatabase).nodes.filter fun n => n.id ≠ externalUserId).length = 2 := by
  have noIds : ∀ r ∈ serviceAndDatabase, r.id = none := by decide
  have distinct : (serviceAndDatabase.Pairwise fun r s => ¬ NodeId.Alike r.fullName s.fullName) ∧
      ∀ r ∈ serviceAndDatabase, ¬ NodeId.Alike r.fullName externalUserId := by decide
  exact ⟨noIds, by decide +kernel, (ofResources_node_each_iff noIds).2.mpr distinct⟩

/-- Raw resources with distinct names and no ids: a bucket, and a policy of a bucket. -/
def bucketAndPolicy : List Json := [
  .obj [("name", .str "policy_logs"), ("resource_type", .str "aws_s3_bucket")],
  .obj [("name", .str "logs"), ("resource_type", .str "aws_s3_bucket_policy")]]

theorem distinct_names_share_a_node :
    ¬ ∀ (raws : List Json) (resources : List Resource), Resource.ofRawList raws = .ok resources →
      (∀ r ∈ resources, r.id = none) → (resources.map Resource.fullName).Nodup →
      ((ofResources resources).nodes.filter fun n => n.id ≠ externalUserId).length =
        resources.length := by
  intro h
  have hl := h bucketAndPolicy
    [.new "aws_s3_bucket" "policy_logs" (.obj []), .new "aws_s3_bucket_policy" "logs" (.obj [])]
    rfl (by decide) (by decide)
  exact absurd hl (by decide +kernel)

end Diagram

end CloudThreat
