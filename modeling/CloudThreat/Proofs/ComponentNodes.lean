import CloudThreat.Proofs.ServiceDiagram
import Mathlib.Data.List.Lattice
import Mathlib.Data.List.Nodup
import Mathlib.Data.List.Pairwise

namespace CloudThreat

namespace Diagram

variable {n m : Node} {id : String}

/-- The ids that a node has among the components. -/
def partIds (n : Node) : List String :=
  if n.type.isSplit then [n.id ++ "_api", n.id ++ "_logic"] else [n.id]

theorem mem_partIds_iff : id ∈ partIds n ↔
    (n.type.isSplit = true ∧ (id = n.id ++ "_api" ∨ id = n.id ++ "_logic")) ∨
      (n.type.isSplit = false ∧ id = n.id) := by
  by_cases h : n.type.isSplit = true <;> simp [partIds, h]

theorem expandNode_ids (n : Node) : (expandNode n).map Node.id = partIds n := by
  by_cases h : n.type.isSplit = true <;> simp [expandNode, partIds, h, entryOf, logicOf]

theorem expand_ids (d : Diagram) : d.expand.nodes.map Node.id = d.nodes.flatMap partIds := by
  simp only [expand, ofNodes, List.map_flatMap, expandNode_ids]

/-- The two ends of ids are told apart by their last characters. -/
theorem append_api_ne_append_logic (s t : String) : s ++ "_api" ≠ t ++ "_logic" := by
  intro h
  have last := congrArg (fun id : String => id.toList.getLast?) h
  simp at last

theorem partIds_nodup (n : Node) : (partIds n).Nodup := by
  by_cases h : n.type.isSplit = true <;> simp [partIds, h]

/-- An id that two nodes leave is one that either had before, the other being split. -/
theorem shared_part (distinct : n.id ≠ m.id) (hn : id ∈ partIds n) (hm : id ∈ partIds m) :
    (n.type.isSplit = true ∧ m.type.isSplit = false ∧ m.id ∈ partIds n) ∨
      (m.type.isSplit = true ∧ n.type.isSplit = false ∧ n.id ∈ partIds m) := by
  rcases mem_partIds_iff.mp hn with ⟨sn, en⟩ | ⟨sn, en⟩ <;>
    rcases mem_partIds_iff.mp hm with ⟨sm, em⟩ | ⟨sm, em⟩
  · exfalso
    rcases en with rfl | rfl <;> rcases em with em | em
    · exact distinct ((String.append_left_inj _).mp em)
    · exact append_api_ne_append_logic _ _ em
    · exact append_api_ne_append_logic _ _ em.symm
    · exact distinct ((String.append_left_inj _).mp em)
  · exact .inl ⟨sn, sm, em ▸ hn⟩
  · exact .inr ⟨sm, sn, en ▸ hm⟩
  · exact absurd (en.symm.trans em) distinct

/-- No part of a split node has the id of a node that stays whole. -/
def PartsFresh (nodes : List Node) : Prop :=
  ∀ n ∈ nodes, ∀ m ∈ nodes, n.type.isSplit = true → m.type.isSplit = false →
    m.id ≠ n.id ++ "_api" ∧ m.id ≠ n.id ++ "_logic"

theorem partsFresh_iff {nodes : List Node} : PartsFresh nodes ↔
    ∀ n ∈ nodes, ∀ m ∈ nodes, n.type.isSplit = true → m.type.isSplit = false →
      m.id ∉ partIds n := by
  refine forall₂_congr fun n _ => forall₂_congr fun m _ => forall₂_congr fun split _ => ?_
  simp [mem_partIds_iff, split]

theorem expand_ids_nodup_iff {d : Diagram} (distinct : (d.nodes.map Node.id).Nodup) :
    (d.expand.nodes.map Node.id).Nodup ↔ PartsFresh d.nodes := by
  rw [expand_ids, List.nodup_flatMap, partsFresh_iff]
  constructor
  · rintro ⟨_, apart⟩ n hn m hm split whole hid
    have other : n ≠ m := by
      rintro rfl
      exact Bool.false_ne_true (whole.symm.trans split)
    have symmetric : Std.Symm (Function.onFun List.Disjoint partIds) :=
      ⟨fun _ _ h => List.Disjoint.symm h⟩
    have own : m.id ∈ partIds m := mem_partIds_iff.mpr (.inr ⟨whole, rfl⟩)
    exact apart.forall hn hm other hid own
  · intro fresh
    refine ⟨fun n _ => partIds_nodup n, ?_⟩
    have ids := List.pairwise_map.mp (List.nodup_iff_pairwise_ne.mp distinct)
    refine ids.imp_of_mem fun {n m} hn hm different => ?_
    refine List.disjoint_left.mpr fun id hin him => ?_
    rcases shared_part different hin him with ⟨split, whole, part⟩ | ⟨split, whole, part⟩
    · exact fresh n hn m hm split whole part
    · exact fresh m hm n hn split whole part

/-- The components of resources have distinct ids just if no part of a split node has the id of a
node that stays whole; each node is then the one that is found under its id. -/
theorem ofComponents_ids_nodup_iff (resources : List Resource) :
    (((ofComponents resources).nodes.map Node.id).Nodup ↔
      PartsFresh (ofResources resources).nodes) ∧
    (PartsFresh (ofResources resources).nodes → ∀ n ∈ (ofComponents resources).nodes,
      (ofComponents resources).node? n.id = some n) := by
  have nodup := expand_ids_nodup_iff (ofResources_ids_nodup resources)
  exact ⟨nodup, fun fresh n hn => node?_of_mem (nodup.mpr fresh) hn⟩

/-- A service and the balancer in front of it, called like the entry of the service. -/
def balancedService : List Resource :=
  [{ Resource.new "aws_ecs_service" "checkout" (.obj []) with id := some "checkout" },
    { Resource.new "aws_lb" "checkout" (.obj []) with id := some "checkout_api" }]

theorem components_share_an_id :
    ¬ ∀ resources : List Resource, ((ofComponents resources).nodes.map Node.id).Nodup := by
  intro h
  exact absurd (h balancedService) (by decide +kernel)

end Diagram

end CloudThreat
