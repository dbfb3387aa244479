import CloudThreat.Proofs.ComponentNodes
import CloudThreat.Proofs.EdgeRedirection

namespace CloudThreat

namespace Diagram

open DataFlow (Joins)

variable {d : Diagram} {e : Edge} {suffix place : String} {ids : List String}

/-- An end that is moved comes to be one of the ids with the suffix, be it moved once or again. -/
theorem moved_of_mem (h : place ∈ ids) : ∃ id ∈ ids, moved suffix ids place = id ++ suffix := by
  induction ids generalizing place with
  | nil => simp at h
  | cons id rest ih =>
    by_cases he : place = id
    · subst he
      rw [moved_cons_self]
      by_cases again : place ++ suffix ∈ rest
      · obtain ⟨last, hl, hm⟩ := ih again
        exact ⟨last, List.mem_cons_of_mem _ hl, hm⟩
      · exact ⟨place, List.mem_cons_self, moved_of_not_mem again⟩
    · rw [moved_cons_of_ne he]
      obtain ⟨last, hl, hm⟩ := ih ((List.mem_cons.mp h).resolve_left he)
      exact ⟨last, List.mem_cons_of_mem _ hl, hm⟩

theorem mem_splitIds_iff {id : String} :
    id ∈ d.splitIds ↔ ∃ n ∈ d.nodes, n.type.isSplit = true ∧ n.id = id := by
  simp [splitIds, and_assoc]

theorem mem_expand_ids_iff {id : String} :
    id ∈ d.expand.nodes.map Node.id ↔ ∃ n ∈ d.nodes, id ∈ partIds n := by
  rw [expand_ids, List.mem_flatMap]

/-- An end at a node is led to a component: to a part of a split node, or it stays where it is. -/
theorem moved_mem_expand_ids (part : suffix = "_api" ∨ suffix = "_logic")
    (h : place ∈ d.nodes.map Node.id) :
    moved suffix d.splitIds place ∈ d.expand.nodes.map Node.id := by
  rw [mem_expand_ids_iff]
  by_cases hs : place ∈ d.splitIds
  · obtain ⟨id, hid, hm⟩ := moved_of_mem hs
    obtain ⟨n, hn, split, rfl⟩ := mem_splitIds_iff.mp hid
    refine ⟨n, hn, mem_partIds_iff.mpr (.inl ⟨split, ?_⟩)⟩
    rw [hm]
    rcases part with rfl | rfl
    · exact .inl rfl
    · exact .inr rfl
  · obtain ⟨n, hn, rfl⟩ := List.mem_map.mp h
    have whole : n.type.isSplit = false := by
      by_contra split
      exact hs (mem_splitIds_iff.mpr ⟨n, hn, by simpa using split, rfl⟩)
    exact ⟨n, hn, mem_partIds_iff.mpr (.inr ⟨whole, moved_of_not_mem hs⟩)⟩

theorem redirected_joins (h : Joins d.nodes e) :
    Joins d.expand.nodes (redirected d.splitIds e) :=
  ⟨moved_mem_expand_ids (.inr rfl) h.1, moved_mem_expand_ids (.inl rfl) h.2⟩

theorem innerEdge_joins {n : Node} (hn : n ∈ d.nodes) (split : n.type.isSplit = true) :
    Joins d.expand.nodes (innerEdge n) := by
  have entry : (entryOf n).id ∈ partIds n := mem_partIds_iff.mpr (.inl ⟨split, .inl rfl⟩)
  have logic : (logicOf n).id ∈ partIds n := mem_partIds_iff.mpr (.inl ⟨split, .inr rfl⟩)
  exact ⟨mem_expand_ids_iff.mpr ⟨n, hn, entry⟩, mem_expand_ids_iff.mpr ⟨n, hn, logic⟩⟩

theorem expand_joins (closed : ∀ e ∈ d.edges, Joins d.nodes e) :
    ∀ e ∈ d.expand.edges, Joins d.expand.nodes e := by
  intro e he
  rw [expand_edges] at he
  rcases List.mem_append.mp he with he | he
  · obtain ⟨old, ho, rfl⟩ := List.mem_map.mp he
    exact redirected_joins (closed old ho)
  · obtain ⟨n, hn, rfl⟩ := List.mem_map.mp he
    obtain ⟨hn, split⟩ := List.mem_filter.mp hn
    exact innerEdge_joins hn split

theorem length_flatMap_expandNode (nodes : List Node) :
    (nodes.flatMap expandNode).length =
      nodes.length + (nodes.filter (·.type.isSplit)).length := by
  induction nodes with
  | nil => rfl
  | cons n rest ih =>
    rw [List.flatMap_cons, List.length_append, ih, List.filter_cons]
    by_cases split : n.type.isSplit = true
    · have two : (expandNode n).length = 2 := by simp [expandNode, split]
      rw [if_pos split, List.length_cons, List.length_cons]
      omega
    · have one : (expandNode n).length = 1 := by simp [expandNode, split]
      rw [if_neg split, List.length_cons]
      omega

/-- The services and interfaces of a diagram. -/
def splitNodes (d : Diagram) : List Node :=
  d.nodes.filter fun n => n.type = .service ∨ n.type = .api

theorem splitNodes_eq (d : Diagram) : d.splitNodes = d.nodes.filter (·.type.isSplit) := by
  refine List.filter_congr fun n _ => ?_
  rw [Bool.eq_iff_iff, decide_eq_true_iff, NodeType.isSplit_iff]

/-- The same flow between other ends. -/
def SameFlow (e e' : Edge) : Prop :=
  e' = { e with source := e'.source, target := e'.target }

/-- What the components of a diagram have from it. -/
structure Conserves (d d' : Diagram) : Prop where
  nodes_length : d'.nodes.length = d.nodes.length + d.splitNodes.length
  edges_length : d'.edges.length = d.edges.length + d.splitNodes.length
  nodes_eq : d'.nodes = d.nodes.flatMap fun n =>
    if n.type = .service ∨ n.type = .api then
      [{ n with id := n.id ++ "_api", label := n.label ++ " API", type := .api },
        { n with
          id := n.id ++ "_logic"
          label := n.label ++ " Logic"
          type := .function
          boundary := some .internal }]
    else [n]
  edges_eq : ∃ kept, List.Forall₂ SameFlow d.edges kept ∧
    d'.edges = kept ++ d.splitNodes.map fun n =>
      .new (n.id ++ "_api") (n.id ++ "_logic") "process request" "Internal" false .internal
  ends_exist : (∀ e ∈ d.edges, Joins d.nodes e) → ∀ e ∈ d'.edges, Joins d'.nodes e

theorem expand_conserves (d : Diagram) : Conserves d d.expand := by
  have edges := expand_edges d
  rw [← splitNodes_eq] at edges
  refine ⟨?nodesLength, ?edgesLength, ?nodes, ⟨_, ?kept, edges⟩, expand_joins⟩
  case nodesLength =>
    rw [splitNodes_eq]
    exact length_flatMap_expandNode d.nodes
  case edgesLength => rw [edges, List.length_append, List.length_map, List.length_map]
  case nodes =>
    refine List.flatMap_congr fun n _ => ?_
    rw [expandNode, if_congr NodeType.isSplit_iff rfl rfl]
    rfl
  case kept =>
    rw [List.forall₂_map_right_iff]
    exact List.forall₂_same.mpr fun e _ => rfl

theorem nestedNames_conserved :
    (∀ e ∈ nestedNames.edges, Joins nestedNames.nodes e) ∧
    nestedNames.expand.nodes.length = 5 ∧
    ∀ e ∈ nestedNames.expand.edges, Joins nestedNames.expand.nodes e := by
  have closed : ∀ e ∈ nestedNames.edges, Joins nestedNames.nodes e := by
    intro e he
    rw [List.mem_singleton.mp he]
    exact ⟨by decide, by decide⟩
  have conserved := expand_conserves nestedNames
  exact ⟨closed, conserved.nodes_length, conserved.ends_exist closed⟩

end Diagram

end CloudThreat
