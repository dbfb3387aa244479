import CloudThreat.DiagramLevels
import CloudThreat.Proofs.DistinctKeys
import CloudThreat.Proofs.FirstOccurrences
import CloudThreat.Proofs.Tallies

namespace CloudThreat

namespace BoundaryGroup

variable {b : TrustBoundary} {id : String} {zones : List TrustBoundary}
  {ids : TrustBoundary → List String}

theorem add_of_mem (distinct : zones.Nodup) (h : b ∈ zones) :
    add b id (zones.map fun z => ⟨z, ids z⟩) =
      zones.map fun z => ⟨z, if z = b then ids z ++ [id] else ids z⟩ := by
  induction zones with
  | nil => cases h
  | cons z zones ih =>
    obtain ⟨fresh, distinct⟩ := List.nodup_cons.mp distinct
    rw [List.map_cons, List.map_cons, add]
    by_cases hz : z = b
    · subst hz
      have kept : (zones.map fun y =>
          (⟨y, if y = z then ids y ++ [id] else ids y⟩ : BoundaryGroup)) =
            zones.map fun y => ⟨y, ids y⟩ := by
        refine List.map_congr_left fun y hy => ?_
        rw [if_neg fun same : y = z => fresh (same ▸ hy)]
      rw [if_pos rfl, if_pos rfl, kept]
    · rw [if_neg hz, if_neg hz, ih distinct ((List.mem_cons.mp h).resolve_left (Ne.symm hz))]

theorem add_of_not_mem (h : b ∉ zones) :
    add b id (zones.map fun z => ⟨z, ids z⟩) =
      (zones.map fun z => ⟨z, ids z⟩) ++ [⟨b, [id]⟩] := by
  induction zones with
  | nil => rfl
  | cons z zones ih =>
    obtain ⟨other, later⟩ := List.ne_and_not_mem_of_not_mem_cons h
    rw [List.map_cons, add, if_neg (Ne.symm other), ih later, List.cons_append]

/-- The ids of the nodes in a zone. -/
def idsIn (nodes : List Node) (b : TrustBoundary) : List String :=
  (nodes.filter (·.boundary = some b)).map Node.id

theorem ofNodes_concat_of_none {nodes : List Node} {n : Node} (h : n.boundary = none) :
    ofNodes (nodes ++ [n]) = ofNodes nodes := by
  rw [ofNodes, List.foldl_concat, h, ofNodes]

theorem ofNodes_concat_of_some {nodes : List Node} {n : Node} (h : n.boundary = some b) :
    ofNodes (nodes ++ [n]) = add b n.id (ofNodes nodes) := by
  rw [ofNodes, List.foldl_concat, h, ofNodes]

theorem idsIn_concat (nodes : List Node) (n : Node) (b : TrustBoundary) :
    idsIn (nodes ++ [n]) b =
      if n.boundary = some b then idsIn nodes b ++ [n.id] else idsIn nodes b := by
  by_cases h : n.boundary = some b <;> simp [idsIn, h]

theorem idsIn_eq_nil {nodes : List Node} (h : b ∉ nodes.filterMap Node.boundary) :
    idsIn nodes b = [] := by
  rw [idsIn, List.map_eq_nil_iff, List.filter_eq_nil_iff]
  intro n hn hb
  exact h (List.mem_filterMap.mpr ⟨n, hn, by simpa using hb⟩)

/-- The groups of some nodes: one for each zone, with the ids of the nodes in it. -/
theorem ofNodes_eq (nodes : List Node) : ofNodes nodes =
    (nodes.filterMap Node.boundary).eraseDups.map fun b => ⟨b, idsIn nodes b⟩ := by
  induction nodes using List.reverseRecOn with
  | nil => rfl
  | append_singleton nodes n ih =>
    simp only [idsIn_concat]
    rcases hb : n.boundary with _ | b
    · rw [ofNodes_concat_of_none hb, ih]
      simp [hb]
    · have zones : (nodes ++ [n]).filterMap Node.boundary =
          nodes.filterMap Node.boundary ++ [b] := by simp [hb]
      rw [ofNodes_concat_of_some hb, ih, zones]
      by_cases known : b ∈ nodes.filterMap Node.boundary
      · rw [eraseDups_concat_of_mem known,
          add_of_mem (eraseDups_nodup _) (List.mem_eraseDups.mpr known)]
        simp [eq_comm]
      · have fresh : b ∉ (nodes.filterMap Node.boundary).eraseDups := by
          rwa [List.mem_eraseDups]
        have kept : ∀ z ∈ (nodes.filterMap Node.boundary).eraseDups,
            (if some b = some z then idsIn nodes z ++ [n.id] else idsIn nodes z) =
              idsIn nodes z := by
          intro z hz
          refine if_neg fun same => ?_
          obtain rfl := Option.some.inj same
          exact fresh hz
        rw [eraseDups_concat_of_not_mem known, add_of_not_mem fresh, List.map_append,
          List.map_singleton, if_pos rfl, idsIn_eq_nil known, List.nil_append]
        congr 1
        exact List.map_congr_left fun z hz => by rw [kept z hz]

/-- The groups hold the nodes: a group for each zone that occurs, in order of first appearance, and
in it the ids of the nodes of its zone in their order. Each node with a zone is in one group. -/
structure Gathers (groups : List BoundaryGroup) (nodes : List Node) : Prop where
  boundaries_eq : groups.map BoundaryGroup.boundary = (nodes.filterMap Node.boundary).eraseDups
  nodeIds_eq : ∀ g ∈ groups,
    g.nodeIds = (nodes.filter (·.boundary = some g.boundary)).map Node.id
  nodeIds_ne_nil : ∀ g ∈ groups, g.nodeIds ≠ []
  nodeIds_perm : (groups.flatMap BoundaryGroup.nodeIds).Perm
    ((nodes.filter (·.boundary.isSome)).map Node.id)

theorem flatMap_idsIn_perm (nodes : List Node) :
    ((nodes.filterMap Node.boundary).eraseDups.flatMap (idsIn nodes)).Perm
      ((nodes.filter (·.boundary.isSome)).map Node.id) := by
  have distinct : ((nodes.filterMap Node.boundary).eraseDups.map some).Nodup :=
    (eraseDups_nodup _).map fun _ _ => Option.some.inj
  have covered : ∀ n ∈ nodes.filter (·.boundary.isSome),
      n.boundary ∈ (nodes.filterMap Node.boundary).eraseDups.map some := by
    intro n hn
    obtain ⟨hn, placed⟩ := List.mem_filter.mp hn
    obtain ⟨b, hb⟩ := Option.isSome_iff_exists.mp placed
    rw [hb]
    exact List.mem_map_of_mem (List.mem_eraseDups.mpr (List.mem_filterMap.mpr ⟨n, hn, hb⟩))
  have gathered := (flatMap_filter_perm distinct covered).map Node.id
  have same : ∀ b, (nodes.filter (·.boundary.isSome)).filter (·.boundary = some b) =
      nodes.filter (·.boundary = some b) := by
    intro b
    rw [List.filter_filter]
    refine List.filter_congr fun n _ => ?_
    by_cases h : n.boundary = some b <;> simp [h]
  rw [List.flatMap_map, List.map_flatMap] at gathered
  simp only [same] at gathered
  exact gathered

theorem ofNodes_gathers (nodes : List Node) : Gathers (ofNodes nodes) nodes := by
  have groups := ofNodes_eq nodes
  refine ⟨?boundaries, ?ids, ?nonempty, ?perm⟩
  case boundaries =>
    rw [groups, List.map_map]
    exact List.map_id _
  case ids =>
    intro g hg
    rw [groups] at hg
    obtain ⟨b, _, rfl⟩ := List.mem_map.mp hg
    rfl
  case nonempty =>
    intro g hg empty
    rw [groups] at hg
    obtain ⟨b, hb, rfl⟩ := List.mem_map.mp hg
    obtain ⟨n, hn, hz⟩ := List.mem_filterMap.mp (List.mem_eraseDups.mp hb)
    have inside : n.id ∈ idsIn nodes b :=
      List.mem_map_of_mem (List.mem_filter.mpr ⟨hn, by simpa using hz⟩)
    rw [show idsIn nodes b = [] from empty] at inside
    cases inside
  case perm =>
    rw [groups, List.flatMap_map]
    exact flatMap_idsIn_perm nodes

end BoundaryGroup

theorem TrustBoundary.text_injective : Function.Injective TrustBoundary.text :=
  injective_of_listed (l := all) (fun b => by cases b <;> decide) (by decide)

theorem NodeType.text_injective : Function.Injective NodeType.text :=
  injective_of_listed (l := all) (fun t => by cases t <;> decide) (by decide)

theorem DataClassification.text_injective : Function.Injective DataClassification.text :=
  injective_of_listed (l := all) (fun c => by cases c <;> decide) (by decide)

namespace Diagram

variable {d : Diagram} {e : Edge} {n : Node} {id : String}

/-- The node that an id leads to, which is the first one that has it. -/
def Leads (nodes : List Node) (id : String) (n : Node) : Prop :=
  n.id = id ∧ ∃ before after, nodes = before ++ n :: after ∧ ∀ m ∈ before, m.id ≠ id

/-- Both ends of an edge lead to nodes, and these are in different zones. -/
def Crosses (nodes : List Node) (e : Edge) : Prop :=
  ∃ n m, Leads nodes e.source n ∧ Leads nodes e.target m ∧ n.boundary ≠ m.boundary

theorem leads_iff : Leads d.nodes id n ↔ d.node? id = some n := by
  rw [Leads, node?, List.find?_eq_some_iff_append]
  simp

theorem crossesBoundary_iff : d.crossesBoundary e = true ↔ Crosses d.nodes e := by
  simp only [Crosses, leads_iff]
  rw [crossesBoundary]
  split
  next n m hn hm => simp [hn, hm]
  next absent =>
    simp only [Bool.false_eq_true, false_iff, not_exists, not_and]
    intro n m hn hm
    exact absurd hm (absent n m hn)

instance (d : Diagram) (e : Edge) : Decidable (Crosses d.nodes e) :=
  decidable_of_iff _ crossesBoundary_iff

/-- What a diagram keeps and tells of its zones is got from the nodes that it has. -/
structure TellsZones (d : Diagram) : Prop where
  groups_eq : d.groups = BoundaryGroup.ofNodes d.nodes
  gathers : BoundaryGroup.Gathers d.groups d.nodes
  boundaries : d.statistics.boundaries.CountsKinds TrustBoundary.text
    (d.nodes.filterMap Node.boundary)
  boundary_count : ∀ b, d.statistics.boundaries.count b.text = (d.nodesIn b).length
  group_length : ∀ g ∈ d.groups,
    d.statistics.boundaries.count g.boundary.text = g.nodeIds.length
  type_count : ∀ t, d.statistics.nodeTypes.count t.text = (d.nodesOfType t).length
  type_total : d.statistics.nodeTypes.total = d.statistics.totalNodes
  totalNodes_eq : d.statistics.totalNodes = d.nodes.length
  classification_total : d.statistics.classifications.total =
    (d.edges.filter (·.classification.isSome)).length
  crossBoundaryFlows_eq : d.statistics.crossBoundaryFlows =
    (d.edges.filter fun e => Crosses d.nodes e).length

theorem boundaries_countsKinds (d : Diagram) : d.statistics.boundaries.CountsKinds
    TrustBoundary.text (d.nodes.filterMap Node.boundary) := by
  have counted := Tally.Recounts.nil.foldl_add TrustBoundary.text
    (d.nodes.filterMap Node.boundary)
  have placed : d.statistics.boundaries =
      (d.nodes.filterMap Node.boundary).foldl (fun t b => Tally.add b.text t) [] := by
    rw [List.foldl_filterMap]
    refine congrArg (fun count => d.nodes.foldl count []) ?_
    funext t n
    cases n.boundary <;> rfl
  rw [placed]
  exact counted.countsKinds TrustBoundary.text_injective

theorem nodeTypes_countsKinds (d : Diagram) :
    d.statistics.nodeTypes.CountsKinds NodeType.text (d.nodes.map Node.type) := by
  have counted := Tally.Recounts.nil.foldl_add (fun n : Node => n.type.text) d.nodes
  have names : d.nodes.map (fun n => n.type.text) = (d.nodes.map Node.type).map NodeType.text := by
    rw [List.map_map]
    rfl
  rw [List.nil_append, names] at counted
  exact counted.countsKinds NodeType.text_injective

theorem classifications_countsKinds (d : Diagram) : d.statistics.classifications.CountsKinds
    DataClassification.text (d.edges.filterMap Edge.classification) :=
  (Tally.Recounts.nil.foldl_add DataClassification.text _).countsKinds
    DataClassification.text_injective

theorem crossBoundaryEdges_eq (d : Diagram) :
    d.crossBoundaryEdges = d.edges.filter fun e => Crosses d.nodes e :=
  List.filter_congr fun e _ => by rw [Bool.eq_iff_iff, decide_eq_true_iff, crossesBoundary_iff]

theorem count_boundary (d : Diagram) (b : TrustBoundary) :
    d.statistics.boundaries.count b.text = (d.nodesIn b).length := by
  rw [(boundaries_countsKinds d).count, List.count_filterMap, List.countP_eq_length_filter]
  exact congrArg List.length (List.filter_congr fun n _ => beq_eq_decide n.boundary (some b))

theorem count_type (d : Diagram) (t : NodeType) :
    d.statistics.nodeTypes.count t.text = (d.nodesOfType t).length := by
  rw [(nodeTypes_countsKinds d).count, List.count_eq_countP, List.countP_map,
    List.countP_eq_length_filter]
  rfl

theorem tellsZones_of_groups_eq (h : d.groups = BoundaryGroup.ofNodes d.nodes) :
    d.TellsZones where
  groups_eq := h
  gathers := h ▸ BoundaryGroup.ofNodes_gathers d.nodes
  boundaries := boundaries_countsKinds d
  boundary_count := count_boundary d
  group_length := by
    intro g hg
    rw [h] at hg
    rw [count_boundary, (BoundaryGroup.ofNodes_gathers d.nodes).nodeIds_eq g hg, List.length_map]
    rfl
  type_count := count_type d
  type_total := by
    rw [(nodeTypes_countsKinds d).total, List.length_map]
    rfl
  totalNodes_eq := rfl
  classification_total := by
    rw [(classifications_countsKinds d).total, List.length_filterMap_eq_countP,
      List.countP_eq_length_filter]
  crossBoundaryFlows_eq := congrArg List.length (crossBoundaryEdges_eq d)

end Diagram

namespace DiagramSet

variable {resources : List Resource} {flows : List CodeFlow}

theorem build_groups_eq {d : Diagram} (h : d ∈ (build resources flows).levels) :
    d.groups = BoundaryGroup.ofNodes d.nodes := by
  simp only [levels, build, List.mem_append, List.mem_cons, List.not_mem_nil, or_false,
    Option.mem_toList] at h
  rcases h with (rfl | rfl) | h
  · rfl
  · rfl
  · split at h
    · cases h
    · cases h
      rfl

/-- The groups of any nodes hold each node in its zone. In the diagrams of every level the groups
that are kept, the questions for the nodes of a zone and the statistics tell the same of the final
nodes and edges. -/
theorem build_tellsZones : (∀ nodes, BoundaryGroup.Gathers (BoundaryGroup.ofNodes nodes) nodes) ∧
    ∀ resources flows, ∀ d ∈ (build resources flows).levels, d.TellsZones := by
  refine ⟨BoundaryGroup.ofNodes_gathers, fun resources flows d h => ?_⟩
  exact Diagram.tellsZones_of_groups_eq (build_groups_eq h)

/-- A public service behind a balancer, and a function of it that calls another party. -/
def shopLevels : DiagramSet :=
  build
    [.new "aws_lb" "front" (.obj []),
      .new "aws_ecs_service" "app" (.obj [("associate_public_ip_address", .bool true)])]
    [⟨"pay", ["check"], ["bank.example"], ["payments"]⟩]

theorem shopLevels_tellsZones : shopLevels.component ∈ shopLevels.levels ∧
    shopLevels.component.groups.map BoundaryGroup.boundary = [.internal, .dmz, .internet] ∧
    shopLevels.component.TellsZones := by
  have component : shopLevels.component ∈ shopLevels.levels := by simp [levels]
  exact ⟨component, by decide +kernel, build_tellsZones.2 _ _ _ component⟩

end DiagramSet

end CloudThreat
