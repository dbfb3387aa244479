import CloudThreat.Proofs.FirstOccurrences
import CloudThreat.Proofs.FlowEnds

namespace CloudThreat

namespace DataFlow

variable {r : Resource} {resources : List Resource} {nodes : List Node} {e : Edge}

/-- The nodes of the resources that have one, each once and in the order of the resources. -/
def sources (resources : List Resource) (nodes : List Node) : List Node :=
  ((resources.map NodeId.ofResource).filter (· ∈ nodes.map Node.id)).eraseDups.filterMap fun id =>
    nodes.find? (·.id = id)

theorem lastNode?_isSome_iff {id : String} :
    (∃ n, lastNode? nodes id = some n) ↔ id ∈ nodes.map Node.id := by
  rw [← Option.isSome_iff_exists, lastNode?, List.find?_isSome]
  simp

theorem detectFrom_eq (nodes : List Node) (visited : List String) (resources : List Resource) :
    detectFrom nodes visited resources =
      ((((resources.map NodeId.ofResource).filter (· ∈ nodes.map Node.id)).filter
        (· ∉ visited)).eraseDups.filterMap (lastNode? nodes)).flatMap fun source =>
          (targets nodes source).map (flowTo source) := by
  induction resources generalizing visited with
  | nil => simp [detectFrom]
  | cons r rest ih =>
    rw [List.map_cons, List.filter_cons]
    simp only [detectFrom, decide_eq_true_eq]
    split
    next unknown =>
      have absent : NodeId.ofResource r ∉ nodes.map Node.id := by
        rintro known
        obtain ⟨n, hn⟩ := lastNode?_isSome_iff.mpr known
        rw [unknown] at hn
        cases hn
      rw [if_neg absent]
      exact ih visited
    next source found =>
      have known : NodeId.ofResource r ∈ nodes.map Node.id := lastNode?_isSome_iff.mp ⟨_, found⟩
      rw [if_pos known, List.filter_cons]
      by_cases met : NodeId.ofResource r ∈ visited
      · have again : visited.contains (NodeId.ofResource r) = true := List.contains_iff_mem.mpr met
        rw [if_pos again, if_neg (by simpa using met)]
        exact ih visited
      · have fresh : ¬ visited.contains (NodeId.ofResource r) = true := by simpa using met
        rw [if_neg fresh, if_pos (by simpa using met), List.eraseDups_cons,
          filter_unseen_filter_ne, List.filterMap_cons_some found, List.flatMap_cons,
          ofResource_eq_map, ih]

theorem lastNode?_eq_find? (distinct : (nodes.map Node.id).Nodup) (id : String) :
    lastNode? nodes id = nodes.find? (·.id = id) := by
  have reversed : (nodes.reverse.map Node.id).Nodup := by
    rw [List.map_reverse]
    exact List.nodup_reverse.mpr distinct
  refine Option.ext fun n => ?_
  rw [lastNode?, Node.find?_eq_some_iff reversed, Node.find?_eq_some_iff distinct,
    List.mem_reverse]

theorem detect_eq (distinct : (nodes.map Node.id).Nodup) : detect resources nodes =
    (sources resources nodes).flatMap fun source => (targets nodes source).map (flowTo source) := by
  have all : ((resources.map NodeId.ofResource).filter (· ∈ nodes.map Node.id)).filter (· ∉ []) =
      (resources.map NodeId.ofResource).filter (· ∈ nodes.map Node.id) :=
    List.filter_eq_self.mpr (by simp)
  rw [detect, detectFrom_eq, all, sources,
    List.filterMap_congr fun id _ => lastNode?_eq_find? distinct id]

theorem sources_subset (resources : List Resource) (nodes : List Node) :
    sources resources nodes ⊆ nodes := by
  intro n hn
  obtain ⟨id, _, hf⟩ := List.mem_filterMap.mp hn
  exact List.mem_of_find?_eq_some hf

theorem sources_nodup (resources : List Resource) (nodes : List Node) :
    (sources resources nodes).Nodup := by
  refine List.Nodup.filterMap ?_ (eraseDups_nodup _)
  intro id other n hn hn'
  have one : n.id = id := by simpa using List.find?_some hn
  have two : n.id = other := by simpa using List.find?_some hn'
  exact one.symm.trans two

theorem mem_detect_iff (distinct : (nodes.map Node.id).Nodup) : e ∈ detect resources nodes ↔
    ∃ source ∈ sources resources nodes, ∃ target ∈ targets nodes source,
      flowTo source target = e := by
  simp only [detect_eq distinct, List.mem_flatMap, List.mem_map]

theorem source_ne_target (distinct : (nodes.map Node.id).Nodup)
    (h : e ∈ detect resources nodes) : e.source ≠ e.target := by
  obtain ⟨source, hs, target, ht, rfl⟩ := (mem_detect_iff distinct).mp h
  obtain ⟨ht, group, hg, partner⟩ := mem_targets_iff.mp ht
  rw [flowTo_ends.1, flowTo_ends.2]
  intro same
  have one := List.inj_on_of_nodup_map distinct (sources_subset _ _ hs) ht same
  exact not_mem_partners source.type group hg (one ▸ partner)

/-- The two ends of an edge. -/
def ends (e : Edge) : String × String :=
  (e.source, e.target)

theorem detect_ends_nodup (distinct : (nodes.map Node.id).Nodup) :
    ((detect resources nodes).map ends).Nodup := by
  have ids : ∀ n ∈ nodes, ∀ m ∈ nodes, n.id = m.id → n = m :=
    fun n hn m hm => List.inj_on_of_nodup_map distinct hn hm
  rw [detect_eq distinct, List.map_flatMap, List.nodup_flatMap]
  constructor
  · intro source _
    rw [List.map_map]
    refine List.Nodup.map_on ?_ (targets_nodup distinct.of_map source)
    intro t ht t' ht' same
    have same := congrArg Prod.snd same
    simp only [Function.comp_apply, ends, flowTo_ends.2] at same
    exact ids t (mem_targets_iff.mp ht).1 t' (mem_targets_iff.mp ht').1 same
  · refine (sources_nodup resources nodes).imp_of_mem fun {s s'} hs hs' different => ?_
    refine List.disjoint_left.mpr fun pair hp hp' => ?_
    simp only [List.map_map, List.mem_map, Function.comp_apply, ends, flowTo_ends.1] at hp hp'
    obtain ⟨t, _, rfl⟩ := hp
    obtain ⟨t', _, same⟩ := hp'
    have same := congrArg Prod.fst same
    exact different (ids s (sources_subset _ _ hs) s' (sources_subset _ _ hs') same.symm)

/-- Two resources that differ in their properties at most. -/
def SameButProperties (r r' : Resource) : Prop :=
  r' = { r with properties := r'.properties }

theorem SameButProperties.ofResource_eq {r' : Resource} (h : SameButProperties r r') :
    NodeId.ofResource r' = NodeId.ofResource r := by
  rw [h]
  rfl

theorem sources_of_sameButProperties {resources' : List Resource}
    (h : List.Forall₂ SameButProperties resources resources') :
    sources resources' nodes = sources resources nodes := by
  have ids : resources'.map NodeId.ofResource = resources.map NodeId.ofResource := by
    induction h with
    | nil => rfl
    | cons first _ ih => rw [List.map_cons, List.map_cons, first.ofResource_eq, ih]
  rw [sources, ids, sources]

/-- How the flows of resources come from the nodes alone. -/
structure DetectsByNodes (resources : List Resource) (nodes : List Node) : Prop where
  edges_eq : detect resources nodes = (sources resources nodes).flatMap fun source =>
    (targets nodes source).map (flowTo source)
  no_loop : ∀ e ∈ detect resources nodes, e.source ≠ e.target
  ends_nodup : ((detect resources nodes).map ends).Nodup
  properties_unused : ∀ resources', List.Forall₂ SameButProperties resources resources' →
    detect resources' nodes = detect resources nodes

theorem detect_detectsByNodes (distinct : (nodes.map Node.id).Nodup) (resources : List Resource) :
    DetectsByNodes resources nodes where
  edges_eq := detect_eq distinct
  no_loop _ he := source_ne_target distinct he
  ends_nodup := detect_ends_nodup distinct
  properties_unused resources' same := by
    rw [detect_eq distinct, detect_eq distinct, sources_of_sameButProperties same]

/-- A shop behind a balancer, with a worker beside it and three stores behind both. -/
def shopNodes : List Node :=
  [.new "lb" "lb" .loadBalancer .dmz, .new "shop" "shop" .service .internal,
    .new "worker" "worker" .compute .internal,
    { Node.new "orders" "orders" .database .restricted with
      properties := .obj [("encrypted", .bool true)] },
    .new "photos" "photos" .storage .internal, .new "carts" "carts" .cache .internal]

/-- The resources of the shop, of which the worker comes twice and one has no node. -/
def shopResources : List Resource :=
  ["worker", "unknown", "lb", "worker", "shop", "orders"].map fun id =>
    { Resource.new "aws_instance" id (.obj []) with id := some id }

theorem shop_detected :
    (shopNodes.map Node.id).Nodup ∧
    (detect shopResources shopNodes).map (fun e => (e.source, e.label, e.target, e.encrypted)) =
      [("worker", "queries", "orders", true), ("worker", "read/write", "photos", true),
        ("lb", "HTTP requests", "shop", true), ("lb", "HTTP requests", "worker", true),
        ("shop", "queries", "orders", true), ("shop", "read/write", "photos", true),
        ("shop", "cache operations", "carts", false)] ∧
    ((detect shopResources shopNodes).map ends).Nodup := by
  have distinct : (shopNodes.map Node.id).Nodup := by decide
  have detected := detect_detectsByNodes distinct shopResources
  refine ⟨distinct, ?flows, detected.ends_nodup⟩
  rw [detected.edges_eq]
  decide +kernel

end DataFlow

end CloudThreat
