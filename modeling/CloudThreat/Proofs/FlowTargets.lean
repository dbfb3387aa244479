import CloudThreat.DataFlow
import Mathlib.Data.List.Nodup

namespace CloudThreat

namespace NodeType

variable {t : NodeType}

theorem isWorkload_iff : t.isWorkload = true ↔ t = .service ∨ t = .api ∨ t = .compute := by
  cases t <;> simp [isWorkload]

theorem isSplit_iff : t.isSplit = true ↔ t = .service ∨ t = .api := by
  cases t <;> simp [isSplit]

end NodeType

namespace DataFlow

variable {r : Resource} {nodes : List Node} {source target n : Node}

/-- The types that nodes of a type talk to, one group after the other. -/
def partners : NodeType → List (List NodeType)
  | .service | .api => [[.database], [.storage], [.cache]]
  | .compute => [[.database], [.storage]]
  | .loadBalancer => [[.service, .api, .compute]]
  | _ => []

/-- The nodes that a node talks to, in the order of the nodes within each group of types. -/
def targets (nodes : List Node) (source : Node) : List Node :=
  (partners source.type).flatMap fun group => nodes.filter (·.type ∈ group)

/-- The flow to a node, which the type there decides on. -/
def flowTo (source target : Node) : Edge :=
  match target.type with
  | .database =>
    .new source.id target.id "queries" "SQL" (Exposure.isSet (target.properties.get? "encrypted"))
      .confidential
  | .storage => .new source.id target.id "read/write" "HTTPS" true .internal
  | .cache => .new source.id target.id "cache operations" "Redis" false .internal
  | _ => .request source.id target.id

theorem flowTo_ends : (flowTo source target).source = source.id ∧
    (flowTo source target).target = target.id := by
  cases ht : target.type <;> simp [flowTo, ht, Edge.request, Edge.new]

theorem couldConnect_of_workload (workload : source.type.isWorkload = true)
    (store : target.type = .database ∨ target.type = .storage) :
    couldConnect source target = true := by
  rcases NodeType.isWorkload_iff.mp workload with hs | hs | hs <;>
    rcases store with ht | ht <;> simp [couldConnect, hs, ht]

/-- None of the words in the label tells of a person. -/
theorem classify_queries (h : target.type = .database) :
    classify "queries" source target = .confidential := by
  have health : hasAny healthWords (LetterCase.lower "queries") = false := by decide +kernel
  have personal : hasAny personalWords (LetterCase.lower "queries") = false := by decide +kernel
  simp [classify, health, personal, h]

theorem classify_transfers (workload : source.type.isWorkload = true) (h : target.type = .storage) :
    classify "read/write" source target = .internal := by
  have health : hasAny healthWords (LetterCase.lower "read/write") = false := by decide +kernel
  have personal : hasAny personalWords (LetterCase.lower "read/write") = false := by decide +kernel
  rcases NodeType.isWorkload_iff.mp workload with hs | hs | hs <;>
    simp [classify, health, personal, hs, h]

theorem type_eq_of_mem_filter {t : NodeType} (h : n ∈ nodes.filter (·.type = t)) : n.type = t := by
  simpa using (List.mem_filter.mp h).2

/-- A workload could talk to every store of either kind, so that it does not matter whether its
resource refers to one. -/
theorem filter_linked (workload : source.type.isWorkload = true) {t : NodeType}
    (store : t = .database ∨ t = .storage) (keys : List String) :
    (nodes.filter (·.type = t)).filter
        (fun target => mentions r keys || couldConnect source target) =
      nodes.filter (·.type = t) := by
  refine List.filter_eq_self.mpr fun target ht => ?_
  have same := type_eq_of_mem_filter ht
  rw [couldConnect_of_workload workload (by rwa [same]), Bool.or_true]

theorem queries_eq (workload : source.type.isWorkload = true) :
    queries r source nodes = (nodes.filter (·.type ∈ [.database])).map (flowTo source) := by
  simp only [queries, filter_linked workload (.inl rfl), List.mem_singleton]
  refine List.map_congr_left fun target ht => ?_
  have database := type_eq_of_mem_filter ht
  rw [classify_queries database, flowTo, database]

theorem transfers_eq (workload : source.type.isWorkload = true) :
    transfers r source nodes = (nodes.filter (·.type ∈ [.storage])).map (flowTo source) := by
  simp only [transfers, filter_linked workload (.inr rfl), List.mem_singleton]
  refine List.map_congr_left fun target ht => ?_
  have storage := type_eq_of_mem_filter ht
  rw [classify_transfers workload storage, flowTo, storage]

theorem cacheOperations_eq :
    cacheOperations source nodes = (nodes.filter (·.type ∈ [.cache])).map (flowTo source) := by
  simp only [cacheOperations, List.mem_singleton]
  refine List.map_congr_left fun target ht => ?_
  rw [flowTo, type_eq_of_mem_filter ht]

theorem forwards_eq : forwards source nodes =
    (nodes.filter (·.type ∈ [.service, .api, .compute])).map (flowTo source) := by
  have workloads : nodes.filter (·.type.isWorkload) =
      nodes.filter (·.type ∈ [.service, .api, .compute]) := by
    refine List.filter_congr fun t _ => ?_
    rw [Bool.eq_iff_iff, NodeType.isWorkload_iff]
    simp
  rw [forwards, workloads]
  refine List.map_congr_left fun t ht => ?_
  have workload : t.type ∈ [.service, .api, .compute] := by simpa using (List.mem_filter.mp ht).2
  simp only [List.mem_cons, List.not_mem_nil, or_false] at workload
  rcases workload with h | h | h <;> rw [flowTo, h]

theorem ofResource_eq_map (r : Resource) (source : Node) (nodes : List Node) :
    ofResource r source nodes = (targets nodes source).map (flowTo source) := by
  rw [ofResource, targets, List.map_flatMap]
  cases hs : source.type with
  | service | api =>
    have workload : source.type.isWorkload = true := by rw [hs]; rfl
    rw [queries_eq workload, transfers_eq workload, cacheOperations_eq]
    simp [partners, NodeType.isWorkload, NodeType.isSplit]
  | compute =>
    have workload : source.type.isWorkload = true := by rw [hs]; rfl
    rw [queries_eq workload, transfers_eq workload]
    simp [partners, NodeType.isWorkload, NodeType.isSplit]
  | loadBalancer =>
    rw [forwards_eq]
    simp [partners, NodeType.isWorkload, NodeType.isSplit]
  | _ => rfl

theorem mem_targets_iff : target ∈ targets nodes source ↔
    target ∈ nodes ∧ ∃ group ∈ partners source.type, target.type ∈ group := by
  simp only [targets, List.mem_flatMap, List.mem_filter, decide_eq_true_eq]
  constructor
  · rintro ⟨group, hg, hn, ht⟩
    exact ⟨hn, group, hg, ht⟩
  · rintro ⟨hn, group, hg, ht⟩
    exact ⟨group, hg, hn, ht⟩

theorem not_mem_partners (t : NodeType) : ∀ group ∈ partners t, t ∉ group := by
  cases t <;> decide

theorem partners_disjoint (t : NodeType) : (partners t).Pairwise List.Disjoint := by
  cases t <;> simp [partners]

theorem targets_nodup (distinct : nodes.Nodup) (source : Node) : (targets nodes source).Nodup := by
  rw [targets, List.nodup_flatMap]
  refine ⟨fun group _ => distinct.filter _, (partners_disjoint source.type).imp ?_⟩
  intro group other apart
  refine List.disjoint_left.mpr fun t ht ht' => ?_
  have here : t.type ∈ group := by simpa using (List.mem_filter.mp ht).2
  have there : t.type ∈ other := by simpa using (List.mem_filter.mp ht').2
  exact apart here there

end DataFlow

end CloudThreat
