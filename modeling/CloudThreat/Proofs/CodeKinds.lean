import CloudThreat.Proofs.CodeGraph

namespace CloudThreat

namespace CodeUse

theorem nodeType_injective : Function.Injective nodeType := by
  intro u v h
  cases u <;> cases v <;> first | rfl | cases h

/-- The label of an edge that stands for such a use. -/
def label : CodeUse → String
  | call => "calls"
  | request => "API call"
  | query => "query"

theorem label_injective : Function.Injective label := by
  intro u v h
  cases u <;> cases v <;> first | rfl | exact absurd h (by decide)

theorem edge_label (u : CodeUse) (source target : String) :
    (u.edge source target).label = u.label := by
  cases u <;> rfl

end CodeUse

theorem CodeFlow.mem_uses_request_iff {f : CodeFlow} {name : String} :
    (.request, name) ∈ f.uses ↔ name ∈ f.externalApis := by
  simp [CodeFlow.uses]

theorem CodeFlow.mem_uses_query_iff {f : CodeFlow} {name : String} :
    (.query, name) ∈ f.uses ↔ name ∈ f.dataAccess := by
  simp [CodeFlow.uses]

/-- The first use of an id in a flow. The function of the flow counts as called. -/
def CodeFlow.useOf? (f : CodeFlow) (id : String) : Option CodeUse :=
  if Diagram.functionId f.function = id then some .call
  else (f.uses.find? fun u => Diagram.functionId u.2 = id).map Prod.fst

namespace Diagram

variable {flows : List CodeFlow} {f : CodeFlow} {n : Node} {e : Edge} {u : CodeUse} {id : String}

/-- The first use of an id in all flows. -/
def firstUse? (flows : List CodeFlow) (id : String) : Option CodeUse :=
  flows.findSome? fun f => f.useOf? id

/-- The node is of the kind of things that are used in a way. -/
def IsUsedAs (u : CodeUse) (n : Node) : Prop :=
  n.type = u.nodeType ∧ n.boundary = some u.boundary

theorem nodesOfFlow_find?_used (h : (nodesOfFlow f).find? (·.id = id) = some n) :
    ∃ u, f.useOf? id = some u ∧ IsUsedAs u n := by
  rw [nodesOfFlow_find?] at h
  rw [CodeFlow.useOf?]
  split at h
  next own =>
    cases h
    exact ⟨.call, if_pos own, rfl, rfl⟩
  next other =>
    obtain ⟨u, hu, rfl⟩ := Option.map_eq_some_iff.mp h
    rw [if_neg other, hu]
    exact ⟨u.1, rfl, rfl, rfl⟩

theorem nodesOfFlow_find?_eq_none_iff :
    (nodesOfFlow f).find? (·.id = id) = none ↔ f.useOf? id = none := by
  rw [nodesOfFlow_find?, CodeFlow.useOf?]
  split <;> simp

/-- A node is of the kind of the first use of its id. -/
theorem firstUse?_of_node? (h : (ofCodeFlows flows).node? id = some n) :
    ∃ u, firstUse? flows id = some u ∧ IsUsedAs u n := by
  rw [ofCodeFlows_node?] at h
  obtain ⟨before, f, after, rfl, hn, absent⟩ := List.findSome?_eq_some_iff.mp h
  obtain ⟨u, hu, kind⟩ := nodesOfFlow_find?_used hn
  refine ⟨u, List.findSome?_eq_some_iff.mpr ⟨before, f, after, rfl, hu, ?_⟩, kind⟩
  exact fun g hg => nodesOfFlow_find?_eq_none_iff.mp (absent g hg)

theorem exists_node_of_firstUse? (h : firstUse? flows id = some u) :
    ∃ n ∈ (ofCodeFlows flows).nodes, n.id = id ∧ IsUsedAs u n := by
  rcases hn : (ofCodeFlows flows).node? id with _ | n
  · rw [ofCodeFlows_node?, List.findSome?_eq_none_iff] at hn
    have unused : firstUse? flows id = none :=
      List.findSome?_eq_none_iff.mpr fun f hf => nodesOfFlow_find?_eq_none_iff.mp (hn f hf)
    cases h.symm.trans unused
  · obtain ⟨v, hv, kind⟩ := firstUse?_of_node? hn
    obtain rfl := Option.some.inj (h.symm.trans hv)
    obtain ⟨mem, same⟩ := (Node.find?_eq_some_iff (ofCodeFlows_ids_nodup flows)).mp hn
    exact ⟨n, mem, same, kind⟩

theorem exists_node_iff : (∃ n ∈ (ofCodeFlows flows).nodes, n.id = id ∧ n.type = u.nodeType) ↔
    firstUse? flows id = some u := by
  constructor
  · rintro ⟨n, hn, rfl, type⟩
    obtain ⟨v, hv, kind⟩ := firstUse?_of_node? (node?_of_mem (ofCodeFlows_ids_nodup flows) hn)
    rw [hv, CodeUse.nodeType_injective (type.symm.trans kind.1)]
  · intro h
    obtain ⟨n, hn, same, kind⟩ := exists_node_of_firstUse? h
    exact ⟨n, hn, same, kind.1⟩

/-- An edge with the label of a use stands for such a use of some name. -/
theorem exists_use_of_label (he : e ∈ (ofCodeFlows flows).edges) (hl : e.label = u.label) :
    ∃ f ∈ flows, ∃ name, (u, name) ∈ f.uses ∧ e.target = functionId name := by
  rw [ofCodeFlows_edges] at he
  obtain ⟨f, hf, he⟩ := List.mem_flatMap.mp he
  obtain ⟨⟨v, name⟩, hv, rfl⟩ := List.mem_map.mp he
  rw [CodeUse.edge_label] at hl
  obtain rfl := CodeUse.label_injective hl
  exact ⟨f, hf, name, hv, (edge_ends _ _ _).2⟩

/-- The edges for requests are as many as the external parties that are named. -/
theorem request_edges_length (flows : List CodeFlow) :
    ((ofCodeFlows flows).edges.filter (·.label = "API call")).length =
      (flows.flatMap CodeFlow.externalApis).length := by
  have each : ∀ f : CodeFlow,
      ((edgesOfFlow f).filter (·.label = "API call")).length = f.externalApis.length := by
    intro f
    simp [edgesOfFlow, List.filter_map, Function.comp_def, Edge.new]
  have all : (ofCodeFlows flows).edges.filter (·.label = "API call") =
      flows.flatMap fun f => (edgesOfFlow f).filter (·.label = "API call") := List.filter_flatMap
  rw [all, List.length_flatMap, List.length_flatMap]
  simp only [each]

/-- Every edge for a request ends at an external party on the internet and every edge for a query at
a restricted database, the external connections count all requests, and each external party and each
store that is named has a node of its own type. -/
structure EndsInKind (flows : List CodeFlow) (d : Diagram) : Prop where
  requests : ∀ e ∈ d.edges, e.label = "API call" →
    ∃ n ∈ d.nodes, n.id = e.target ∧ n.type = .external ∧ n.boundary = some .internet
  queries : ∀ e ∈ d.edges, e.label = "query" →
    ∃ n ∈ d.nodes, n.id = e.target ∧ n.type = .database ∧ n.boundary = some .restricted
  connections : (d.externalConnections.filter (·.label = "API call")).length =
    (flows.flatMap CodeFlow.externalApis).length
  parties : ∀ f ∈ flows, ∀ name ∈ f.externalApis,
    ∃ n ∈ d.nodes, n.id = functionId name ∧ n.type = .external
  stores : ∀ f ∈ flows, ∀ name ∈ f.dataAccess,
    ∃ n ∈ d.nodes, n.id = functionId name ∧ n.type = .database

/-- The id of each external party is first used in a request, and that of each store in a query. -/
structure FirstInKind (flows : List CodeFlow) : Prop where
  requests : ∀ f ∈ flows, ∀ name ∈ f.externalApis,
    firstUse? flows (functionId name) = some .request
  queries : ∀ f ∈ flows, ∀ name ∈ f.dataAccess,
    firstUse? flows (functionId name) = some .query

/-- A use ends at a node of its kind if each id that is used in this way is first used so. -/
theorem exists_target (he : e ∈ (ofCodeFlows flows).edges) (hl : e.label = u.label)
    (first : ∀ f ∈ flows, ∀ name, (u, name) ∈ f.uses →
      firstUse? flows (functionId name) = some u) :
    ∃ n ∈ (ofCodeFlows flows).nodes, n.id = e.target ∧ IsUsedAs u n := by
  obtain ⟨f, hf, name, used, target⟩ := exists_use_of_label he hl
  rw [target]
  exact exists_node_of_firstUse? (first f hf name used)

theorem FirstInKind.endsInKind (h : FirstInKind flows) : EndsInKind flows (ofCodeFlows flows) := by
  have requests : ∀ f ∈ flows, ∀ name, (CodeUse.request, name) ∈ f.uses →
      firstUse? flows (functionId name) = some .request :=
    fun f hf name used => h.requests f hf name (CodeFlow.mem_uses_request_iff.mp used)
  have queries : ∀ f ∈ flows, ∀ name, (CodeUse.query, name) ∈ f.uses →
      firstUse? flows (functionId name) = some .query :=
    fun f hf name used => h.queries f hf name (CodeFlow.mem_uses_query_iff.mp used)
  refine ⟨?requests, ?queries, ?connections, ?parties, ?stores⟩
  case requests => exact fun e he hl => exists_target (u := .request) he hl requests
  case queries => exact fun e he hl => exists_target (u := .query) he hl queries
  case connections =>
    rw [← request_edges_length, externalConnections, List.filter_filter]
    refine congrArg List.length (List.filter_congr fun e he => ?_)
    by_cases hl : e.label = "API call"
    · obtain ⟨n, hn, same, kind⟩ := exists_target (u := .request) he hl requests
      have found := node?_of_mem (ofCodeFlows_ids_nodup flows) hn
      rw [same] at found
      simp [hl, isExternal, found, kind.1, CodeUse.nodeType]
    · simp [hl]
  case parties => exact fun f hf name hn => exists_node_iff.mpr (h.requests f hf name hn)
  case stores => exact fun f hf name hn => exists_node_iff.mpr (h.queries f hf name hn)

/-- Every node is of the kind of the first use of its id. So edges end at nodes of their kind just
where each id of an external party is first used in a request and each id of a store in a query. -/
theorem ofCodeFlows_endsInKind_iff (flows : List CodeFlow) :
    (∀ n ∈ (ofCodeFlows flows).nodes, ∃ u, firstUse? flows n.id = some u ∧
      n.type = u.nodeType ∧ n.boundary = some u.boundary) ∧
    (EndsInKind flows (ofCodeFlows flows) ↔ FirstInKind flows) := by
  refine ⟨fun n hn => firstUse?_of_node? (node?_of_mem (ofCodeFlows_ids_nodup flows) hn), ?_⟩
  refine ⟨fun h => ⟨?_, ?_⟩, FirstInKind.endsInKind⟩
  · exact fun f hf name hn => exists_node_iff.mp (h.parties f hf name hn)
  · exact fun f hf name hn => exists_node_iff.mp (h.stores f hf name hn)

/-- A function that calls its own wrapper of a party on the internet. -/
def wrappedParty : List CodeFlow :=
  [⟨"charge", ["stripe_com"], ["stripe.com"], []⟩]

theorem wrapper_hides_party : ¬ ∀ flows, EndsInKind flows (ofCodeFlows flows) := by
  intro h
  have party := (h wrappedParty).parties _ List.mem_cons_self "stripe.com" List.mem_cons_self
  exact absurd party (by decide)

end Diagram

end CloudThreat
