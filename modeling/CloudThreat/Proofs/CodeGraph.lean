import CloudThreat.DiagramLevels
import CloudThreat.Proofs.DistinctKeys
import CloudThreat.Proofs.FirstOccurrences
import CloudThreat.Proofs.FlowEnds
import CloudThreat.Proofs.RecordReading

namespace CloudThreat

/-- How a function uses what its flow names. -/
inductive CodeUse where
  | call
  | request
  | query
deriving DecidableEq

namespace CodeUse

/-- The type of a node that is used in this way. -/
def nodeType : CodeUse → NodeType
  | call => .function
  | request => .external
  | query => .database

theorem nodeType_mem (u : CodeUse) :
    u.nodeType ∈ [NodeType.function, NodeType.external, NodeType.database] := by
  cases u <;> decide

/-- The zone of a node that is used in this way. -/
def boundary : CodeUse → TrustBoundary
  | call => .internal
  | request => .internet
  | query => .restricted

def edge (source target : String) : CodeUse → Edge
  | call => .new source target "calls" "Internal" false .internal
  | request => .new source target "API call" "HTTPS" true .open_
  | query => .new source target "query" "SQL" false .confidential

end CodeUse

namespace CodeFlow

/-- What a function uses: what it calls, then what it requests, then what it queries. -/
def uses (f : CodeFlow) : List (CodeUse × String) :=
  f.calls.map (.call, ·) ++ f.externalApis.map (.request, ·) ++ f.dataAccess.map (.query, ·)

/-- The function and all that it uses. -/
def names (f : CodeFlow) : List String :=
  f.function :: (f.calls ++ f.externalApis ++ f.dataAccess)

theorem names_eq (f : CodeFlow) : f.names = f.function :: f.uses.map Prod.snd := by
  simp [names, uses, Function.comp_def]

end CodeFlow

namespace Diagram

open DataFlow (Joins)

variable {flows : List CodeFlow} {f : CodeFlow} {id : String}

/-- The node of a function with the record of its flow. -/
def recordNode (f : CodeFlow) : Node :=
  { codeNode f.function .function .internal with properties := f.toJson }

/-- The node of something that a function uses. -/
def usedNode (u : CodeUse × String) : Node :=
  codeNode u.2 u.1.nodeType u.1.boundary

theorem nodesOfFlow_eq (f : CodeFlow) : nodesOfFlow f = recordNode f :: f.uses.map usedNode := by
  simp [nodesOfFlow, CodeFlow.uses, recordNode, Function.comp_def, usedNode, CodeUse.nodeType,
    CodeUse.boundary]

theorem edgesOfFlow_eq (f : CodeFlow) : edgesOfFlow f =
    f.uses.map fun u => u.1.edge (functionId f.function) (functionId u.2) := by
  simp [edgesOfFlow, CodeFlow.uses, Function.comp_def, CodeUse.edge]

theorem nodesOfFlow_ids (f : CodeFlow) : (nodesOfFlow f).map Node.id = f.names.map functionId := by
  rw [nodesOfFlow_eq, CodeFlow.names_eq, List.map_cons, List.map_cons, List.map_map, List.map_map]
  rfl

/-- The first node of a flow with an id: that of its function, or of the first use of the id. -/
theorem nodesOfFlow_find? (f : CodeFlow) (id : String) : (nodesOfFlow f).find? (·.id = id) =
    if functionId f.function = id then some (recordNode f)
    else (f.uses.find? fun u => functionId u.2 = id).map usedNode := by
  rw [nodesOfFlow_eq, List.find?_cons, List.find?_map]
  by_cases own : functionId f.function = id
  · rw [if_pos own, show decide ((recordNode f).id = id) = true from decide_eq_true own]
  · rw [if_neg own, show decide ((recordNode f).id = id) = false from decide_eq_false own]
    rfl

/-- After a node is added, the node with an id is the first one of all so far. -/
theorem addNode_find? (nodes : List Node) (n : Node) (id : String) :
    (addNode nodes n).find? (·.id = id) = (nodes ++ [n]).find? (·.id = id) := by
  rw [addNode]
  split
  next taken =>
    rw [List.find?_append]
    by_cases same : n.id = id
    · obtain ⟨first, hf⟩ : ∃ first, nodes.find? (·.id = id) = some first := by
        rw [← Option.isSome_iff_exists, List.find?_isSome]
        simpa [same] using taken
      rw [hf, Option.some_or]
    · simp [same]
  next => rfl

theorem foldl_addNode_find? (nodes ns : List Node) (id : String) :
    (ns.foldl addNode nodes).find? (·.id = id) = (nodes ++ ns).find? (·.id = id) := by
  induction ns generalizing nodes with
  | nil => rw [List.foldl_nil, List.append_nil]
  | cons n ns ih =>
    rw [List.foldl_cons, ih, List.find?_append, addNode_find?, ← List.find?_append,
      List.append_assoc, List.singleton_append]

theorem foldl_addNode_ids (ns : List Node) :
    (ns.foldl addNode []).map Node.id = (ns.map Node.id).eraseDups := by
  induction ns using List.reverseRecOn with
  | nil => rfl
  | append_singleton ns n ih =>
    have taken : (ns.foldl addNode []).any (·.id = n.id) = true ↔ n.id ∈ ns.map Node.id := by
      rw [← List.mem_eraseDups, ← ih]
      simp
    rw [List.foldl_concat, List.map_append, List.map_singleton, addNode]
    by_cases h : n.id ∈ ns.map Node.id
    · rw [if_pos (taken.mpr h), ih, eraseDups_concat_of_mem h]
    · rw [if_neg fun ht => h (taken.mp ht), List.map_append, List.map_singleton, ih,
        eraseDups_concat_of_not_mem h]

/-- The node with an id is the first one that some flow calls for. -/
theorem ofCodeFlows_node? (flows : List CodeFlow) (id : String) :
    (ofCodeFlows flows).node? id =
      flows.findSome? fun f => (nodesOfFlow f).find? (·.id = id) := by
  rw [← List.find?_flatMap]
  exact foldl_addNode_find? [] (flows.flatMap nodesOfFlow) id

theorem ofCodeFlows_ids (flows : List CodeFlow) :
    (ofCodeFlows flows).nodes.map Node.id =
      ((flows.flatMap CodeFlow.names).map functionId).eraseDups := by
  have ids : (flows.flatMap nodesOfFlow).map Node.id =
      (flows.flatMap CodeFlow.names).map functionId := by
    rw [List.map_flatMap, List.map_flatMap]
    exact List.flatMap_congr fun f _ => nodesOfFlow_ids f
  rw [← ids]
  exact foldl_addNode_ids _

theorem ofCodeFlows_ids_nodup (flows : List CodeFlow) :
    ((ofCodeFlows flows).nodes.map Node.id).Nodup := by
  rw [ofCodeFlows_ids]
  exact eraseDups_nodup _

theorem mem_ofCodeFlows_ids_iff : id ∈ (ofCodeFlows flows).nodes.map Node.id ↔
    ∃ f ∈ flows, ∃ name ∈ f.names, functionId name = id := by
  rw [ofCodeFlows_ids, List.mem_eraseDups, List.mem_map]
  simp only [List.mem_flatMap]
  constructor
  · rintro ⟨name, ⟨f, hf, hn⟩, rfl⟩
    exact ⟨f, hf, name, hn, rfl⟩
  · rintro ⟨f, hf, name, hn, rfl⟩
    exact ⟨name, ⟨f, hf, hn⟩, rfl⟩

theorem edge_ends (u : CodeUse) (source target : String) :
    (u.edge source target).source = source ∧ (u.edge source target).target = target := by
  cases u <;> exact ⟨rfl, rfl⟩

theorem ofCodeFlows_edges (flows : List CodeFlow) : (ofCodeFlows flows).edges =
    flows.flatMap fun f => f.uses.map fun u =>
      u.1.edge (functionId f.function) (functionId u.2) :=
  List.flatMap_congr fun f _ => edgesOfFlow_eq f

theorem ofCodeFlows_joins {e : Edge} (h : e ∈ (ofCodeFlows flows).edges) :
    Joins (ofCodeFlows flows).nodes e := by
  rw [ofCodeFlows_edges] at h
  obtain ⟨f, hf, he⟩ := List.mem_flatMap.mp h
  obtain ⟨u, hu, rfl⟩ := List.mem_map.mp he
  have used : u.2 ∈ f.names := by
    rw [CodeFlow.names_eq]
    exact List.mem_cons_of_mem _ (List.mem_map_of_mem hu)
  have caller : f.function ∈ f.names := List.mem_cons_self
  rw [Joins, (edge_ends _ _ _).1, (edge_ends _ _ _).2]
  exact ⟨mem_ofCodeFlows_ids_iff.mpr ⟨f, hf, _, caller, rfl⟩,
    mem_ofCodeFlows_ids_iff.mpr ⟨f, hf, _, used, rfl⟩⟩

theorem type_of_mem_nodesOfFlow {n : Node} (h : n ∈ nodesOfFlow f) :
    n.type ∈ [NodeType.function, NodeType.external, NodeType.database] := by
  rw [nodesOfFlow_eq] at h
  rcases List.mem_cons.mp h with rfl | h
  · exact List.mem_cons_self
  · obtain ⟨u, _, rfl⟩ := List.mem_map.mp h
    exact u.1.nodeType_mem

theorem exists_flow_of_node? {n : Node} (h : (ofCodeFlows flows).node? id = some n) :
    ∃ f ∈ flows, (nodesOfFlow f).find? (·.id = id) = some n := by
  rw [ofCodeFlows_node?] at h
  exact List.exists_of_findSome?_eq_some h

theorem exists_flow_of_mem {n : Node} (h : n ∈ (ofCodeFlows flows).nodes) :
    ∃ f ∈ flows, n ∈ nodesOfFlow f := by
  obtain ⟨f, hf, hn⟩ := exists_flow_of_node? (node?_of_mem (ofCodeFlows_ids_nodup flows) h)
  exact ⟨f, hf, List.mem_of_find?_eq_some hn⟩

/-- Functions, external parties and stores are all nodes that there are. -/
theorem ofCodeFlows_nodes_length (flows : List CodeFlow) :
    ((ofCodeFlows flows).nodesOfType .function).length +
        ((ofCodeFlows flows).nodesOfType .external).length +
        ((ofCodeFlows flows).nodesOfType .database).length =
      (ofCodeFlows flows).nodes.length := by
  have covered : ∀ n ∈ (ofCodeFlows flows).nodes,
      n.type ∈ [NodeType.function, NodeType.external, NodeType.database] := by
    intro n hn
    obtain ⟨f, _, hn⟩ := exists_flow_of_mem hn
    exact type_of_mem_nodesOfFlow hn
  have gathered := (flatMap_filter_perm (by decide) covered).length_eq
  simpa [nodesOfType, Nat.add_assoc] using gathered

theorem codeMetadata_find? (nodes : List Node) :
    JsonObject.find? (codeMetadata nodes) "function_count" =
        some (Json.ofNat (nodes.filter (·.type = .function)).length) ∧
      JsonObject.find? (codeMetadata nodes) "external_dependencies" =
        some (Json.ofNat (nodes.filter (·.type = .external)).length) :=
  ⟨JsonObject.get?_object (by simp) rfl, JsonObject.get?_object (by simp) rfl⟩

/-- A graph of code flows: a node for each id of a name, an edge from node to node for each use of
a name, and in the metadata numbers that add up to the nodes with those of the stores. -/
structure CodeGraph (flows : List CodeFlow) (d : Diagram) : Prop where
  ids_nodup : (d.nodes.map Node.id).Nodup
  mem_ids_iff : ∀ id, id ∈ d.nodes.map Node.id ↔
    ∃ f ∈ flows, ∃ name ∈ f.names, functionId name = id
  edges_eq : d.edges = flows.flatMap fun f => f.uses.map fun u =>
    u.1.edge (functionId f.function) (functionId u.2)
  joins : ∀ e ∈ d.edges, Joins d.nodes e
  counts : ∃ functions externals,
    JsonObject.find? d.metadata "function_count" = some (Json.ofNat functions) ∧
    JsonObject.find? d.metadata "external_dependencies" = some (Json.ofNat externals) ∧
    functions + externals + (d.nodesOfType .database).length = d.nodes.length

theorem ofCodeFlows_codeGraph (flows : List CodeFlow) : CodeGraph flows (ofCodeFlows flows) where
  ids_nodup := ofCodeFlows_ids_nodup flows
  mem_ids_iff _ := mem_ofCodeFlows_ids_iff
  edges_eq := ofCodeFlows_edges flows
  joins _ := ofCodeFlows_joins
  counts := by
    obtain ⟨functions, externals⟩ := codeMetadata_find? (ofCodeFlows flows).nodes
    exact ⟨_, _, functions, externals, ofCodeFlows_nodes_length flows⟩

end Diagram

end CloudThreat
