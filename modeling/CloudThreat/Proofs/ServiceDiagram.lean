import CloudThreat.Proofs.FlowEnds
import CloudThreat.Proofs.ResourceNodes

namespace CloudThreat

namespace Diagram

open DataFlow (externalUser externalUserId Exposed entries Joins)

variable {e : Edge}

/-- The node of the users outside, where they are drawn. -/
def users (nodes : List Node) : List Node :=
  if Exposed nodes then [externalUser] else []

/-- One request of the users for each node that they call. -/
def userRequests (nodes : List Node) : List Edge :=
  if Exposed nodes then (entries nodes).map fun n => .request externalUserId n.id else []

theorem ofResources_nodes (resources : List Resource) :
    (ofResources resources).nodes = resourceNodes resources ++ users (resourceNodes resources) := by
  by_cases h : Exposed (resourceNodes resources) <;>
    simp [ofResources, ofNodes, nodesOfResources_nil, DataFlow.fromOutside?_eq, users, h]

theorem ofResources_edges (resources : List Resource) :
    (ofResources resources).edges = DataFlow.detect resources (resourceNodes resources) ++
      userRequests (resourceNodes resources) := by
  by_cases h : Exposed (resourceNodes resources) <;>
    simp [ofResources, ofNodes, nodesOfResources_nil, DataFlow.fromOutside?_eq, userRequests, h]

theorem detect_joins {resources : List Resource} {nodes : List Node}
    (h : e ∈ DataFlow.detect resources nodes) : Joins nodes e :=
  DataFlow.detectFrom_joins h

theorem mem_users_iff {nodes : List Node} {n : Node} :
    n ∈ users nodes ↔ Exposed nodes ∧ n = externalUser := by
  by_cases h : Exposed nodes <;> simp [users, h]

theorem mem_userRequests_iff {nodes : List Node} : e ∈ userRequests nodes ↔
    Exposed nodes ∧ ∃ n ∈ entries nodes, .request externalUserId n.id = e := by
  by_cases h : Exposed nodes <;> simp [userRequests, h]

theorem userRequests_joins {nodes : List Node} (h : e ∈ userRequests nodes) :
    Joins (nodes ++ users nodes) e := by
  obtain ⟨exposed, n, hn, rfl⟩ := mem_userRequests_iff.mp h
  have user : externalUser ∈ nodes ++ users nodes :=
    List.mem_append_right _ (mem_users_iff.mpr ⟨exposed, rfl⟩)
  have target : n ∈ nodes ++ users nodes :=
    List.mem_append_left _ (List.mem_filter.mp hn).1
  exact ⟨List.mem_map_of_mem user, List.mem_map_of_mem target⟩

theorem ofResources_ids_nodup (resources : List Resource) :
    ((ofResources resources).nodes.map Node.id).Nodup := by
  rw [ofResources_nodes, List.map_append]
  refine List.nodup_append.mpr ⟨resourceNodes_ids_nodup resources, ?single, ?apart⟩
  case single =>
    by_cases h : Exposed (resourceNodes resources) <;> simp [users, h]
  case apart =>
    intro id hid other hother same
    obtain ⟨n, hn, rfl⟩ := List.mem_map.mp hid
    obtain ⟨user, hu, rfl⟩ := List.mem_map.mp hother
    obtain ⟨exposed, rfl⟩ := mem_users_iff.mp hu
    exact exposed.2 n hn same

/-- The users have the requests made for them and no other edge. -/
theorem ofResources_edges_of_users {resources : List Resource}
    (exposed : Exposed (resourceNodes resources)) :
    (ofResources resources).edges.filter (fun e => e.source = externalUserId ∨
        e.target = externalUserId) =
      (entries (resourceNodes resources)).map fun n => .request externalUserId n.id := by
  have others : (DataFlow.detect resources (resourceNodes resources)).filter
      (fun e => e.source = externalUserId ∨ e.target = externalUserId) = [] := by
    refine List.filter_eq_nil_iff.mpr fun e he => ?_
    obtain ⟨hs, ht⟩ := detect_joins he
    obtain ⟨source, hsm, hs⟩ := List.mem_map.mp hs
    obtain ⟨target, htm, ht⟩ := List.mem_map.mp ht
    simp [← hs, ← ht, exposed.2 source hsm, exposed.2 target htm]
  rw [ofResources_edges, List.filter_append, others, List.nil_append, userRequests, if_pos exposed]
  refine List.filter_eq_self.mpr fun e he => ?_
  obtain ⟨n, _, rfl⟩ := List.mem_map.mp he
  simp [Edge.request, Edge.new]

/-- What makes a diagram of resources a graph. -/
structure ServiceGraph (resources : List Resource) (d : Diagram) : Prop where
  ids_distinct : (d.nodes.map Node.id).Nodup
  /-- For each id in order of appearance the node of the first resource with it, and the users. -/
  nodes_eq : d.nodes = resourceNodes resources ++
    if Exposed (resourceNodes resources) then [externalUser] else []
  ids_eq : d.nodes.map Node.id = (resources.map NodeId.ofResource).eraseDups ++
    if Exposed (resourceNodes resources) then [externalUserId] else []
  users_edges : Exposed (resourceNodes resources) →
    d.edges.filter (fun e => e.source = externalUserId ∨ e.target = externalUserId) =
      (entries (resourceNodes resources)).map fun n => .request externalUserId n.id
  ends_exist : ∀ e ∈ d.edges, Joins d.nodes e

theorem users_ids (nodes : List Node) :
    (users nodes).map Node.id = if Exposed nodes then [externalUserId] else [] := by
  by_cases h : Exposed nodes <;> simp [users, h, externalUser, Node.new]

theorem ofResources_serviceGraph (resources : List Resource) :
    ServiceGraph resources (ofResources resources) := by
  refine ⟨ofResources_ids_nodup resources, ofResources_nodes resources, ?ids,
    ofResources_edges_of_users, fun e he => ?ends⟩
  case ids => rw [ofResources_nodes, List.map_append, resourceNodes_ids, users_ids]
  rw [ofResources_edges] at he
  rw [ofResources_nodes]
  rcases List.mem_append.mp he with he | he
  · exact (detect_joins he).mono (List.subset_append_left _ _)
  · exact userRequests_joins he

/-- A public service, twice with one id, and the database behind it. -/
def webStack : List Resource :=
  [.new "aws_ecs_service" "app" (.obj [("associate_public_ip_address", .bool true)]),
    .new "aws_db_instance" "users" (.obj []),
    { Resource.new "aws_s3_bucket" "b" (.obj []) with id := some "aws_ecs_service_app" }]

theorem webStack_serviceGraph :
    Exposed (resourceNodes webStack) ∧
    (ofResources webStack).nodes.map Node.id =
      ["aws_ecs_service_app", "aws_db_instance_users", "external_user"] ∧
    ((ofResources webStack).edges.filter (fun e => e.source = externalUserId ∨
      e.target = externalUserId)).map Edge.target = ["aws_ecs_service_app"] := by
  have exposed : Exposed (resourceNodes webStack) := by decide +kernel
  have graph := ofResources_serviceGraph webStack
  refine ⟨exposed, ?ids, ?calls⟩
  case ids =>
    rw [graph.ids_eq, if_pos exposed]
    decide +kernel
  case calls =>
    rw [graph.users_edges exposed]
    decide +kernel

end Diagram

end CloudThreat
