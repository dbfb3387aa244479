import CloudThreat.Proofs.FlowTargets

namespace CloudThreat

/-- Where ids are distinct, the node with an id is the only one. -/
theorem Node.find?_eq_some_iff {nodes : List Node} {n : Node} {id : String}
    (distinct : (nodes.map Node.id).Nodup) :
    nodes.find? (·.id = id) = some n ↔ n ∈ nodes ∧ n.id = id := by
  constructor
  · intro h
    exact ⟨List.mem_of_find?_eq_some h, by simpa using List.find?_some h⟩
  · rintro ⟨hn, rfl⟩
    have found : (nodes.find? (·.id = n.id)).isSome = true :=
      List.find?_isSome.mpr ⟨n, hn, by simp⟩
    obtain ⟨first, hf⟩ := Option.isSome_iff_exists.mp found
    have same : first.id = n.id := by simpa using List.find?_some hf
    rw [hf, List.inj_on_of_nodup_map distinct (List.mem_of_find?_eq_some hf) hn same]

/-- Where ids are distinct, looking up the id of a node gives that node. -/
theorem Diagram.node?_of_mem {d : Diagram} {n : Node} (distinct : (d.nodes.map Node.id).Nodup)
    (h : n ∈ d.nodes) : d.node? n.id = some n :=
  (Node.find?_eq_some_iff distinct).mpr ⟨h, rfl⟩

namespace DataFlow

variable {nodes : List Node} {e : Edge}

/-- Both ends of an edge are ids of nodes. -/
def Joins (nodes : List Node) (e : Edge) : Prop :=
  e.source ∈ nodes.map Node.id ∧ e.target ∈ nodes.map Node.id

theorem Joins.mono {more : List Node} (h : Joins nodes e) (sub : nodes ⊆ more) : Joins more e :=
  ⟨List.map_subset _ sub h.1, List.map_subset _ sub h.2⟩

theorem ofResource_joins {r : Resource} {source : Node} (hs : source ∈ nodes)
    (h : e ∈ ofResource r source nodes) : Joins nodes e := by
  rw [ofResource_eq_map] at h
  obtain ⟨target, ht, rfl⟩ := List.mem_map.mp h
  rw [Joins, flowTo_ends.1, flowTo_ends.2]
  exact ⟨List.mem_map_of_mem hs, List.mem_map_of_mem (mem_targets_iff.mp ht).1⟩

theorem lastNode?_mem {id : String} {n : Node} (h : lastNode? nodes id = some n) : n ∈ nodes :=
  List.mem_reverse.mp (List.mem_of_find?_eq_some h)

theorem detectFrom_joins {visited : List String} {resources : List Resource}
    (h : e ∈ detectFrom nodes visited resources) : Joins nodes e := by
  induction resources generalizing visited with
  | nil => simp [detectFrom] at h
  | cons r rest ih =>
    simp only [detectFrom] at h
    split at h
    next => exact ih h
    next source hl =>
      split at h
      next => exact ih h
      next =>
        rcases List.mem_append.mp h with h | h
        · exact ofResource_joins (lastNode?_mem hl) h
        · exact ih h

/-- Users are drawn when some node is public and none has the id of the users. -/
def Exposed (nodes : List Node) : Prop :=
  (∃ n ∈ nodes, n.boundary = some .internet ∨ n.boundary = some .dmz) ∧
    ∀ n ∈ nodes, n.id ≠ externalUserId

instance : Decidable (Exposed nodes) :=
  inferInstanceAs (Decidable (_ ∧ _))

/-- The public nodes that users call. -/
def entries (nodes : List Node) : List Node :=
  nodes.filter fun n => (n.boundary = some .internet ∨ n.boundary = some .dmz) ∧
    (n.type = .service ∨ n.type = .api ∨ n.type = .loadBalancer)

theorem isPublic_iff {n : Node} :
    n.isPublic = true ↔ n.boundary = some .internet ∨ n.boundary = some .dmz := by
  rcases hb : n.boundary with _ | b
  · simp [Node.isPublic, hb]
  · cases b <;> simp [Node.isPublic, hb, TrustBoundary.isPublic]

theorem isEntry_iff {n : Node} :
    isEntry n = true ↔ n.type = .service ∨ n.type = .api ∨ n.type = .loadBalancer := by
  cases ht : n.type <;> simp [isEntry, ht]

theorem fromOutside?_eq (nodes : List Node) : fromOutside? nodes =
    if Exposed nodes then
      some (externalUser, (entries nodes).map fun n => .request externalUserId n.id)
    else none := by
  have called : (nodes.filter Node.isPublic).filter isEntry = entries nodes := by
    rw [List.filter_filter]
    refine List.filter_congr fun n _ => ?_
    rw [Bool.eq_iff_iff, Bool.and_eq_true, isPublic_iff, isEntry_iff, decide_eq_true_iff, and_comm]
  have silent : ((nodes.filter Node.isPublic).isEmpty ||
      nodes.any (·.id = externalUserId)) = true ↔ ¬ Exposed nodes := by
    simp only [Exposed, ← isPublic_iff]
    simp [List.filter_eq_nil_iff, imp_iff_not_or]
  simp only [fromOutside?, called]
  rw [if_congr silent rfl rfl, ite_not]

end DataFlow

end CloudThreat
