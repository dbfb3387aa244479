import CloudThreat.DiagramLevels
import CloudThreat.Proofs.FirstOccurrences

namespace CloudThreat

namespace Diagram

variable {resources : List Resource}

/-- The node of the first resource with an id. -/
def nodeOfId? (resources : List Resource) (id : String) : Option Node :=
  (resources.find? (NodeId.ofResource · = id)).map nodeOfResource

/-- The nodes of the ids in use, in the order in which the ids first appear. -/
def resourceNodes (resources : List Resource) : List Node :=
  (resources.map NodeId.ofResource).eraseDups.filterMap (nodeOfId? resources)

theorem nodeOfId?_id {id : String} {n : Node} (h : nodeOfId? resources id = some n) :
    n.id = id := by
  obtain ⟨r, hr, rfl⟩ := Option.map_eq_some_iff.mp h
  simpa [nodeOfResource] using List.find?_some hr

theorem nodeOfId?_isSome {id : String} (h : id ∈ resources.map NodeId.ofResource) :
    ∃ n, nodeOfId? resources id = some n := by
  obtain ⟨r, hr, he⟩ := List.mem_map.mp h
  have hf : (resources.find? (NodeId.ofResource · = id)).isSome = true :=
    List.find?_isSome.mpr ⟨r, hr, by simpa using he⟩
  obtain ⟨first, hf⟩ := Option.isSome_iff_exists.mp hf
  exact ⟨nodeOfResource first, by rw [nodeOfId?, hf, Option.map_some]⟩

theorem nodeOfId?_cons_self (r : Resource) :
    nodeOfId? (r :: resources) (NodeId.ofResource r) = some (nodeOfResource r) := by
  simp [nodeOfId?]

theorem nodeOfId?_cons_of_ne {r : Resource} {id : String} (h : NodeId.ofResource r ≠ id) :
    nodeOfId? (r :: resources) id = nodeOfId? resources id := by
  simp [nodeOfId?, h]

/-- A resource whose id is not asked for changes nothing. -/
theorem filterMap_nodeOfId?_cons {r : Resource} {ids : List String}
    (h : NodeId.ofResource r ∉ ids) :
    ids.filterMap (nodeOfId? (r :: resources)) = ids.filterMap (nodeOfId? resources) := by
  refine List.filterMap_congr fun id hid => nodeOfId?_cons_of_ne ?_
  rintro rfl
  exact h hid

theorem nodesOfResources_eq (seen : List String) (resources : List Resource) :
    nodesOfResources seen resources =
      ((resources.map NodeId.ofResource).filter (· ∉ seen)).eraseDups.filterMap
        (nodeOfId? resources) := by
  induction resources generalizing seen with
  | nil => simp [nodesOfResources]
  | cons r rest ih =>
    have hid : (nodeOfResource r).id = NodeId.ofResource r := rfl
    by_cases hs : NodeId.ofResource r ∈ seen
    · have left : NodeId.ofResource r ∉
          ((rest.map NodeId.ofResource).filter (· ∉ seen)).eraseDups := by
        simp [hs]
      rw [List.map_cons, List.filter_cons_of_neg (by simpa using hs),
        filterMap_nodeOfId?_cons left, ← ih]
      simp [nodesOfResources, hid, hs]
    · have left : NodeId.ofResource r ∉
          ((rest.map NodeId.ofResource).filter (· ∉ NodeId.ofResource r :: seen)).eraseDups := by
        simp
      rw [List.map_cons, List.filter_cons_of_pos (by simpa using hs), List.eraseDups_cons,
        filter_unseen_filter_ne, List.filterMap_cons_some (nodeOfId?_cons_self r),
        filterMap_nodeOfId?_cons left, ← ih]
      simp [nodesOfResources, hid, hs]

theorem nodesOfResources_nil (resources : List Resource) :
    nodesOfResources [] resources = resourceNodes resources := by
  have all : (resources.map NodeId.ofResource).filter (· ∉ []) = resources.map NodeId.ofResource :=
    List.filter_eq_self.mpr (by simp)
  rw [nodesOfResources_eq, all, resourceNodes]

theorem resourceNodes_ids (resources : List Resource) :
    (resourceNodes resources).map Node.id = (resources.map NodeId.ofResource).eraseDups := by
  have named : ∀ id ∈ (resources.map NodeId.ofResource).eraseDups,
      (nodeOfId? resources id).map Node.id = some id := by
    intro id hid
    obtain ⟨n, hn⟩ := nodeOfId?_isSome (List.mem_eraseDups.mp hid)
    rw [hn, Option.map_some, nodeOfId?_id hn]
  rw [resourceNodes, List.map_filterMap, List.filterMap_congr named, List.filterMap_some]

theorem resourceNodes_ids_nodup (resources : List Resource) :
    ((resourceNodes resources).map Node.id).Nodup := by
  rw [resourceNodes_ids]
  exact eraseDups_nodup _

end Diagram

end CloudThreat
