import CloudThreat.DiagramLevels

namespace CloudThreat

namespace Diagram

/-- Where an end goes when the ids are replaced in turn, each by itself with a suffix. -/
def moved (suffix : String) (ids : List String) (place : String) : String :=
  ids.foldl (fun current id => if current = id then id ++ suffix else current) place

/-- The ids of the nodes that are split. -/
def splitIds (d : Diagram) : List String :=
  (d.nodes.filter (·.type.isSplit)).map Node.id

/-- Where an end goes when all ids are replaced at once. -/
def movedOnce (suffix : String) (ids : List String) (place : String) : String :=
  if place ∈ ids then place ++ suffix else place

variable {suffix place : String} {ids : List String}

theorem moved_cons_self :
    moved suffix (place :: ids) place = moved suffix ids (place ++ suffix) := by
  simp [moved]

theorem moved_cons_of_ne {id : String} (h : place ≠ id) :
    moved suffix (id :: ids) place = moved suffix ids place := by
  simp [moved, h]

theorem moved_of_not_mem (h : place ∉ ids) : moved suffix ids place = place := by
  induction ids with
  | nil => rfl
  | cons id rest ih =>
    obtain ⟨hne, hrest⟩ := List.ne_and_not_mem_of_not_mem_cons h
    rw [moved_cons_of_ne hne, ih hrest]

/-- An end only ever gets longer, so that it never comes back. -/
theorem length_le_moved (suffix : String) (ids : List String) (place : String) :
    place.length ≤ (moved suffix ids place).length := by
  induction ids generalizing place with
  | nil => exact Nat.le_refl _
  | cons id rest ih =>
    by_cases h : place = id
    · subst h
      have hl := ih (place ++ suffix)
      rw [String.length_append] at hl
      rw [moved_cons_self]
      omega
    · rw [moved_cons_of_ne h]
      exact ih place

theorem moved_eq_self_iff (nonempty : 0 < suffix.length) :
    moved suffix ids place = place ↔ place ∉ ids := by
  refine ⟨fun h hm => ?_, moved_of_not_mem⟩
  induction ids with
  | nil => simp at hm
  | cons id rest ih =>
    by_cases he : place = id
    · subst he
      have hl := length_le_moved suffix rest (place ++ suffix)
      rw [← moved_cons_self, h, String.length_append] at hl
      omega
    · rw [moved_cons_of_ne he] at h
      exact ih h ((List.mem_cons.mp hm).resolve_left he)

/-- Replacing in turn differs from replacing at once just where a later id is the new place. -/
theorem moved_eq_movedOnce_iff (nonempty : 0 < suffix.length) :
    moved suffix ids place = movedOnce suffix ids place ↔
      ¬ [place, place ++ suffix].Sublist ids := by
  induction ids with
  | nil => simp [moved, movedOnce]
  | cons id rest ih =>
    by_cases he : place = id
    · subst he
      have once : movedOnce suffix (place :: rest) place = place ++ suffix := by simp [movedOnce]
      rw [moved_cons_self, once, moved_eq_self_iff nonempty, List.cons_sublist_cons,
        List.singleton_sublist]
    · have once : movedOnce suffix (id :: rest) place = movedOnce suffix rest place := by
        simp [movedOnce, he]
      have later : [place, place ++ suffix].Sublist (id :: rest) ↔
          [place, place ++ suffix].Sublist rest := by
        simp [List.sublist_cons_iff, he]
      rw [moved_cons_of_ne he, once, ih, later]

/-- The edge after all redirections, of each end by itself. -/
def redirected (ids : List String) (e : Edge) : Edge :=
  { e with source := moved "_logic" ids e.source, target := moved "_api" ids e.target }

theorem redirected_nil : redirected [] = id := rfl

theorem redirected_cons (n : Node) (e : Edge) :
    redirected (n.id :: ids) e = redirected ids (redirect n e) := by
  simp [redirected, redirect, moved, entryOf, logicOf]

theorem foldl_redirect (split : List Node) (edges : List Edge) :
    split.foldl (fun edges n => edges.map (redirect n)) edges =
      edges.map (redirected (split.map Node.id)) := by
  induction split generalizing edges with
  | nil => rw [List.foldl_nil, List.map_nil, redirected_nil, List.map_id]
  | cons n rest ih =>
    rw [List.foldl_cons, ih, List.map_map]
    refine List.map_congr_left fun e _ => ?_
    rw [List.map_cons, redirected_cons, Function.comp_apply]

theorem expand_edges (d : Diagram) : d.expand.edges =
    d.edges.map (redirected d.splitIds) ++ (d.nodes.filter (·.type.isSplit)).map innerEdge := by
  simp only [expand, ofNodes, foldl_redirect, splitIds]

theorem expand_getElem? {d : Diagram} {i : Nat} {e : Edge} (h : d.edges[i]? = some e) :
    d.expand.edges[i]? = some (redirected d.splitIds e) := by
  have hi : i < (d.edges.map (redirected d.splitIds)).length := by
    rw [List.length_map]
    exact (List.getElem?_eq_some_iff.mp h).1
  rw [expand_edges, List.getElem?_append_left hi, List.getElem?_map, h, Option.map_some]

/-- An edge of the expanded diagram leads where its ends led, with the parts of the nodes there put
in their place, unless a node that is split later has the id of such a part. -/
theorem expand_redirects_at_once_iff {d : Diagram} {i : Nat} {e : Edge}
    (h : d.edges[i]? = some e) :
    ∃ e', d.expand.edges[i]? = some e' ∧
      (e'.source = movedOnce "_logic" d.splitIds e.source ↔
        ¬ [e.source, e.source ++ "_logic"].Sublist d.splitIds) ∧
      (e'.target = movedOnce "_api" d.splitIds e.target ↔
        ¬ [e.target, e.target ++ "_api"].Sublist d.splitIds) := by
  have logic : 0 < "_logic".length := by decide
  have api : 0 < "_api".length := by decide
  exact ⟨_, expand_getElem? h, moved_eq_movedOnce_iff logic, moved_eq_movedOnce_iff api⟩

/-- Requests to a service beside another one with the id of its entry. -/
def nestedNames : Diagram :=
  .ofNodes .service
    [.new "lb" "lb" .loadBalancer .dmz, .new "app" "app" .service .internal,
      .new "app_api" "app_api" .service .internal]
    [.request "lb" "app"] []

theorem nestedNames_request_redirected :
    nestedNames.edges[0]? = some (.request "lb" "app") ∧
    ∃ e', nestedNames.expand.edges[0]? = some e' ∧ e'.source = "lb" ∧ e'.target ≠ "app_api" := by
  have hr : nestedNames.edges[0]? = some (.request "lb" "app") := rfl
  obtain ⟨e', he, hs, ht⟩ := expand_redirects_at_once_iff hr
  exact ⟨hr, e', he, hs.mpr (by decide), fun h => ht.mp h (by decide)⟩

/-- Even with distinct ids, ends are not replaced at once: here the request ends up at the entry of
the other service. -/
theorem expand_redirects_in_turn :
    ¬ ∀ (d : Diagram), (d.nodes.map Node.id).Nodup → ∀ (i : Nat) (e : Edge),
      d.edges[i]? = some e → ∃ e', d.expand.edges[i]? = some e' ∧
        e'.source = movedOnce "_logic" d.splitIds e.source ∧
        e'.target = movedOnce "_api" d.splitIds e.target := by
  intro h
  obtain ⟨e', he, _, ht⟩ := h nestedNames (by decide) 0 (.request "lb" "app") rfl
  have actual : nestedNames.expand.edges[0]?.map Edge.target = some "app_api_api" := by decide
  rw [he, Option.map_some, ht] at actual
  exact absurd actual (by decide)

end Diagram

end CloudThreat
