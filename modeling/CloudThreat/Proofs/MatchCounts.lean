import CloudThreat.Proofs.MatchRecord
import CloudThreat.Proofs.Tallies

namespace CloudThreat

/-- The tally holds each kind of match of the result once, with the number of matches of it. -/
structure MatchResult.CountsBy (result : MatchResult) (kind : MatchedThreat → String)
    (t : Tally) : Prop where
  once : (t.map Prod.fst).Nodup
  count : ∀ key, t.count key = (result.matchedThreats.filter fun m => kind m = key).length
  positive : ∀ entry ∈ t, 0 < entry.2
  total : t.total = result.totalMatched

theorem MatchResult.countsBy_of_recounts {result : MatchResult} {kind : MatchedThreat → String}
    {t : Tally} (h : t.Recounts (result.matchedThreats.map kind)) : result.CountsBy kind t where
  once := h.keys_nodup
  count := by
    intro key
    rw [h.count, List.count, List.countP_map, List.countP_eq_length_filter]
    congr 1
  positive := h.positive
  total := h.total.trans (List.length_map kind)

namespace MatchStatistics

/-- The three tallies of the statistics count the matches by severity, category and type. -/
structure Recounts (s : MatchStatistics) (ms : List MatchedThreat) : Prop where
  bySeverity : s.bySeverity.Recounts (ms.map fun m => m.threat.severity.text)
  byCategory : s.byCategory.Recounts (ms.map fun m => m.threat.category)
  byResourceType : s.byResourceType.Recounts (ms.map fun m => m.resource.resourceType)

variable {s : MatchStatistics} {ms : List MatchedThreat}

theorem Recounts.empty : Recounts .empty [] :=
  ⟨.nil, .nil, .nil⟩

theorem Recounts.record (h : s.Recounts ms) (m : MatchedThreat) :
    (s.record m).Recounts (ms ++ [m]) where
  bySeverity := by
    rw [List.map_append]
    exact h.bySeverity.add m.threat.severity.text
  byCategory := by
    rw [List.map_append]
    exact h.byCategory.add m.threat.category
  byResourceType := by
    rw [List.map_append]
    exact h.byResourceType.add m.resource.resourceType

theorem Recounts.foldl_record (h : s.Recounts ms) (found : List MatchedThreat) :
    (found.foldl MatchStatistics.record s).Recounts (ms ++ found) := by
  induction found generalizing s ms with
  | nil => simpa using h
  | cons m found ih =>
    rw [List.foldl_cons, List.append_cons]
    exact ih (h.record m)

theorem Recounts.perm {ms' : List MatchedThreat} (h : s.Recounts ms) (p : ms.Perm ms') :
    s.Recounts ms' :=
  ⟨h.bySeverity.perm (p.map _), h.byCategory.perm (p.map _), h.byResourceType.perm (p.map _)⟩

end MatchStatistics

namespace Matching

/-- Sorting the matches leaves their numbers as they were counted. -/
theorem run_recounts (resources : List Resource) (threats : List Threat) (filterByType : Bool) :
    (run resources threats filterByType).statistics.Recounts
      (run resources threats filterByType).matchedThreats := by
  have counted := MatchStatistics.Recounts.empty.foldl_record
    (resources.flatMap (ofResource filterByType threats))
  exact counted.perm (List.mergeSort_perm _ _).symm

/-- The statistics of a run are a recount of the matches that it reports: for each severity,
category and type the number of its matches, no number being zero, and the sum of the numbers the
number of all matches. -/
theorem run_statistics_recount_matches (resources : List Resource) (threats : List Threat)
    (filterByType : Bool) :
    (run resources threats filterByType).CountsBy (fun m => m.threat.severity.text)
        (run resources threats filterByType).statistics.bySeverity ∧
      (run resources threats filterByType).CountsBy (fun m => m.threat.category)
        (run resources threats filterByType).statistics.byCategory ∧
      (run resources threats filterByType).CountsBy (fun m => m.resource.resourceType)
        (run resources threats filterByType).statistics.byResourceType := by
  have counted := run_recounts resources threats filterByType
  exact ⟨MatchResult.countsBy_of_recounts counted.bySeverity,
    MatchResult.countsBy_of_recounts counted.byCategory,
    MatchResult.countsBy_of_recounts counted.byResourceType⟩

end Matching

end CloudThreat
