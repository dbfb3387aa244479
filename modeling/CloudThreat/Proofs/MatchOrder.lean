import CloudThreat.Proofs.DescendingSort
import CloudThreat.Proofs.DoubleOrder
import CloudThreat.Proofs.MatchRecord

namespace CloudThreat

namespace Matching

variable {ms : List MatchedThreat}

theorem riskScore_recordOf (r : Resource) (t : Threat) :
    (recordOf r t).riskScore = riskScore t.severity t.likelihood * Double.ofNat 1 := by
  simp only [MatchedThreat.riskScore, recordOf, Threat.riskScore]

theorem riskScore_recordOf_ne_nan (r : Resource) (t : Threat) :
    (recordOf r t).riskScore ≠ Double.nan := by
  have one : (Double.ofNat 1).isFinite = true := by decide +kernel
  rw [riskScore_recordOf]
  exact Double.mul_ne_nan (riskScore_isFinite t.severity t.likelihood) one

theorem rowMajor_riskScore_ne_nan (filterByType : Bool) (resources : List Resource)
    (threats : List Threat) :
    ∀ m ∈ rowMajor filterByType resources threats, m.riskScore ≠ Double.nan := by
  intro m hm
  obtain ⟨p, _, rfl⟩ := List.mem_map.mp hm
  exact riskScore_recordOf_ne_nan p.1 p.2

/-- As long as every score is a number, the sort is one by places on the line. -/
theorem sortByRisk_eq (numbers : ∀ m ∈ ms, m.riskScore ≠ Double.nan) :
    sortByRisk ms = sortDescending (fun m => m.riskScore.place) ms := by
  refine mergeSort_eq_sortDescending fun a ha b hb => ?_
  rw [Bool.eq_iff_iff, decide_eq_true_iff, Bool.not_eq_true', ← Bool.not_eq_true,
    Double.lt_iff_place (numbers a ha) (numbers b hb), not_lt]

theorem sortByRisk_pairwise (numbers : ∀ m ∈ ms, m.riskScore ≠ Double.nan) :
    (sortByRisk ms).Pairwise fun a b => b.riskScore.le a.riskScore = true := by
  have sorted := sortDescending_pairwise (fun m : MatchedThreat => m.riskScore.place) ms
  rw [← sortByRisk_eq numbers] at sorted
  refine sorted.imp_of_mem fun {a b} ha hb h => ?_
  have ha' := numbers a (List.mem_mergeSort.mp ha)
  have hb' := numbers b (List.mem_mergeSort.mp hb)
  exact (Double.le_iff_place hb' ha').mpr h

theorem sortByRisk_filter_score (numbers : ∀ m ∈ ms, m.riskScore ≠ Double.nan) (score : Double) :
    (sortByRisk ms).filter (·.riskScore.eq score) = ms.filter (·.riskScore.eq score) := by
  by_cases hs : score = Double.nan
  · have none : ∀ xs : List MatchedThreat, xs.filter (·.riskScore.eq score) = [] := by
      refine fun xs => List.filter_eq_nil_iff.mpr fun m _ => ?_
      rw [hs]
      cases m.riskScore <;> simp [Double.eq]
    rw [none, none]
  · have places : ∀ xs : List MatchedThreat, (∀ m ∈ xs, m.riskScore ≠ Double.nan) →
        xs.filter (·.riskScore.eq score) =
          xs.filter fun m => m.riskScore.place = score.place := by
      intro xs hx
      refine List.filter_congr fun m hm => ?_
      rw [Bool.eq_iff_iff, Double.eq_iff_place (hx m hm) hs, decide_eq_true_iff]
    have hm : ∀ m ∈ sortByRisk ms, m.riskScore ≠ Double.nan :=
      fun m hm => numbers m (List.mem_mergeSort.mp hm)
    rw [places _ hm, places _ numbers, sortByRisk_eq numbers]
    exact sortDescending_filter_key _ ms score.place

/-- The matches are those of all pairs, sorted by descending risk; matches of equal risk keep the
order of the rows, and those above a threshold come first. -/
theorem run_sorts_rowMajor (resources : List Resource) (threats : List Threat)
    (filterByType : Bool) :
    (run resources threats filterByType).matchedThreats.Perm
        (rowMajor filterByType resources threats) ∧
      (run resources threats filterByType).matchedThreats.Pairwise
        (fun a b => b.riskScore.le a.riskScore = true) ∧
      (∀ score : Double,
        (run resources threats filterByType).matchedThreats.filter (·.riskScore.eq score) =
          (rowMajor filterByType resources threats).filter (·.riskScore.eq score)) ∧
      ∀ threshold : Double, (run resources threats filterByType).highRiskThreats threshold <+:
        (run resources threats filterByType).matchedThreats := by
  have numbers := rowMajor_riskScore_ne_nan filterByType resources threats
  have sorted := sortByRisk_pairwise numbers
  simp only [MatchResult.highRiskThreats, run_matchedThreats]
  refine ⟨List.mergeSort_perm _ _, sorted, sortByRisk_filter_score numbers, fun threshold => ?_⟩
  apply filter_isPrefix_of_pairwise
  exact sorted.imp fun hba hb => Double.le_trans hb hba

end Matching

end CloudThreat
