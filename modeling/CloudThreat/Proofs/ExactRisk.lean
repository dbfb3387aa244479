import CloudThreat.Proofs.MatchOrder
import Mathlib.Data.Fintype.Defs

namespace CloudThreat

instance : Fintype Severity :=
  ⟨{.critical, .high, .medium, .low, .info}, fun s => by cases s <;> decide⟩

instance : Fintype Likelihood :=
  ⟨{.certain, .likely, .possible, .unlikely, .rare}, fun l => by cases l <;> decide⟩

/-- The exact product of both scores, in tenths. -/
def exactRisk (s : Severity) (l : Likelihood) : Nat :=
  s.score * l.tenths

/-- Twice the exact product, and one more where the product of doubles is a little too great. -/
def roundedRisk (s : Severity) (l : Likelihood) : Nat :=
  2 * exactRisk s l + if s = .low ∧ l = .rare then 1 else 0

/-- The doubles of all ratings stand in the order of their rounded risks. -/
theorem lt_eq_roundedRisk_lt : ∀ s l s' l',
    (riskScore s l * Double.ofNat 1).lt (riskScore s' l' * Double.ofNat 1) =
      decide (roundedRisk s l < roundedRisk s' l') := by
  decide +kernel

theorem exactRisk_le_of_roundedRisk_le {s s' : Severity} {l l' : Likelihood}
    (h : roundedRisk s l ≤ roundedRisk s' l') : exactRisk s l ≤ exactRisk s' l' := by
  unfold roundedRisk at h
  split at h <;> split at h <;> omega

/-- Where the exact products are equal, the rounded ones change the order of just one pair. -/
theorem roundedRisk_lt_iff_of_exactRisk_eq : ∀ s l s' l', exactRisk s l = exactRisk s' l' →
    (roundedRisk s l < roundedRisk s' l' ↔
      (s = .info ∧ l = .unlikely) ∧ s' = .low ∧ l' = .rare) := by
  decide +kernel

namespace Matching

/-- The exact risk of the threat that was matched. -/
def exactRiskOf (m : MatchedThreat) : Nat :=
  exactRisk m.threat.severity m.threat.likelihood

def roundedRiskOf (m : MatchedThreat) : Nat :=
  roundedRisk m.threat.severity m.threat.likelihood

/-- Matches with a greater exact risk come earlier, and those of one exact risk come in the order of
the rows. -/
structure RanksExactly (reported rows : List MatchedThreat) : Prop where
  descending : reported.Pairwise fun a b => exactRiskOf b ≤ exactRiskOf a
  ties : ∀ risk, reported.filter (fun m => exactRiskOf m = risk) =
    rows.filter fun m => exactRiskOf m = risk

/-- A match rated info and unlikely, and one rated low and rare. -/
def UnlikelyBeforeRare (a b : MatchedThreat) : Prop :=
  (a.threat.severity = .info ∧ a.threat.likelihood = .unlikely) ∧
    b.threat.severity = .low ∧ b.threat.likelihood = .rare

variable {rows : List MatchedThreat} {a b : MatchedThreat}

instance : Decidable (UnlikelyBeforeRare a b) :=
  inferInstanceAs (Decidable ((_ ∧ _) ∧ _ ∧ _))

theorem sortByRisk_rowMajor (filterByType : Bool) (resources : List Resource)
    (threats : List Threat) : sortByRisk (rowMajor filterByType resources threats) =
      sortDescending roundedRiskOf (rowMajor filterByType resources threats) := by
  refine mergeSort_eq_sortDescending fun a ha b hb => ?_
  obtain ⟨p, _, rfl⟩ := List.mem_map.mp ha
  obtain ⟨q, _, rfl⟩ := List.mem_map.mp hb
  rw [riskScore_recordOf, riskScore_recordOf, lt_eq_roundedRisk_lt, Bool.eq_iff_iff,
    Bool.not_eq_true', decide_eq_false_iff_not, not_lt, decide_eq_true_iff]
  rfl

theorem sorted_descending (rows : List MatchedThreat) :
    (sortDescending roundedRiskOf rows).Pairwise fun a b => exactRiskOf b ≤ exactRiskOf a :=
  (sortDescending_pairwise roundedRiskOf rows).imp exactRisk_le_of_roundedRisk_le

theorem sorted_ties_iff (risk : Nat) :
    (sortDescending roundedRiskOf rows).filter (fun m => exactRiskOf m = risk) =
        rows.filter (fun m => exactRiskOf m = risk) ↔
      (rows.filter fun m => exactRiskOf m = risk).Pairwise fun a b => ¬ UnlikelyBeforeRare a b := by
  rw [← sortDescending_filter, sortDescending_eq_self_iff]
  refine List.Pairwise.iff_of_mem fun {a b} ha hb => ?_
  have equal : exactRiskOf a = exactRiskOf b := by
    have ha' := of_decide_eq_true (List.mem_filter.mp ha).2
    have hb' := of_decide_eq_true (List.mem_filter.mp hb).2
    rw [ha', hb']
  rw [← not_lt]
  exact not_congr (roundedRisk_lt_iff_of_exactRisk_eq _ _ _ _ equal)

theorem UnlikelyBeforeRare.exactRiskOf_eq (h : UnlikelyBeforeRare a b) :
    exactRiskOf a = 3 ∧ exactRiskOf b = 3 := by
  obtain ⟨⟨sa, la⟩, sb, lb⟩ := h
  rw [exactRiskOf, exactRiskOf, sa, la, sb, lb]
  decide

theorem sorted_ranksExactly_iff : RanksExactly (sortDescending roundedRiskOf rows) rows ↔
    rows.Pairwise fun a b => ¬ UnlikelyBeforeRare a b := by
  constructor
  · intro h
    have three := (sorted_ties_iff 3).mp (h.ties 3)
    refine (List.pairwise_filter.mp three).imp fun apart swapped => ?_
    obtain ⟨ha, hb⟩ := swapped.exactRiskOf_eq
    exact apart (by simpa using ha) (by simpa using hb) swapped
  · intro h
    exact ⟨sorted_descending rows, fun risk => (sorted_ties_iff risk).mpr (h.filter _)⟩

theorem run_eq_sortDescending (resources : List Resource) (threats : List Threat)
    (filterByType : Bool) : (run resources threats filterByType).matchedThreats =
      sortDescending roundedRiskOf (rowMajor filterByType resources threats) := by
  rw [run_matchedThreats, sortByRisk_rowMajor]

/-- The matches of a run come in descending order of exact risk, and those of equal exact risk in
the order of the rows, unless a match rated info and unlikely stands in the rows before one rated
low and rare; and that pair is of the exact risk of three tenths. -/
theorem run_ranksExactly_iff (resources : List Resource) (threats : List Threat)
    (filterByType : Bool) :
    (run resources threats filterByType).matchedThreats.Pairwise
        (fun a b => exactRiskOf b ≤ exactRiskOf a) ∧
      (∀ risk, risk = 3 ∨
        (run resources threats filterByType).matchedThreats.filter
            (fun m => exactRiskOf m = risk) =
          (rowMajor filterByType resources threats).filter fun m => exactRiskOf m = risk) ∧
      (RanksExactly (run resources threats filterByType).matchedThreats
          (rowMajor filterByType resources threats) ↔
        (rowMajor filterByType resources threats).Pairwise
          fun a b => ¬ UnlikelyBeforeRare a b) := by
  rw [run_eq_sortDescending]
  refine ⟨sorted_descending _, fun risk => ?_, sorted_ranksExactly_iff⟩
  by_cases three : risk = 3
  · exact .inl three
  · refine .inr ((sorted_ties_iff risk).mpr (List.pairwise_of_forall_mem_list ?_))
    intro a ha b _ swapped
    have ha' := of_decide_eq_true (List.mem_filter.mp ha).2
    exact three (ha'.symm.trans swapped.exactRiskOf_eq.1)

/-- A rule that holds of every resource. -/
def hasName : LogicGroup := ⟨.all, [⟨"name", .present, .null⟩], []⟩

def ratedThreats (ratings : List (String × Severity × Likelihood)) : List Threat :=
  ratings.map fun (id, s, l) => { Threat.new id "t" s l "x" with rule := some hasName }

theorem rowMajor_ratedThreats (ratings : List (String × Severity × Likelihood)) :
    rowMajor true [bucket] (ratedThreats ratings) =
      (ratedThreats ratings).map (recordOf bucket) := by
  have evaluated : (hasName.evaluate bucket.document []).1 = true := by decide
  have held : ∀ t ∈ ratedThreats ratings, Matches true bucket t := by
    intro t ht
    obtain ⟨rating, _, rfl⟩ := List.mem_map.mp ht
    exact ⟨fun _ => .inl rfl, fun _ _ => .inl rfl, hasName, rfl,
      LogicGroup.evaluate_iff_holds.mp evaluated⟩
  have all : (ratedThreats ratings).filter (fun t => Matches true bucket t) =
      ratedThreats ratings :=
    List.filter_eq_self.mpr fun t ht => decide_eq_true (held t ht)
  simp [rowMajor, List.filter_map, Function.comp_def, all]

/-- Ratings of which several are equal, in doubles too. -/
def evenRatings : List (String × Severity × Likelihood) :=
  [("A", .medium, .certain), ("B", .info, .certain), ("C", .critical, .possible),
    ("D", .critical, .rare), ("E", .low, .rare)]

theorem evenRatings_ranksExactly :
    RanksExactly (run [bucket] (ratedThreats evenRatings) true).matchedThreats
      (rowMajor true [bucket] (ratedThreats evenRatings)) := by
  refine (run_ranksExactly_iff [bucket] (ratedThreats evenRatings) true).2.2.mpr ?_
  rw [rowMajor_ratedThreats]
  decide

def offRatings : List (String × Severity × Likelihood) :=
  [("INFO-1", .info, .unlikely), ("LOW-1", .low, .rare)]

theorem offRatings_not_ranksExactly :
    ¬ RanksExactly (run [bucket] (ratedThreats offRatings) true).matchedThreats
      (rowMajor true [bucket] (ratedThreats offRatings)) := by
  rw [run_eq_sortDescending, sorted_ranksExactly_iff, rowMajor_ratedThreats]
  decide

end Matching

end CloudThreat
