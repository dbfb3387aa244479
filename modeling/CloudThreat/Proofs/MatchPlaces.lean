import CloudThreat.Proofs.MatchOrder

namespace CloudThreat

section Lists

variable {α β γ δ : Type}

theorem product_map (f : α → γ) (g : β → δ) (xs : List α) (ys : List β) :
    xs.map f ×ˢ ys.map g = (xs ×ˢ ys).map (Prod.map f g) := by
  induction xs with
  | nil => rfl
  | cons x xs ih =>
    rw [List.map_cons, List.product_cons, List.product_cons, List.map_append, ih, List.map_map,
      List.map_map]
    rfl

theorem product_filter (p : α → Bool) (q : β → Bool) (xs : List α) (ys : List β) :
    xs.filter p ×ˢ ys.filter q = (xs ×ˢ ys).filter fun z => p z.1 && q z.2 := by
  induction xs with
  | nil => rfl
  | cons x xs ih =>
    rw [List.product_cons, List.filter_append, ← ih, List.filter_map]
    by_cases h : p x
    · rw [List.filter_cons_of_pos h, List.product_cons]
      simp [h, Function.comp_def]
    · rw [List.filter_cons_of_neg h]
      simp [h, Function.comp_def]

/-- The elements of a list at the places that are kept. -/
def keepAt (kept : Nat → Bool) (xs : List α) : List α :=
  (xs.zipIdx.filter fun x => kept x.2).map Prod.fst

end Lists

/-- A match with the place of its resource and the place of its threat. -/
structure PlacedMatch where
  record : MatchedThreat
  row : Nat
  column : Nat

namespace Matching

variable {filterByType : Bool} {resources : List Resource} {threats : List Threat}

/-- The matches of the pairs of two lists whose elements are given with their places. -/
def placedRows (filterByType : Bool) (rows : List (Resource × Nat))
    (columns : List (Threat × Nat)) : List PlacedMatch :=
  ((rows ×ˢ columns).filter fun p => Matches filterByType p.1.1 p.2.1).map fun p =>
    ⟨recordOf p.1.1 p.2.1, p.1.2, p.2.2⟩

/-- The matches of a run, in descending order of risk, with the places that they come from. -/
def placedRun (filterByType : Bool) (resources : List Resource) (threats : List Threat) :
    List PlacedMatch :=
  sortDescending (fun x => x.record.riskScore.place)
    (placedRows filterByType resources.zipIdx threats.zipIdx)

theorem placedRows_record (filterByType : Bool) (rows : List (Resource × Nat))
    (columns : List (Threat × Nat)) :
    (placedRows filterByType rows columns).map PlacedMatch.record =
      rowMajor filterByType (rows.map Prod.fst) (columns.map Prod.fst) := by
  simp [placedRows, rowMajor, product_map, List.filter_map, Function.comp_def]

theorem placedRows_filter (filterByType : Bool) (keptRow keptColumn : Nat → Bool)
    (rows : List (Resource × Nat)) (columns : List (Threat × Nat)) :
    placedRows filterByType (rows.filter fun x => keptRow x.2)
        (columns.filter fun x => keptColumn x.2) =
      (placedRows filterByType rows columns).filter fun x =>
        keptRow x.row && keptColumn x.column := by
  simp only [placedRows, product_filter, List.filter_map, List.filter_filter, Function.comp_def]
  simp only [Bool.and_comm]

theorem sortByRisk_filter {ms : List MatchedThreat} (numbers : ∀ m ∈ ms, m.riskScore ≠ Double.nan)
    (p : MatchedThreat → Bool) : sortByRisk (ms.filter p) = (sortByRisk ms).filter p := by
  have kept : ∀ m ∈ ms.filter p, m.riskScore ≠ Double.nan :=
    fun m hm => numbers m (List.mem_filter.mp hm).1
  rw [sortByRisk_eq numbers, sortByRisk_eq kept, sortDescending_filter]

theorem sortByRisk_placedRows (filterByType : Bool) (rows : List (Resource × Nat))
    (columns : List (Threat × Nat)) :
    sortByRisk (rowMajor filterByType (rows.map Prod.fst) (columns.map Prod.fst)) =
      (sortDescending (fun x => x.record.riskScore.place)
        (placedRows filterByType rows columns)).map PlacedMatch.record := by
  rw [sortByRisk_eq (rowMajor_riskScore_ne_nan _ _ _), ← placedRows_record, sortDescending_map]

/-- A run without some resources and threats, of which the others keep their places. -/
theorem run_keepAt (filterByType : Bool) (keptRow keptColumn : Nat → Bool)
    (resources : List Resource) (threats : List Threat) :
    (run (keepAt keptRow resources) (keepAt keptColumn threats) filterByType).matchedThreats =
      ((placedRun filterByType resources threats).filter fun x =>
        keptRow x.row && keptColumn x.column).map PlacedMatch.record := by
  rw [run_matchedThreats, keepAt, keepAt, sortByRisk_placedRows, placedRows_filter,
    sortDescending_filter, placedRun]

theorem placedRun_record (filterByType : Bool) (resources : List Resource)
    (threats : List Threat) :
    (placedRun filterByType resources threats).map PlacedMatch.record =
      (run resources threats filterByType).matchedThreats := by
  have rows : resources.zipIdx.map Prod.fst = resources := List.zipIdx_map_fst 0 resources
  have columns : threats.zipIdx.map Prod.fst = threats := List.zipIdx_map_fst 0 threats
  rw [placedRun, ← sortByRisk_placedRows, rows, columns, run_matchedThreats]

theorem mem_placedRun_iff {m : MatchedThreat} {i j : Nat} :
    ⟨m, i, j⟩ ∈ placedRun filterByType resources threats ↔
      ∃ r t, resources[i]? = some r ∧ threats[j]? = some t ∧ Matches filterByType r t ∧
        recordOf r t = m := by
  rw [placedRun, (sortDescending_perm _ _).mem_iff]
  simp only [placedRows, List.mem_map, List.mem_filter, Prod.exists, List.mem_product,
    List.mem_zipIdx_iff_getElem?, decide_eq_true_eq, PlacedMatch.mk.injEq]
  constructor
  · rintro ⟨r, _, t, _, ⟨⟨hr, ht⟩, held⟩, same, rfl, rfl⟩
    exact ⟨r, t, hr, ht, held, same⟩
  · rintro ⟨r, t, hr, ht, held, same⟩
    exact ⟨r, i, t, j, ⟨⟨hr, ht⟩, held⟩, same, rfl, rfl⟩

theorem placedRun_places_nodup (filterByType : Bool) (resources : List Resource)
    (threats : List Threat) :
    ((placedRun filterByType resources threats).map fun x => (x.row, x.column)).Nodup := by
  have places : ((resources.zipIdx ×ˢ threats.zipIdx).map (Prod.map Prod.snd Prod.snd)).Nodup := by
    rw [← product_map, List.zipIdx_map_snd, List.zipIdx_map_snd]
    exact List.Nodup.product List.nodup_range' List.nodup_range'
  rw [placedRun, ((sortDescending_perm _ _).map _).nodup_iff, placedRows, List.map_map]
  exact places.sublist (List.filter_sublist.map _)

theorem matches_filterByType_iff {r : Resource} {t : Threat} : Matches true r t ↔
    Matches false r t ∧ t.appliesToResourceType r.resourceType = true := by
  simp only [matches_iff, applies, Bool.not_true, Bool.not_false, Bool.false_or, Bool.true_or,
    Bool.true_and, Bool.and_eq_true]
  tauto

theorem rowMajor_filterByType (resources : List Resource) (threats : List Threat) :
    rowMajor true resources threats = (rowMajor false resources threats).filter fun m =>
      m.threat.appliesToResourceType m.resource.resourceType := by
  simp only [rowMajor, List.filter_map, List.filter_filter, Function.comp_def, recordOf]
  congr 2
  funext p
  rw [Bool.eq_iff_iff, decide_eq_true_iff, matches_filterByType_iff, Bool.and_eq_true,
    decide_eq_true_iff, and_comm]

/-- What a pair of a resource and a threat gives does not hang on the others: a run with the filter
reports those matches of a run without it whose threat applies to the type of the resource, and a
run that leaves out resources and threats reports the matches of the rest as they were, in the same
order. Every match has its own pair of places, in which that resource and that threat stand. -/
theorem run_reports_pairs_apart (resources : List Resource) (threats : List Threat) :
    (run resources threats true).matchedThreats =
        (run resources threats false).matchedThreats.filter
          (fun m => m.threat.appliesToResourceType m.resource.resourceType) ∧
      ∀ filterByType : Bool,
        (placedRun filterByType resources threats).map PlacedMatch.record =
            (run resources threats filterByType).matchedThreats ∧
          ((placedRun filterByType resources threats).map fun x => (x.row, x.column)).Nodup ∧
          (∀ (m : MatchedThreat) (i j : Nat),
            ⟨m, i, j⟩ ∈ placedRun filterByType resources threats ↔
              ∃ r t, resources[i]? = some r ∧ threats[j]? = some t ∧ Matches filterByType r t ∧
                recordOf r t = m) ∧
          ∀ keptRow keptColumn : Nat → Bool,
            (run (keepAt keptRow resources) (keepAt keptColumn threats)
                filterByType).matchedThreats =
              ((placedRun filterByType resources threats).filter fun x =>
                keptRow x.row && keptColumn x.column).map PlacedMatch.record := by
  constructor
  · rw [run_matchedThreats, run_matchedThreats, rowMajor_filterByType,
      sortByRisk_filter (rowMajor_riskScore_ne_nan _ _ _)]
  · intro filterByType
    exact ⟨placedRun_record filterByType resources threats,
      placedRun_places_nodup filterByType resources threats, fun _ _ _ => mem_placedRun_iff,
      fun keptRow keptColumn => run_keepAt filterByType keptRow keptColumn resources threats⟩

end Matching

end CloudThreat
