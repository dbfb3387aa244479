import CloudThreat.Matching
import CloudThreat.Proofs.RuleEvaluation
import Mathlib.Data.List.ProdSigma

namespace CloudThreat

/-- The conditions of the rule of a threat, of which there are none without a rule. -/
def Threat.leaves (t : Threat) : List Condition :=
  t.rule.elim [] LogicGroup.leaves

theorem Threat.leaves_of_rule {t : Threat} {rule : LogicGroup} (h : t.rule = some rule) :
    t.leaves = rule.leaves := by
  rw [Threat.leaves, h, Option.elim_some]

namespace Matching

variable {filterByType : Bool} {resources : List Resource} {threats : List Threat}
  {r : Resource} {t : Threat} {m : MatchedThreat}

/-- The threat is looked for on the resource, and its rule holds there. -/
structure Matches (filterByType : Bool) (r : Resource) (t : Threat) : Prop where
  type : filterByType = true → t.resourceTypes = [] ∨ r.resourceType ∈ t.resourceTypes
  provider : ∀ p, r.cloudProvider = some p → t.cloudProviders = [] ∨ p ∈ t.cloudProviders
  rule : ∃ rule, t.rule = some rule ∧ rule.Holds r.document

/-- The record of a match, which names all conditions that hold. -/
def recordOf (r : Resource) (t : Threat) : MatchedThreat :=
  ⟨t, r, LogicGroup.heldTexts r.document t.leaves, .ofNat 1⟩

theorem applies_iff : applies filterByType r t = true ↔
    (filterByType = true → t.resourceTypes = [] ∨ r.resourceType ∈ t.resourceTypes) ∧
      ∀ p, r.cloudProvider = some p → t.cloudProviders = [] ∨ p ∈ t.cloudProviders := by
  have types : (!filterByType || t.appliesToResourceType r.resourceType) = true ↔
      (filterByType = true → t.resourceTypes = [] ∨ r.resourceType ∈ t.resourceTypes) := by
    cases filterByType <;> simp [Threat.appliesToResourceType]
  rw [applies, Bool.and_eq_true, types]
  cases r.cloudProvider <;> simp [Threat.appliesToProvider]

theorem match?_eq_some_iff : match? r r.document t = some m ↔
    (∃ rule, t.rule = some rule ∧ rule.Holds r.document) ∧ recordOf r t = m := by
  cases hr : t.rule with
  | none => simp [match?, hr]
  | some rule =>
    have hs : match? r r.document t =
        if (rule.evaluate r.document []).1 then
          some ⟨t, r, (rule.evaluate r.document []).2, .ofNat 1⟩ else none := by
      simp [match?, hr]
    have ht : (rule.evaluate r.document []).2 = LogicGroup.heldTexts r.document t.leaves := by
      rw [LogicGroup.evaluate_trail, Threat.leaves_of_rule hr, List.nil_append]
    simp [hs, ht, LogicGroup.evaluate_iff_holds, recordOf]

theorem matches_iff : Matches filterByType r t ↔
    applies filterByType r t = true ∧ (match? r r.document t).isSome = true := by
  simp only [Option.isSome_iff_exists, match?_eq_some_iff, applies_iff]
  constructor
  · rintro ⟨ht, hp, hr⟩
    exact ⟨⟨ht, hp⟩, _, hr, rfl⟩
  · rintro ⟨⟨ht, hp⟩, _, hr, _⟩
    exact ⟨ht, hp, hr⟩

instance : Decidable (Matches filterByType r t) :=
  decidable_of_iff _ matches_iff.symm

theorem match?_eq_of_applies (h : applies filterByType r t = true) :
    match? r r.document t = if Matches filterByType r t then some (recordOf r t) else none := by
  split
  next hm => exact match?_eq_some_iff.mpr ⟨hm.rule, rfl⟩
  next hm => simpa [matches_iff, h] using hm

theorem ofResource_eq : ofResource filterByType threats r =
    (threats.filter fun t => Matches filterByType r t).map (recordOf r) := by
  induction threats with
  | nil => rfl
  | cons t rest ih =>
    simp only [ofResource] at ih
    by_cases h : applies filterByType r t
    · by_cases hm : Matches filterByType r t <;>
        simp [ofResource, h, hm, match?_eq_of_applies h, ih]
    · have hm : ¬ Matches filterByType r t := fun hm => h (matches_iff.mp hm).1
      simp [ofResource, h, hm, ih]

/-- The matches of all pairs, resource by resource and for each in the order of the threats. -/
def rowMajor (filterByType : Bool) (resources : List Resource) (threats : List Threat) :
    List MatchedThreat :=
  ((resources ×ˢ threats).filter fun p => Matches filterByType p.1 p.2).map fun p =>
    recordOf p.1 p.2

theorem run_matchedThreats : (run resources threats filterByType).matchedThreats =
    sortByRisk (rowMajor filterByType resources threats) := by
  have rows : resources.flatMap (ofResource filterByType threats) =
      rowMajor filterByType resources threats := by
    induction resources with
    | nil => rfl
    | cons r rest ih =>
      simp only [rowMajor] at ih
      simp [rowMajor, ofResource_eq, ih, List.filter_map, Function.comp_def]
  rw [run, rows]

theorem mem_run_iff : m ∈ (run resources threats filterByType).matchedThreats ↔
    ∃ r ∈ resources, ∃ t ∈ threats, Matches filterByType r t ∧ recordOf r t = m := by
  rw [run_matchedThreats, sortByRisk, List.mem_mergeSort]
  simp [rowMajor, and_assoc]

theorem Matches.matchedConditions_ne_nil (h : Matches filterByType r t) :
    (recordOf r t).matchedConditions ≠ [] := by
  obtain ⟨rule, hr, held⟩ := h.rule
  rw [recordOf, Threat.leaves_of_rule hr]
  exact held.heldTexts_ne_nil

/-- A rule adds the texts of all conditions in it that hold to the trail, whether it holds itself or
not. It never holds without one of them, so that every record of a match names a condition. -/
theorem evaluation_records_every_held_condition :
    (∀ (document : Json) (g : LogicGroup) (trail : List String),
      (g.evaluate document trail).2 =
          trail ++ (g.leaves.filter (·.holds document)).map Condition.text ∧
        (g.evaluate document trail).1 =
          LogicGroup.combine g.logic (LogicGroup.outcomes document g.conditions g.groups) ∧
        ((g.evaluate document trail).1 = true ↔ g.Holds document) ∧
        ((g.evaluate document trail).1 = true →
          trail.length < (g.evaluate document trail).2.length)) ∧
    (∀ (t : Threat) (r : Resource), (∀ rule, t.rule = some rule → rule.leaves = []) →
      match? r r.document t = none) ∧
    ∀ (resources : List Resource) (threats : List Threat) (filterByType : Bool),
      ∀ m ∈ (run resources threats filterByType).matchedThreats,
        m.matchedConditions ≠ [] ∧ ∃ rule, m.threat.rule = some rule ∧ rule.leaves ≠ [] := by
  refine ⟨?trail, ?silent, ?records⟩
  case trail =>
    intro document g trail
    exact ⟨g.evaluate_trail trail, g.evaluate_outcome trail, LogicGroup.evaluate_iff_holds,
      LogicGroup.length_lt_of_evaluate⟩
  case silent =>
    intro t r bare
    cases hm : match? r r.document t with
    | none => rfl
    | some m =>
      obtain ⟨⟨rule, hr, held⟩, _⟩ := match?_eq_some_iff.mp hm
      exact absurd (bare rule hr) held.leaves_ne_nil
  case records =>
    intro resources threats filterByType m hm
    obtain ⟨r, _, t, _, hmatch, rfl⟩ := mem_run_iff.mp hm
    obtain ⟨rule, hr, held⟩ := hmatch.rule
    exact ⟨hmatch.matchedConditions_ne_nil, rule, hr, held.leaves_ne_nil⟩

/-- A group of which a condition of its own and one of a group inside hold, though that group does
not. -/
def namedOrOwned : LogicGroup :=
  ⟨.any, [⟨"name", .present, .null⟩, ⟨"location", .present, .null⟩],
    [⟨.all, [⟨"name", .equals, .str "b"⟩], [⟨.all, [], []⟩]⟩]⟩

def bucket : Resource := .new "aws_s3_bucket" "b" (.obj [])

def threatWith (rule : LogicGroup) : Threat :=
  { Threat.new "T" "t" .low .likely "x" with rule := some rule }

theorem nested_condition_recorded :
    (namedOrOwned.evaluate bucket.document ["earlier"]).1 = true ∧
    ["earlier"].length < (namedOrOwned.evaluate bucket.document ["earlier"]).2.length ∧
    (namedOrOwned.leaves.filter (·.holds bucket.document)).map Condition.text =
      ["name exists null", "name == b"] ∧
    match? bucket bucket.document (threatWith ⟨.all, [], [⟨.any, [], []⟩]⟩) = none ∧
    recordOf bucket (threatWith namedOrOwned) ∈
      (run [bucket] [threatWith namedOrOwned] true).matchedThreats ∧
    (recordOf bucket (threatWith namedOrOwned)).matchedConditions ≠ [] := by
  have held : (namedOrOwned.evaluate bucket.document ["earlier"]).1 = true := by decide
  have hm : recordOf bucket (threatWith namedOrOwned) ∈
      (run [bucket] [threatWith namedOrOwned] true).matchedThreats :=
    mem_run_iff.mpr ⟨bucket, by simp, threatWith namedOrOwned, by simp, by decide, rfl⟩
  obtain ⟨trails, silent, records⟩ := evaluation_records_every_held_condition
  refine ⟨held, (trails _ _ _).2.2.2 held, by decide, ?_, hm, (records _ _ _ _ hm).1⟩
  apply silent
  intro rule hr
  cases Option.some.inj hr
  decide

end Matching

end CloudThreat
