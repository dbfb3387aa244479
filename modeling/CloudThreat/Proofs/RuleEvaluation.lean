import CloudThreat.LogicGroup

namespace CloudThreat

namespace LogicGroup

variable {document : Json}

/-- Induction on the nesting of groups. -/
theorem nesting_induction {motive : LogicGroup → Prop}
    (step : ∀ logic conditions groups, (∀ g ∈ groups, motive g) →
      motive ⟨logic, conditions, groups⟩) (g : LogicGroup) : motive g := by
  refine @LogicGroup.rec motive (fun groups => ∀ g ∈ groups, motive g) step ?nil ?cons g
  case nil =>
    intro g hg
    simp at hg
  case cons =>
    intro first rest hf hr g hg
    rcases List.mem_cons.mp hg with rfl | hg
    · exact hf
    · exact hr g hg

mutual

/-- All conditions of a tree: those of a group come before those of the groups in it. -/
def leaves : LogicGroup → List Condition
  | ⟨_, conditions, groups⟩ => conditions ++ leavesOfAll groups

def leavesOfAll : List LogicGroup → List Condition
  | [] => []
  | g :: rest => leaves g ++ leavesOfAll rest

end

theorem leavesOfAll_eq_flatMap (groups : List LogicGroup) :
    leavesOfAll groups = groups.flatMap leaves := by
  induction groups with
  | nil => rfl
  | cons g rest ih => simp [leavesOfAll, ih]

@[simp]
theorem leaves_mk (logic : Logic) (conditions : List Condition) (groups : List LogicGroup) :
    leaves ⟨logic, conditions, groups⟩ = conditions ++ groups.flatMap leaves := by
  rw [leaves, leavesOfAll_eq_flatMap]

/-- The texts of those conditions that hold. -/
def heldTexts (document : Json) (conditions : List Condition) : List String :=
  (conditions.filter (·.holds document)).map Condition.text

@[simp]
theorem heldTexts_append (xs ys : List Condition) :
    heldTexts document (xs ++ ys) = heldTexts document xs ++ heldTexts document ys := by
  simp [heldTexts]

theorem heldTexts_ne_nil_iff {conditions : List Condition} :
    heldTexts document conditions ≠ [] ↔ ∃ c ∈ conditions, c.holds document = true := by
  simp [heldTexts, List.filter_eq_nil_iff]

/-- When a group holds: of all its parts, at least one, or of any one of them. -/
inductive Holds (document : Json) : LogicGroup → Prop
  | all {conditions : List Condition} {groups : List LogicGroup} :
      conditions ≠ [] ∨ groups ≠ [] → (∀ c ∈ conditions, c.holds document = true) →
      (∀ g ∈ groups, Holds document g) → Holds document ⟨.all, conditions, groups⟩
  | condition {conditions : List Condition} {groups : List LogicGroup} {c : Condition} :
      c ∈ conditions → c.holds document = true → Holds document ⟨.any, conditions, groups⟩
  | group {conditions : List Condition} {groups : List LogicGroup} {g : LogicGroup} :
      g ∈ groups → Holds document g → Holds document ⟨.any, conditions, groups⟩

theorem holds_all_iff {conditions : List Condition} {groups : List LogicGroup} :
    Holds document ⟨.all, conditions, groups⟩ ↔
      (conditions ≠ [] ∨ groups ≠ []) ∧ (∀ c ∈ conditions, c.holds document = true) ∧
        ∀ g ∈ groups, Holds document g := by
  constructor
  · intro h
    cases h with
    | all parts hc hg => exact ⟨parts, hc, hg⟩
  · rintro ⟨parts, hc, hg⟩
    exact .all parts hc hg

theorem holds_any_iff {conditions : List Condition} {groups : List LogicGroup} :
    Holds document ⟨.any, conditions, groups⟩ ↔
      (∃ c ∈ conditions, c.holds document = true) ∨ ∃ g ∈ groups, Holds document g := by
  constructor
  · intro h
    cases h with
    | condition hm hc => exact Or.inl ⟨_, hm, hc⟩
    | group hm hg => exact Or.inr ⟨_, hm, hg⟩
  · rintro (⟨c, hm, hc⟩ | ⟨g, hm, hg⟩)
    · exact .condition hm hc
    · exact .group hm hg

/-- A group never holds for want of conditions, however deep they are. -/
theorem Holds.exists_leaf {g : LogicGroup} (h : Holds document g) :
    ∃ c ∈ g.leaves, c.holds document = true := by
  induction h with
  | @all conditions groups parts hc hg ih =>
    rcases parts with hne | hne
    · obtain ⟨c, hm⟩ := List.exists_mem_of_ne_nil conditions hne
      exact ⟨c, by simp [hm], hc c hm⟩
    · obtain ⟨g, hm⟩ := List.exists_mem_of_ne_nil groups hne
      obtain ⟨c, hl, hh⟩ := ih g hm
      exact ⟨c, by simpa using Or.inr ⟨g, hm, hl⟩, hh⟩
  | condition hm hc => exact ⟨_, by simp [hm], hc⟩
  | group hm _ ih =>
    obtain ⟨c, hl, hh⟩ := ih
    exact ⟨c, by simpa using Or.inr ⟨_, hm, hl⟩, hh⟩

theorem Holds.leaves_ne_nil {g : LogicGroup} (h : Holds document g) : g.leaves ≠ [] := by
  obtain ⟨c, hc, _⟩ := h.exists_leaf
  exact List.ne_nil_of_mem hc

theorem Holds.heldTexts_ne_nil {g : LogicGroup} (h : Holds document g) :
    heldTexts document g.leaves ≠ [] :=
  heldTexts_ne_nil_iff.mpr h.exists_leaf

/-- The outcomes of the parts of a group, each on its own. -/
def outcomes (document : Json) (conditions : List Condition) (groups : List LogicGroup) :
    List Bool :=
  conditions.map (·.holds document) ++ groups.map fun g => (g.evaluate document []).1

/-- All outcomes, of which there must be one, or any of them. -/
def combine : Logic → List Bool → Bool
  | .all, results => !results.isEmpty && results.all id
  | .any, results => results.any id

theorem evaluateAll_eq {groups : List LogicGroup}
    (each : ∀ g ∈ groups, ∀ trail, g.evaluate document trail =
      ((g.evaluate document []).1, trail ++ heldTexts document g.leaves)) (trail : List String) :
    evaluateAll document trail groups =
      (groups.map fun g => (g.evaluate document []).1,
        trail ++ heldTexts document (groups.flatMap leaves)) := by
  induction groups generalizing trail with
  | nil => simp [evaluateAll, heldTexts]
  | cons g rest ih =>
    have hg := each g (by simp) trail
    have hr := ih (fun g hg => each g (by simp [hg])) (trail ++ heldTexts document g.leaves)
    simp [evaluateAll, hg, hr]

/-- One step of the evaluation, when the groups inside only add to the trail. -/
theorem evaluate_mk_of_each {logic : Logic} {conditions : List Condition}
    {groups : List LogicGroup} (each : ∀ g ∈ groups, ∀ trail, g.evaluate document trail =
      ((g.evaluate document []).1, trail ++ heldTexts document g.leaves)) (trail : List String) :
    evaluate document trail ⟨logic, conditions, groups⟩ =
      (combine logic (outcomes document conditions groups),
        trail ++ heldTexts document (leaves ⟨logic, conditions, groups⟩)) := by
  have hs : evaluateAll document
      (trail ++ (conditions.filter (·.holds document)).map Condition.text) groups = _ :=
    evaluateAll_eq each (trail ++ heldTexts document conditions)
  rw [evaluate, hs, leaves_mk, heldTexts_append, ← List.append_assoc]
  cases logic <;> rfl

/-- What is added to the trail depends neither on the outcome nor on the trail so far. -/
theorem evaluate_eq (g : LogicGroup) (trail : List String) :
    g.evaluate document trail =
      ((g.evaluate document []).1, trail ++ heldTexts document g.leaves) := by
  induction g using nesting_induction generalizing trail with
  | step logic conditions groups ih =>
    rw [evaluate_mk_of_each ih trail, evaluate_mk_of_each ih []]

theorem evaluate_mk (logic : Logic) (conditions : List Condition) (groups : List LogicGroup)
    (trail : List String) :
    evaluate document trail ⟨logic, conditions, groups⟩ =
      (combine logic (outcomes document conditions groups),
        trail ++ heldTexts document (leaves ⟨logic, conditions, groups⟩)) :=
  evaluate_mk_of_each (fun g _ => evaluate_eq g) trail

theorem combine_all_iff {conditions : List Condition} {groups : List LogicGroup} :
    combine .all (outcomes document conditions groups) = true ↔
      (conditions ≠ [] ∨ groups ≠ []) ∧ (∀ c ∈ conditions, c.holds document = true) ∧
        ∀ g ∈ groups, (g.evaluate document []).1 = true := by
  have parts : outcomes document conditions groups ≠ [] ↔ conditions ≠ [] ∨ groups ≠ [] := by
    cases conditions <;> simp [outcomes]
  simp only [combine, Bool.and_eq_true, Bool.not_eq_true', List.isEmpty_eq_false_iff, parts]
  simp [outcomes]

theorem combine_any_iff {conditions : List Condition} {groups : List LogicGroup} :
    combine .any (outcomes document conditions groups) = true ↔
      (∃ c ∈ conditions, c.holds document = true) ∨
        ∃ g ∈ groups, (g.evaluate document []).1 = true := by
  simp [combine, outcomes]

theorem evaluate_iff_holds {g : LogicGroup} {trail : List String} :
    (g.evaluate document trail).1 = true ↔ g.Holds document := by
  induction g using nesting_induction generalizing trail with
  | step logic conditions groups ih =>
    rw [evaluate_mk]
    cases logic with
    | all =>
      rw [combine_all_iff, holds_all_iff]
      exact and_congr_right' (and_congr_right' (forall₂_congr fun g hg => ih g hg))
    | any =>
      rw [combine_any_iff, holds_any_iff]
      exact or_congr_right (exists_congr fun g => and_congr_right fun hg => ih g hg)

theorem evaluate_trail (g : LogicGroup) (trail : List String) :
    (g.evaluate document trail).2 = trail ++ heldTexts document g.leaves := by
  rw [evaluate_eq]

theorem evaluate_outcome (g : LogicGroup) (trail : List String) :
    (g.evaluate document trail).1 = combine g.logic (outcomes document g.conditions g.groups) := by
  obtain ⟨logic, conditions, groups⟩ := g
  rw [evaluate_mk]

theorem length_lt_of_evaluate {g : LogicGroup} {trail : List String}
    (held : (g.evaluate document trail).1 = true) :
    trail.length < (g.evaluate document trail).2.length := by
  have hh := evaluate_iff_holds.mp held
  have hpos := List.length_pos_iff.mpr hh.heldTexts_ne_nil
  rw [evaluate_trail, List.length_append]
  omega

end LogicGroup

end CloudThreat
