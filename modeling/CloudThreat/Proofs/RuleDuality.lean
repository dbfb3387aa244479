import CloudThreat.Proofs.RuleEvaluation

namespace CloudThreat

namespace Operator

/-- The operators that come in pairs, one for the negation of the other. -/
def paired : List Operator :=
  [equals, notEquals, isIn, notIn, contains, notContains, present, absent]

/-- The other operator of a pair. -/
def opposite : Operator → Operator
  | equals => notEquals
  | notEquals => equals
  | isIn => notIn
  | notIn => isIn
  | contains => notContains
  | notContains => contains
  | present => absent
  | absent => present
  | op => op

end Operator

namespace Condition

/-- Nothing is in an expected value that is no list, and everything is not in it. -/
theorem test_notIn (found : Option Json) (expected : Json) :
    test .notIn found expected = !test .isIn found expected := by
  cases expected <;> simp [test, isIn, Json.isArray]

theorem test_opposite {op : Operator} (h : op ∈ Operator.paired) (found : Option Json)
    (expected : Json) : test op.opposite found expected = !test op found expected := by
  simp only [Operator.paired, List.mem_cons, List.not_mem_nil, or_false] at h
  rcases h with rfl | rfl | rfl | rfl | rfl | rfl | rfl | rfl
  · rfl
  · exact (Bool.not_not _).symm
  · exact test_notIn found expected
  · rw [test_notIn, Bool.not_not]
    rfl
  · rfl
  · exact (Bool.not_not _).symm
  · exact (Option.not_isSome found).symm
  · exact (Option.not_isNone found).symm

/-- The condition with the other operator of its pair. -/
def opposite (c : Condition) : Condition :=
  { c with operator := c.operator.opposite }

theorem holds_opposite {c : Condition} (h : c.operator ∈ Operator.paired) (document : Json) :
    c.opposite.holds document = !c.holds document :=
  test_opposite h _ _

end Condition

namespace Logic

def dual : Logic → Logic
  | all => any
  | any => all

end Logic

namespace LogicGroup

mutual

/-- The group with both ways of joining parts exchanged, and all operators with their opposites. -/
def dual : LogicGroup → LogicGroup
  | ⟨logic, conditions, groups⟩ =>
    ⟨logic.dual, conditions.map Condition.opposite, dualOfAll groups⟩

def dualOfAll : List LogicGroup → List LogicGroup
  | [] => []
  | g :: rest => dual g :: dualOfAll rest

end

theorem dualOfAll_eq_map (groups : List LogicGroup) : dualOfAll groups = groups.map dual := by
  induction groups with
  | nil => rfl
  | cons g rest ih => simp [dualOfAll, ih]

@[simp]
theorem dual_mk (logic : Logic) (conditions : List Condition) (groups : List LogicGroup) :
    dual ⟨logic, conditions, groups⟩ =
      ⟨logic.dual, conditions.map Condition.opposite, groups.map dual⟩ := by
  rw [dual, dualOfAll_eq_map]

mutual

/-- A group and all groups in it. -/
def within : LogicGroup → List LogicGroup
  | ⟨logic, conditions, groups⟩ => ⟨logic, conditions, groups⟩ :: withinAll groups

def withinAll : List LogicGroup → List LogicGroup
  | [] => []
  | g :: rest => within g ++ withinAll rest

end

theorem withinAll_eq_flatMap (groups : List LogicGroup) :
    withinAll groups = groups.flatMap within := by
  induction groups with
  | nil => rfl
  | cons g rest ih => simp [withinAll, ih]

@[simp]
theorem within_mk (logic : Logic) (conditions : List Condition) (groups : List LogicGroup) :
    within ⟨logic, conditions, groups⟩ =
      ⟨logic, conditions, groups⟩ :: groups.flatMap within := by
  rw [within, withinAll_eq_flatMap]

theorem combine_dual {results : List Bool} (nonempty : results ≠ []) (logic : Logic) :
    combine logic.dual (results.map (!·)) = !combine logic results := by
  have some : results.isEmpty = false := List.isEmpty_eq_false_iff.mpr nonempty
  cases logic with
  | all => simp [Logic.dual, combine, some, List.not_all_eq_any_not]
  | any => simp [Logic.dual, combine, some, List.not_any_eq_all_not]

variable {document : Json}

theorem outcomes_dual {conditions : List Condition} {groups : List LogicGroup}
    (paired : ∀ c ∈ conditions, c.operator ∈ Operator.paired)
    (nested : ∀ g ∈ groups, (g.dual.evaluate document []).1 = !(g.evaluate document []).1) :
    outcomes document (conditions.map Condition.opposite) (groups.map dual) =
      (outcomes document conditions groups).map (!·) := by
  rw [outcomes, outcomes, List.map_append, List.map_map, List.map_map, List.map_map, List.map_map]
  congr 1
  · exact List.map_congr_left fun c hc => Condition.holds_opposite (paired c hc) document
  · exact List.map_congr_left nested

/-- The dual of a rule holds just where the rule does not, if there is no group without parts and
every operator has an opposite. -/
theorem evaluate_dual {g : LogicGroup} (filled : ∀ inner ∈ g.within, inner.isEmpty = false)
    (paired : ∀ c ∈ g.leaves, c.operator ∈ Operator.paired) (document : Json)
    (trail : List String) :
    (g.dual.evaluate document trail).1 = !(g.evaluate document trail).1 := by
  induction g using nesting_induction generalizing trail with
  | step logic conditions groups ih =>
    rw [within_mk, List.forall_mem_cons] at filled
    rw [leaves_mk, List.forall_mem_append] at paired
    have nested : ∀ g ∈ groups, (g.dual.evaluate document []).1 = !(g.evaluate document []).1 := by
      intro g hg
      refine ih g hg (fun inner hi => ?_) (fun c hc => ?_) []
      · exact filled.2 inner (List.mem_flatMap.mpr ⟨g, hg, hi⟩)
      · exact paired.2 c (List.mem_flatMap.mpr ⟨g, hg, hc⟩)
    have parts : outcomes document conditions groups ≠ [] := by
      have some := filled.1
      cases conditions with
      | nil =>
        cases groups with
        | nil => simp [isEmpty] at some
        | cons g rest => simp [outcomes]
      | cons c rest => simp [outcomes]
    rw [dual_mk, evaluate_mk, evaluate_mk, outcomes_dual paired.1 nested, combine_dual parts]

/-- A rule with fields that are absent, null or of another type, and with a text for a list. -/
def unprotected : LogicGroup :=
  ⟨.all, [⟨"acl", .isIn, .str "private"⟩, ⟨"versioning", .notEquals, .bool true⟩],
    [⟨.any, [⟨"logging", .absent, .null⟩, ⟨"tags", .notContains, .str "audited"⟩],
      [⟨.all, [⟨"acl", .notIn, .arr [.str "private"]⟩, ⟨"owner", .present, .null⟩], []⟩]⟩]⟩

def looseBucket : Json :=
  .obj [("logging", .null), ("tags", .num (.int 3)), ("versioning", .str "on")]

theorem unprotected_dual_holds :
    (∀ inner ∈ unprotected.within, inner.isEmpty = false) ∧
    (∀ c ∈ unprotected.leaves, c.operator ∈ Operator.paired) ∧
    (unprotected.evaluate looseBucket []).1 = false ∧
    (unprotected.dual.evaluate looseBucket []).1 = true := by
  have filled : ∀ inner ∈ unprotected.within, inner.isEmpty = false := by decide
  have paired : ∀ c ∈ unprotected.leaves, c.operator ∈ Operator.paired := by decide
  have fails : (unprotected.evaluate looseBucket []).1 = false := by decide
  refine ⟨filled, paired, fails, ?_⟩
  rw [evaluate_dual filled paired, fails]
  rfl

end LogicGroup

end CloudThreat
