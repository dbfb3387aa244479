import CloudThreat.Proofs.PathResolution
import CloudThreat.Proofs.RuleDuality

namespace CloudThreat

namespace Operator

/-- What `contains` is split into: one operator for lists, one for objects and one for texts. -/
def split : List Operator := [containsAny, mapSuperset, substring]

end Operator

theorem Json.equal_null_iff {j : Json} : j.equal .null = true ↔ j = .null := by
  cases j <;> simp [equal]

namespace Condition

variable {found : Option Json} {expected : Json}

/-- Equality takes what is absent for null, and no path leads to a null itself. -/
theorem test_equals_null (present : found ≠ some .null) (expected : Json) :
    test .equals found .null = test .absent found expected := by
  cases found with
  | none => rfl
  | some value =>
    have other : value ≠ .null := fun h => present (congrArg some h)
    exact eq_false_of_ne_true (mt Json.equal_null_iff.mp other)

theorem test_isIn_iff {items : List Json} :
    test .isIn found (.arr items) = true ↔ ∃ item ∈ items, test .equals found item = true :=
  List.any_eq_true

/-- The one of these operators that is for values of this kind, if any is. -/
def splitFor : Json → Option Operator
  | .arr _ => some .containsAny
  | .obj _ => some .mapSuperset
  | .str _ => some .substring
  | _ => none

/-- Each of them is `contains`, held to its own kind of values. -/
theorem test_of_split {op : Operator} (h : op ∈ Operator.split) (found : Option Json)
    (expected : Json) :
    test op found expected =
      (found.bind splitFor == some op && test .contains found expected) := by
  simp only [Operator.split, List.mem_cons, List.not_mem_nil, or_false] at h
  cases found with
  | none => rcases h with rfl | rfl | rfl <;> rfl
  | some value => rcases h with rfl | rfl | rfl <;> cases value <;> rfl

theorem exists_splitFor_of_contains (held : test .contains found expected = true) :
    ∃ op ∈ Operator.split, found.bind splitFor = some op := by
  cases found with
  | none => cases held
  | some value =>
    cases value with
    | arr items => exact ⟨.containsAny, by decide, rfl⟩
    | obj fields => exact ⟨.mapSuperset, by decide, rfl⟩
    | str s => exact ⟨.substring, by decide, rfl⟩
    | null | bool b | num n => cases held

theorem test_contains_iff :
    test .contains found expected = true ↔
      ∃ op ∈ Operator.split, test op found expected = true := by
  constructor
  · intro held
    obtain ⟨op, member, kind⟩ := exists_splitFor_of_contains held
    refine ⟨op, member, ?_⟩
    rw [test_of_split member, kind, held, beq_self_eq_true]
    rfl
  · rintro ⟨op, member, held⟩
    rw [test_of_split member, Bool.and_eq_true] at held
    exact held.2

theorem split_unique {op other : Operator} (h : op ∈ Operator.split) (h' : other ∈ Operator.split)
    (held : test op found expected = true) (held' : test other found expected = true) :
    op = other := by
  rw [test_of_split h, Bool.and_eq_true, beq_iff_eq] at held
  rw [test_of_split h', Bool.and_eq_true, beq_iff_eq] at held'
  exact Option.some.inj (held.1.symm.trans held'.1)

/-- To equal null is to be absent; to be in a list is to equal one of its items; `notIn` is the
negation of `isIn`, whatever is expected; and `contains` holds where one of the operators does that
it is split into, of which no two hold together. -/
theorem holds_agrees (document : Json) (field : String) (expected : Json) :
    (Condition.mk field .equals .null).holds document =
        (Condition.mk field .absent expected).holds document ∧
      (∀ items : List Json, (Condition.mk field .isIn (.arr items)).holds document = true ↔
        ∃ item ∈ items, (Condition.mk field .equals item).holds document = true) ∧
      (Condition.mk field .notIn expected).holds document =
        !(Condition.mk field .isIn expected).holds document ∧
      ((Condition.mk field .contains expected).holds document = true ↔
        ∃ op ∈ Operator.split, (Condition.mk field op expected).holds document = true) ∧
      ∀ op ∈ Operator.split, ∀ other ∈ Operator.split,
        (Condition.mk field op expected).holds document = true →
        (Condition.mk field other expected).holds document = true → op = other := by
  refine ⟨?absent, fun items => test_isIn_iff, test_notIn _ _, test_contains_iff, ?unique⟩
  case absent => exact test_equals_null (Path.resolve_ne_null document field) expected
  case unique =>
    intro op h other h' held held'
    exact split_unique h h' held held'

end Condition

end CloudThreat
