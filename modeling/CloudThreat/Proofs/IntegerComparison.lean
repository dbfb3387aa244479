import CloudThreat.Condition
import CloudThreat.Proofs.NearestDouble
import Mathlib.Algebra.Group.Int.Defs

namespace CloudThreat

namespace Json

variable {x y : Json}

/-- A list or an object with one value of it left out. -/
inductive Frame where
  | item (before after : List Json)
  | field (before : JsonObject) (key : String) (after : JsonObject)

namespace Frame

def fill : Frame → Json → Json
  | item before after, j => .arr (before ++ j :: after)
  | field before key after, j => .obj (before ++ (key, j) :: after)

/-- Frames with equal values at the same places. -/
inductive Alike : Frame → Frame → Prop
  | item {before before' after after' : List Json} : equalItems before before' = true →
      equalItems after after' = true → Alike (item before after) (item before' after')
  | field {before before' after after' : JsonObject} {key : String} :
      equalFields before before' = true → equalFields after after' = true →
      Alike (field before key after) (field before' key after')

end Frame

/-- A value in nested frames, the outermost first. -/
def within (frames : List Frame) (j : Json) : Json :=
  frames.foldr Frame.fill j

theorem equalItems_append {before before' : List Json} (h : equalItems before before' = true)
    (items items' : List Json) :
    equalItems (before ++ items) (before' ++ items') = equalItems items items' := by
  induction before generalizing before' with
  | nil =>
    cases before' with
    | nil => rfl
    | cons j rest => cases h
  | cons j rest ih =>
    cases before' with
    | nil => cases h
    | cons j' rest' =>
      rw [equalItems, Bool.and_eq_true] at h
      rw [List.cons_append, List.cons_append, equalItems, h.1, ih h.2, Bool.true_and]

theorem equalFields_append {before before' : JsonObject} (h : equalFields before before' = true)
    (fields fields' : JsonObject) :
    equalFields (before ++ fields) (before' ++ fields') = equalFields fields fields' := by
  induction before generalizing before' with
  | nil =>
    cases before' with
    | nil => rfl
    | cons f rest => cases h
  | cons f rest ih =>
    cases before' with
    | nil => cases h
    | cons f' rest' =>
      rw [equalFields, Bool.and_eq_true, Bool.and_eq_true] at h
      rw [List.cons_append, List.cons_append, equalFields, h.1.1, h.1.2, ih h.2]
      rfl

theorem Frame.Alike.equal_fill {f g : Frame} (h : f.Alike g) :
    (f.fill x).equal (g.fill y) = x.equal y := by
  cases h with
  | item before after =>
    rw [fill, fill, equal, equalItems_append before, equalItems, after, Bool.and_true]
  | field before after =>
    rw [fill, fill, equal, equalFields_append before, equalFields, after, beq_self_eq_true,
      Bool.true_and, Bool.and_true]

/-- Whatever stands around two values, if it is equal, they alone decide. -/
theorem equal_within {frames frames' : List Frame} (h : List.Forall₂ Frame.Alike frames frames') :
    (within frames x).equal (within frames' y) = x.equal y := by
  induction h with
  | nil => rfl
  | cons alike _ ih => exact alike.equal_fill.trans ih

end Json

/-- A whole number that a JSON number can be: one that 64 bits hold, with a sign or without. -/
def JsonNumber.isWhole (i : Int) : Bool :=
  WordSize.isSigned 64 i || WordSize.isUnsigned 64 i

theorem JsonNumber.isWhole_iff {i : Int} : isWhole i = true ↔ -2 ^ 63 ≤ i ∧ i < 2 ^ 64 := by
  have signed : WordSize.maxUnsigned (64 - 1) = 2 ^ 63 - 1 := rfl
  have unsigned : WordSize.maxUnsigned 64 = 2 ^ 64 - 1 := rfl
  simp only [isWhole, WordSize.isSigned, WordSize.isUnsigned, Bool.or_eq_true, Bool.and_eq_true,
    decide_eq_true_eq, signed, unsigned]
  omega

theorem JsonNumber.natAbs_le_of_isWhole {i : Int} (h : isWhole i = true) : i.natAbs ≤ 2 ^ 64 := by
  have range := isWhole_iff.mp h
  omega

namespace Condition

/-- How a field that holds `a` compares with an expected `b` when numbers compare by value. -/
structure ComparesByValue (outcome : Operator → Bool) (a b : Int) : Prop where
  equals : outcome .equals = true ↔ a = b
  notEquals : outcome .notEquals = true ↔ a ≠ b
  greater : outcome .greater = true ↔ b < a
  less : outcome .less = true ↔ a < b
  greaterOrEqual : outcome .greaterOrEqual = true ↔ b ≤ a
  lessOrEqual : outcome .lessOrEqual = true ↔ a ≤ b

/-- How they compare by the doubles that they become. -/
structure ComparesNearest (outcome : Operator → Bool) (a b : Int) : Prop where
  equals : outcome .equals = true ↔ nearest a = nearest b
  notEquals : outcome .notEquals = !outcome .equals
  greater : outcome .greater = true ↔ nearest b < nearest a
  less : outcome .less = true ↔ nearest a < nearest b
  greaterOrEqual : outcome .greaterOrEqual = true ↔ nearest b ≤ nearest a
  lessOrEqual : outcome .lessOrEqual = true ↔ nearest a ≤ nearest b

variable {a b : Int}

theorem test_comparesNearest (ha : JsonNumber.isWhole a = true) (hb : JsonNumber.isWhole b = true) :
    ComparesNearest (fun op => test op (some (.ofInt a)) (.ofInt b)) a b := by
  have hi := JsonNumber.natAbs_le_of_isWhole ha
  have hj := JsonNumber.natAbs_le_of_isWhole hb
  constructor <;> simp only [test, foundOrNull, compare, number?, Json.ofInt, Json.equal,
    JsonNumber.toDouble, Option.getD_some, Option.bind_some]
  case equals => exact Double.eq_ofInt_iff hi hj
  case greater => exact Double.lt_ofInt_iff hj hi
  case less => exact Double.lt_ofInt_iff hi hj
  case greaterOrEqual => exact Double.le_ofInt_iff hj hi
  case lessOrEqual => exact Double.le_ofInt_iff hi hj

theorem nearest_lt_iff (apart : nearest a = nearest b → a = b) : nearest a < nearest b ↔ a < b := by
  constructor
  · intro h
    by_contra turned
    have := nearest_mono (Int.not_lt.mp turned)
    omega
  · intro h
    have distinct : nearest a ≠ nearest b := fun same => absurd (apart same) (by omega)
    have := nearest_mono h.le
    omega

theorem ComparesNearest.byValue {outcome : Operator → Bool} (h : ComparesNearest outcome a b)
    (apart : nearest a = nearest b → a = b) : ComparesByValue outcome a b := by
  have apart' : nearest b = nearest a → b = a := fun same => (apart same.symm).symm
  have equals : outcome .equals = true ↔ a = b :=
    h.equals.trans ⟨apart, fun same => congrArg nearest same⟩
  refine ⟨equals, ?_, h.greater.trans (nearest_lt_iff apart'), h.less.trans (nearest_lt_iff apart),
    ?_, ?_⟩
  · rw [h.notEquals, Bool.not_eq_true', ← Bool.not_eq_true, equals]
  · rw [h.greaterOrEqual, ← Int.not_lt, nearest_lt_iff apart, Int.not_lt]
  · rw [h.lessOrEqual, ← Int.not_lt, nearest_lt_iff apart', Int.not_lt]

/-- Whole numbers compare by value if they are equal or have doubles of their own, as all have up to
`2 ^ 53` from zero; of others, neither is the greater. Inside lists and objects they are equal just
where they are outside. -/
theorem comparesByValue_of_nearest :
    (∀ (document : Json) (field : String) (a b : Int), JsonNumber.isWhole a = true →
      JsonNumber.isWhole b = true → Path.resolve document field = some (.ofInt a) →
      ((nearest a = nearest b → a = b) →
        ComparesByValue (fun op => (Condition.mk field op (.ofInt b)).holds document) a b) ∧
      (nearest a = nearest b →
        (Condition.mk field .greater (.ofInt b)).holds document = false ∧
        (Condition.mk field .less (.ofInt b)).holds document = false ∧
        (Condition.mk field .greaterOrEqual (.ofInt b)).holds document = true ∧
        (Condition.mk field .lessOrEqual (.ofInt b)).holds document = true)) ∧
      (∀ a b : Int, a.natAbs ≤ 2 ^ 53 → b.natAbs ≤ 2 ^ 53 → nearest a = nearest b → a = b) ∧
      ∀ (frames frames' : List Json.Frame) (a b : Int),
        List.Forall₂ Json.Frame.Alike frames frames' →
        (Json.within frames (.ofInt a)).equal (Json.within frames' (.ofInt b)) =
          (Json.ofInt a).equal (.ofInt b) := by
  refine ⟨?alone, fun a b ha hb => eq_of_nearest_eq ha hb, fun _ _ a b h => Json.equal_within h⟩
  case alone =>
    intro document field a b ha hb found
    have compares := test_comparesNearest ha hb
    simp only [holds, found]
    refine ⟨compares.byValue, fun met => ⟨?_, ?_, ?_, ?_⟩⟩
    · exact eq_false_of_ne_true fun h => absurd (compares.greater.mp h) (by omega)
    · exact eq_false_of_ne_true fun h => absurd (compares.less.mp h) (by omega)
    · exact compares.greaterOrEqual.mpr (by omega)
    · exact compares.lessOrEqual.mpr (by omega)

/-- One more byte than a double of this size can tell. -/
def volume : Json := .obj [("size", .ofInt 9007199254740993)]

/-- A list of sizes of which the second is left out. -/
def sizes : List Json.Frame := [.field [("id", .null)] "sizes" [], .item [.ofInt 1] []]

def sizesInDoubles : List Json.Frame :=
  [.field [("id", .null)] "sizes" [], .item [.num (.float (.ofInt 1))] []]

theorem volume_comparesByValue :
    JsonNumber.isWhole 9007199254740993 = true ∧ JsonNumber.isWhole 9007199254740994 = true ∧
    Path.resolve volume "size" = some (.ofInt 9007199254740993) ∧
    ComparesByValue (fun op => (Condition.mk "size" op (.ofInt 9007199254740994)).holds volume)
      9007199254740993 9007199254740994 ∧
    nearest 9007199254740993 = nearest 9007199254740992 ∧
    (Condition.mk "size" .lessOrEqual (.ofInt 9007199254740992)).holds volume = true ∧
    (nearest (-9007199254740992) = nearest 9007199254740992 →
      (-9007199254740992 : Int) = 9007199254740992) ∧
    List.Forall₂ Json.Frame.Alike sizes sizesInDoubles ∧
    (Json.within sizes (.ofInt 9007199254740993)).equal
      (Json.within sizesInDoubles (.ofInt 9007199254740994)) = false := by
  obtain ⟨alone, near, inside⟩ := comparesByValue_of_nearest
  have found : Path.resolve volume "size" = some (.ofInt 9007199254740993) := rfl
  have first : JsonNumber.isWhole 9007199254740993 = true := by decide +kernel
  have second : JsonNumber.isWhole 9007199254740994 = true := by decide +kernel
  have third : JsonNumber.isWhole 9007199254740992 = true := by decide +kernel
  have apart : nearest 9007199254740993 ≠ nearest 9007199254740994 := by decide +kernel
  have met : nearest 9007199254740993 = nearest 9007199254740992 := by decide +kernel
  have alike : List.Forall₂ Json.Frame.Alike sizes sizesInDoubles :=
    .cons (.field (by decide +kernel) rfl) (.cons (.item (by decide +kernel) rfl) .nil)
  refine ⟨first, second, found, ?_, met, ?_, near _ _ (by decide) (by decide), alike, ?_⟩
  · exact (alone volume "size" _ _ first second found).1 fun same => absurd same apart
  · exact ((alone volume "size" _ _ first third found).2 met).2.2.2
  · exact (inside _ _ 9007199254740993 9007199254740994 alike).trans (by decide +kernel)

/-- Of two numbers with one double, the greater is not found to be so. -/
theorem volume_not_comparesByValue :
    ¬ ComparesByValue (fun op => (Condition.mk "size" op (.ofInt 9007199254740992)).holds volume)
      9007199254740993 9007199254740992 := by
  intro compares
  have greater := compares.greater.mpr (by decide)
  exact absurd greater (by decide +kernel)

end Condition

end CloudThreat
