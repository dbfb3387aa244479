import CloudThreat.Proofs.JsonEquality
import CloudThreat.WordSize

namespace CloudThreat

variable {a b m n d : Nat}

theorem roundHalfEven_scale {c : Nat} (positive : 0 < c) :
    roundHalfEven (a * c) (d * c) = roundHalfEven a d := by
  have quotient : a * c / (d * c) = a / d := Nat.mul_div_mul_right a d positive
  have rest : a * c % (d * c) = a % d * c := Nat.mul_mod_mul_right c a d
  have below : 2 * (a % d * c) < d * c ↔ 2 * (a % d) < d := by
    rw [← Nat.mul_assoc]
    exact Nat.mul_lt_mul_right positive
  have above : d * c < 2 * (a % d * c) ↔ d < 2 * (a % d) := by
    rw [← Nat.mul_assoc]
    exact Nat.mul_lt_mul_right positive
  simp only [roundHalfEven, quotient, rest, below, above]

theorem roundHalfEven_mul_self (positive : 0 < d) : roundHalfEven (m * d) d = m := by
  simp [roundHalfEven, Nat.mul_div_cancel m positive, positive]

theorem roundHalfEven_of_lt_half (below : 2 * (a % d) < d) : roundHalfEven a d = a / d :=
  if_pos below

theorem roundHalfEven_of_half_lt (above : d < 2 * (a % d)) : roundHalfEven a d = a / d + 1 := by
  unfold roundHalfEven
  dsimp only
  rw [if_neg (by omega), if_pos above]

theorem le_roundHalfEven : a / d ≤ roundHalfEven a d := by
  unfold roundHalfEven
  dsimp only
  split
  · exact le_rfl
  · split <;> omega

theorem roundHalfEven_le : roundHalfEven a d ≤ a / d + 1 := by
  unfold roundHalfEven
  dsimp only
  split
  · omega
  · split <;> omega

theorem roundHalfEven_mono (h : a ≤ b) : roundHalfEven a d ≤ roundHalfEven b d := by
  have quotients : a / d ≤ b / d := Nat.div_le_div_right h
  rcases Nat.lt_or_eq_of_le quotients with apart | same
  · calc roundHalfEven a d ≤ a / d + 1 := roundHalfEven_le
      _ ≤ b / d := apart
      _ ≤ roundHalfEven b d := le_roundHalfEven
  have rests : a % d ≤ b % d := by
    have first := Nat.div_add_mod a d
    have second := Nat.div_add_mod b d
    rw [same] at first
    omega
  rcases Nat.lt_or_ge (2 * (a % d)) d with below | _
  · rw [roundHalfEven_of_lt_half below, same]
    exact le_roundHalfEven
  rcases Nat.lt_or_eq_of_le rests with farther | equal
  · rw [roundHalfEven_of_half_lt (a := b) (by omega), ← same]
    exact roundHalfEven_le
  · rw [roundHalfEven, roundHalfEven, same, equal]

/-- How far apart the doubles are that are as large as a number. -/
def spacing (n : Nat) : Nat := 2 ^ (n.log2 + 1 - 53)

/-- The nearest number with no more than 53 binary digits before its zeros; of two as near, the one
with an even last digit. -/
def nearestNat (n : Nat) : Nat := roundHalfEven n (spacing n) * spacing n

theorem spacing_pos (n : Nat) : 0 < spacing n := Nat.two_pow_pos _

/-- A power of two is a multiple of the spacing up to the next one. -/
theorem roundHalfEven_two_pow_mul_spacing {k : Nat} (h : n.log2 + 1 - 53 ≤ k) :
    roundHalfEven (2 ^ k) (spacing n) * spacing n = 2 ^ k := by
  have multiple : 2 ^ k = 2 ^ (k - (n.log2 + 1 - 53)) * spacing n := by
    rw [spacing, ← Nat.pow_add, Nat.sub_add_cancel h]
  rw [multiple, roundHalfEven_mul_self (spacing_pos n)]

theorem two_pow_log2_le_nearestNat (h : n ≠ 0) : 2 ^ n.log2 ≤ nearestNat n := by
  rw [← roundHalfEven_two_pow_mul_spacing (n := n) (k := n.log2) (by omega)]
  exact Nat.mul_le_mul_right _ (roundHalfEven_mono (Nat.log2_self_le h))

theorem nearestNat_le_two_pow : nearestNat n ≤ 2 ^ (n.log2 + 1) := by
  rw [← roundHalfEven_two_pow_mul_spacing (n := n) (k := n.log2 + 1) (by omega)]
  exact Nat.mul_le_mul_right _ (roundHalfEven_mono Nat.lt_log2_self.le)

theorem nearestNat_mono (h : m ≤ n) : nearestNat m ≤ nearestNat n := by
  rcases Nat.eq_zero_or_pos m with rfl | positive
  · exact Nat.zero_le _
  have digits : m.log2 ≤ n.log2 := by
    rw [Nat.le_log2 (by omega)]
    exact (Nat.log2_self_le (by omega)).trans h
  rcases Nat.lt_or_ge m.log2 n.log2 with longer | same
  · calc nearestNat m ≤ 2 ^ (m.log2 + 1) := nearestNat_le_two_pow
      _ ≤ 2 ^ n.log2 := Nat.pow_le_pow_right (by decide) longer
      _ ≤ nearestNat n := two_pow_log2_le_nearestNat (by omega)
  · have step : spacing m = spacing n := by
      rw [spacing, spacing, Nat.le_antisymm digits same]
    rw [nearestNat, nearestNat, step]
    exact Nat.mul_le_mul_right _ (roundHalfEven_mono h)

theorem nearestNat_of_le (h : n ≤ 2 ^ 53) : nearestNat n = n := by
  rcases Nat.lt_or_eq_of_le h with short | rfl
  · have digits : n.log2 + 1 - 53 = 0 := by
      rcases Nat.eq_zero_or_pos n with rfl | positive
      · rfl
      · have := (Nat.log2_lt (by omega)).mpr short
        omega
    have one : spacing n = 1 := by rw [spacing, digits]; rfl
    have exact := roundHalfEven_mul_self (m := n) (d := 1) (by decide)
    rw [Nat.mul_one] at exact
    rw [nearestNat, one, exact, Nat.mul_one]
  · decide +kernel

/-- The whole number that the nearest double is. -/
def nearest (i : Int) : Int :=
  if i < 0 then -(nearestNat i.natAbs : Int) else nearestNat i.natAbs

theorem nearest_mono {i j : Int} (h : i ≤ j) : nearest i ≤ nearest j := by
  unfold nearest
  split
  · split
    · have := nearestNat_mono (m := j.natAbs) (n := i.natAbs) (by omega)
      omega
    · omega
  · have := nearestNat_mono (m := i.natAbs) (n := j.natAbs) (by omega)
    rw [if_neg (by omega)]
    omega

theorem nearest_of_le {i : Int} (h : i.natAbs ≤ 2 ^ 53) : nearest i = i := by
  rw [nearest, nearestNat_of_le h]
  split <;> omega

/-- Two numbers so near to zero do not become one double. -/
theorem eq_of_nearest_eq {i j : Int} (hi : i.natAbs ≤ 2 ^ 53) (hj : j.natAbs ≤ 2 ^ 53)
    (h : nearest i = nearest j) : i = j := by
  rwa [nearest_of_le hi, nearest_of_le hj] at h

theorem log2_mul_two_pow (h : n ≠ 0) (k : Nat) : (n * 2 ^ k).log2 = n.log2 + k := by
  have some : n * 2 ^ k ≠ 0 := Nat.mul_ne_zero h (Nat.two_pow_pos k).ne'
  rw [Nat.log2_eq_iff some, Nat.add_right_comm, Nat.pow_add, Nat.pow_add]
  exact ⟨Nat.mul_le_mul_right _ (Nat.log2_self_le h),
    Nat.mul_lt_mul_of_pos_right Nat.lt_log2_self (Nat.two_pow_pos k)⟩

namespace FloatFormat

/-- A format of 53 digits that counts in units of `2 ^ (-u)`. -/
theorem roundHalfEven_units {u : Nat} (fine : 52 ≤ u) (positive : 0 < n) {step : Nat}
    (h : step = (n * 2 ^ u).log2 + 1 - 53) :
    roundHalfEven (n * 2 ^ u) (2 ^ step) * 2 ^ step = nearestNat n * 2 ^ u := by
  rw [log2_mul_two_pow positive.ne'] at h
  rcases Nat.lt_or_ge (n.log2 + 1) 53 with short | long
  · have exponent : u = 52 - n.log2 + step := by omega
    have units : n * 2 ^ u = n * 2 ^ (52 - n.log2) * 2 ^ step := by
      rw [exponent, Nat.pow_add, Nat.mul_assoc]
    have small : n ≤ 2 ^ 53 :=
      Nat.lt_log2_self.le.trans (Nat.pow_le_pow_right (by decide) short.le)
    rw [units, roundHalfEven_mul_self (Nat.two_pow_pos _), ← units, nearestNat_of_le small]
  · have exponent : step = n.log2 + 1 - 53 + u := by omega
    have units : 2 ^ step = spacing n * 2 ^ u := by rw [exponent, Nat.pow_add, spacing]
    rw [units, roundHalfEven_scale (Nat.two_pow_pos u), nearestNat, Nat.mul_assoc]

theorem round_units {u limit : Nat} (fine : 52 ≤ u) (fits : n.log2 + 1 + u < limit) :
    round ⟨53, 0, limit⟩ (n * 2 ^ u) 1 = some (nearestNat n * 2 ^ u) := by
  have bound : nearestNat n * 2 ^ u < 2 ^ limit := by
    calc nearestNat n * 2 ^ u ≤ 2 ^ (n.log2 + 1) * 2 ^ u :=
          Nat.mul_le_mul_right _ nearestNat_le_two_pow
      _ = 2 ^ (n.log2 + 1 + u) := (Nat.pow_add ..).symm
      _ < 2 ^ limit := Nat.pow_lt_pow_right (by decide) fits
  unfold round stepAt
  dsimp only
  rw [Nat.div_one, Nat.one_mul, Nat.zero_max, Nat.pow_eq, Nat.pow_eq]
  rcases Nat.eq_zero_or_pos n with rfl | positive
  · have zero : nearestNat 0 = 0 := nearestNat_of_le (Nat.zero_le _)
    rw [zero, Nat.zero_mul] at bound ⊢
    exact if_pos bound
  · rw [roundHalfEven_units fine positive rfl, if_pos bound]

end FloatFormat

namespace Double

/-- The number of units in one stays under a name, since it is too large to be computed. -/
theorem exists_units : ∃ u, 52 ≤ u ∧ 65 + u < 2098 ∧ unitsPerOne = Nat.pow 2 u := by
  refine ⟨1074, by decide, by decide, ?_⟩
  unfold unitsPerOne
  exact Eq.refl _

theorem unitsPerOne_pos : 0 < unitsPerOne := by
  obtain ⟨u, _, _, units⟩ := exists_units
  rw [units]
  exact Nat.two_pow_pos u

theorem log2_le_of_le (h : n ≤ 2 ^ 64) : n.log2 ≤ 64 := by
  rcases Nat.eq_zero_or_pos n with rfl | positive
  · decide
  · have := (Nat.log2_lt (n := n) (k := 65) (by omega)).mpr (by omega)
    omega

theorem ofInt_eq {i : Int} (h : i.natAbs ≤ 2 ^ 64) :
    ofInt i = finite (decide (i < 0)) (nearestNat i.natAbs * unitsPerOne) := by
  have digits := log2_le_of_le h
  obtain ⟨u, fine, fits, units⟩ := exists_units
  have rounded : FloatFormat.double.round (i.natAbs * 2 ^ u) 1 =
      some (nearestNat i.natAbs * 2 ^ u) :=
    FloatFormat.round_units fine (by omega)
  rw [ofInt, ofRatioIn_eq, units, Nat.pow_eq]
  dsimp only
  rw [rounded]

theorem signed_nearestNat (i : Int) (units : Nat) :
    signed (decide (i < 0)) (nearestNat i.natAbs * units) = nearest i * units := by
  unfold signed nearest
  by_cases negative : i < 0
  · rw [decide_eq_true negative, if_pos rfl, if_pos negative, Int.natCast_mul, Int.neg_mul]
  · rw [decide_eq_false negative, if_neg Bool.false_ne_true, if_neg negative, Int.natCast_mul]

variable {i j : Int}

theorem eq_ofInt_iff (hi : i.natAbs ≤ 2 ^ 64) (hj : j.natAbs ≤ 2 ^ 64) :
    (ofInt i).eq (ofInt j) = true ↔ nearest i = nearest j := by
  rw [ofInt_eq hi, ofInt_eq hj, eq, beq_iff_eq, signed_nearestNat, signed_nearestNat]
  exact Int.mul_eq_mul_right_iff (Int.natCast_pos.mpr unitsPerOne_pos).ne'

theorem lt_ofInt_iff (hi : i.natAbs ≤ 2 ^ 64) (hj : j.natAbs ≤ 2 ^ 64) :
    (ofInt i).lt (ofInt j) = true ↔ nearest i < nearest j := by
  rw [ofInt_eq hi, ofInt_eq hj, lt, decide_eq_true_iff, signed_nearestNat, signed_nearestNat]
  exact Int.mul_lt_mul_right (Int.natCast_pos.mpr unitsPerOne_pos)

theorem le_ofInt_iff (hi : i.natAbs ≤ 2 ^ 64) (hj : j.natAbs ≤ 2 ^ 64) :
    (ofInt i).le (ofInt j) = true ↔ nearest i ≤ nearest j := by
  rw [le, Bool.or_eq_true, lt_ofInt_iff hi hj, eq_ofInt_iff hi hj, Int.le_iff_lt_or_eq]

end Double

end CloudThreat
