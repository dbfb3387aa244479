import CloudThreat.Severity
import Mathlib

namespace CloudThreat

namespace Double

/-- The place on the line, where `nan` has none of its own. -/
def place : Double → WithBot (WithTop Int)
  | finite negative units => ((signed negative units : Int) : WithTop Int)
  | infinite true => ⊥
  | infinite false => (⊤ : WithTop Int)
  | nan => ⊥

variable {x y z : Double}

theorem coe_lt_top (i : Int) : ((i : WithTop Int) : WithBot (WithTop Int)) < ⊤ :=
  WithBot.coe_lt_coe.mpr (WithTop.coe_lt_top i)

theorem lt_iff_place (hx : x ≠ nan) (hy : y ≠ nan) : x.lt y = true ↔ x.place < y.place := by
  rcases x with ⟨m, u⟩ | (_ | _) | _ <;> rcases y with ⟨n, v⟩ | (_ | _) | _ <;>
    simp_all [lt, place, coe_lt_top]

theorem eq_iff_place (hx : x ≠ nan) (hy : y ≠ nan) : x.eq y = true ↔ x.place = y.place := by
  rcases x with ⟨m, u⟩ | (_ | _) | _ <;> rcases y with ⟨n, v⟩ | (_ | _) | _ <;>
    simp_all [eq, place]

theorem le_iff_place (hx : x ≠ nan) (hy : y ≠ nan) : x.le y = true ↔ x.place ≤ y.place := by
  rw [le, Bool.or_eq_true, lt_iff_place hx hy, eq_iff_place hx hy, le_iff_lt_or_eq]

theorem ne_nan_of_le (h : x.le y = true) : x ≠ nan ∧ y ≠ nan := by
  cases x <;> cases y <;> simp_all [le, lt, eq]

theorem le_trans (h : x.le y = true) (h' : y.le z = true) : x.le z = true := by
  obtain ⟨hx, hy⟩ := ne_nan_of_le h
  have hz := (ne_nan_of_le h').2
  rw [le_iff_place hx hy] at h
  rw [le_iff_place hy hz] at h'
  exact (le_iff_place hx hz).mpr (h.trans h')

theorem isFinite_iff : x.isFinite = true ↔ ∃ negative units, x = finite negative units := by
  cases x <;> simp [isFinite]

theorem mul_ne_nan (hx : x.isFinite = true) (hy : y.isFinite = true) : x * y ≠ nan := by
  obtain ⟨m, u, rfl⟩ := isFinite_iff.mp hx
  obtain ⟨n, v, rfl⟩ := isFinite_iff.mp hy
  change mul (finite m u) (finite n v) ≠ nan
  unfold mul
  dsimp only
  cases FloatFormat.double.round (u * v) unitsPerOne <;> simp

end Double

theorem riskScore_isFinite (s : Severity) (l : Likelihood) : (riskScore s l).isFinite = true := by
  cases s <;> cases l <;> decide +kernel

end CloudThreat
