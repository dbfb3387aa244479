namespace CloudThreat

/-- A binary format: its precision in bits, the exponents of its finest spacing and of its
overflow bound, both counted from one unit of `2 ^ (-1074)`. -/
structure FloatFormat where
  precision : Nat
  leastStep : Nat
  limit : Nat
deriving Repr, DecidableEq

namespace FloatFormat

def double : FloatFormat := ⟨53, 0, 2098⟩

def single : FloatFormat := ⟨24, 925, 1202⟩

end FloatFormat

/-- The quotient rounded to the nearest whole number, a half to the even one. -/
def roundHalfEven (num den : Nat) : Nat :=
  let q := num / den
  let r := num % den
  if 2 * r < den then q
  else if den < 2 * r then q + 1
  else q + q % 2

namespace FloatFormat

/-- The exponent of the spacing of the format at `units`. -/
def stepAt (f : FloatFormat) (units : Nat) : Nat :=
  max f.leastStep (units.log2 + 1 - f.precision)

/-- The value `num / den` units rounded to the format; nothing when it overflows. -/
def round (f : FloatFormat) (num den : Nat) : Option Nat :=
  let step := Nat.pow 2 (f.stepAt (num / den))
  let units := roundHalfEven num (den * step) * step
  if units < Nat.pow 2 f.limit then some units else none

end FloatFormat

inductive Double where
  | finite (negative : Bool) (units : Nat)
  | infinite (negative : Bool)
  | nan
deriving Repr, DecidableEq, Inhabited

namespace Double

def zero : Double := finite false 0

/-- The number of units in one. -/
def unitsPerOne : Nat := Nat.pow 2 1074

/-- The value `num / den` in the given format. -/
def ofRatioIn (f : FloatFormat) (negative : Bool) (num den : Nat) : Double :=
  match f.round (num * unitsPerOne) den with
  | some units => finite negative units
  | none => infinite negative

def ofInt (i : Int) : Double :=
  ofRatioIn .double (decide (i < 0)) i.natAbs 1

def ofNat (n : Nat) : Double :=
  ofInt n

/-- The nearest number of single precision. -/
def toSingle : Double → Double
  | finite negative units =>
    match FloatFormat.single.round units 1 with
    | some rounded => finite negative rounded
    | none => infinite negative
  | infinite negative => infinite negative
  | nan => nan

/-- A signed count of units. -/
def signed (negative : Bool) (units : Nat) : Int :=
  if negative then -(units : Int) else units

/-- Numerical equality: both zeros are equal and `nan` equals nothing. -/
def eq : Double → Double → Bool
  | finite m u, finite n v => signed m u == signed n v
  | infinite m, infinite n => m == n
  | _, _ => false

def lt : Double → Double → Bool
  | finite m u, finite n v => decide (signed m u < signed n v)
  | finite _ _, infinite n => !n
  | infinite m, finite _ _ => m
  | infinite m, infinite n => m && !n
  | _, _ => false

def le (x y : Double) : Bool :=
  x.lt y || x.eq y

def isFinite : Double → Bool
  | finite _ _ => true
  | _ => false

/-- The exact product rounded to double precision. -/
def mul : Double → Double → Double
  | finite m u, finite n v =>
    match FloatFormat.double.round (u * v) unitsPerOne with
    | some units => finite (m != n) units
    | none => infinite (m != n)
  | infinite m, finite n v => if v = 0 then nan else infinite (m != n)
  | finite m u, infinite n => if u = 0 then nan else infinite (m != n)
  | infinite m, infinite n => infinite (m != n)
  | _, _ => nan

/-- The exact quotient rounded to double precision. -/
def div : Double → Double → Double
  | finite m u, finite n v =>
    if v = 0 then
      if u = 0 then nan else infinite (m != n)
    else
      ofRatioIn .double (m != n) u v
  | infinite m, finite n _ => infinite (m != n)
  | finite m _, infinite n => finite (m != n) 0
  | _, _ => nan

instance : Mul Double := ⟨mul⟩
instance : Div Double := ⟨div⟩

theorem eq_comm (x y : Double) : x.eq y = y.eq x := by
  cases x <;> cases y <;> simp [eq, Bool.beq_comm]

theorem eq_self {x : Double} (h : x ≠ nan) : x.eq x = true := by
  cases x <;> simp_all [eq]

theorem eq_trans {x y z : Double} (h : x.eq y = true) (h' : y.eq z = true) :
    x.eq z = true := by
  cases x <;> cases y <;> cases z <;> simp_all [eq]

end Double

end CloudThreat
