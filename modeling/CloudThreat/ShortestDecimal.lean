import CloudThreat.Double

namespace CloudThreat

/-- Digits `d₁d₂…dₙ`, standing for `d₁.d₂…dₙ · 10 ^ exponent`. -/
structure ShortestDecimal where
  digits : List Char
  exponent : Int
deriving Repr, DecidableEq

namespace ShortestDecimal

/-- The value `n · 10 ^ k` times `2 ^ 1075`, over a power of ten, as numerator and denominator. -/
def halfUnits (n : Nat) (k : Int) : Nat × Nat :=
  if k < 0 then (n * Nat.pow 2 1075, Nat.pow 10 k.natAbs)
  else (n * Nat.pow 10 k.natAbs * Nat.pow 2 1075, 1)

/-- Does `n · 10 ^ k` read back as `units`? The reals that do reach half a step up and down, half
of that below a power of two, and include their ends when the significand is even. -/
def readsBack (units n : Nat) (k : Int) : Bool :=
  let step := Nat.pow 2 (FloatFormat.double.stepAt units)
  let below := if units = Nat.pow 2 units.log2 && 1 < step then step / 2 else step
  let (num, den) := halfUnits n k
  let low := (2 * units - below) * den
  let high := (2 * units + step) * den
  if units / step % 2 = 0 then low ≤ num && num ≤ high else low < num && num < high

/-- Is `10 ^ e` at most the value of `units`? -/
def powerAtMost (units : Nat) (e : Int) : Bool :=
  if e < 0 then Double.unitsPerOne ≤ units * Nat.pow 10 e.natAbs
  else Nat.pow 10 e.natAbs * Double.unitsPerOne ≤ units

/-- The exponent of the first digit of `units`: the binary estimate is at most two too low. -/
def firstExponent (units : Nat) : Int :=
  let estimate := ((units.log2 : Int) - 1074) * 30103 / 100000 - 1
  if powerAtMost units (estimate + 2) then estimate + 2
  else if powerAtMost units (estimate + 1) then estimate + 1
  else estimate

/-- Of the two neighbours of `units` on the grid of `10 ^ k`, the one that reads back; of two such
the nearer, and at equal distance the even one. -/
def onGrid? (units : Nat) (k : Int) : Option Nat :=
  let (num, den) :=
    if k < 0 then (units * Nat.pow 10 k.natAbs, Double.unitsPerOne)
    else (units, Nat.pow 10 k.natAbs * Double.unitsPerOne)
  let n := num / den
  match readsBack units n k, readsBack units (n + 1) k with
  | true, true => some (roundHalfEven num den)
  | true, false => some n
  | false, true => some (n + 1)
  | false, false => none

def ofGrid (n : Nat) (k : Int) : ShortestDecimal :=
  let all := Nat.toDigits 10 n
  let kept := (all.reverse.dropWhile (· = '0')).reverse
  ⟨kept, k + all.length - 1⟩

/-- The coarsest grid with a hit, tried from `count` digits on. -/
def search (units : Nat) (first : Int) : Nat → Nat → ShortestDecimal
  | 0, _ => ⟨['0'], 0⟩
  | fuel + 1, count =>
    let k := first - count + 1
    match onGrid? units k with
    | some n => ofGrid n k
    | none => search units first fuel (count + 1)

/-- Seventeen digits always suffice. -/
def ofUnits (units : Nat) : ShortestDecimal :=
  if units = 0 then ⟨['0'], 0⟩ else search units (firstExponent units) 17 1

/-- Which exponents are written positionally: from `least` and below `bound`. -/
structure Spelling where
  least : Int
  bound : Int

/-- Numbers keep a point when positional; a scientific exponent shows its sign. -/
def spelling : Spelling := ⟨-5, 16⟩

def zeros (n : Nat) : List Char := List.replicate n '0'

def positional (d : ShortestDecimal) : List Char :=
  if d.exponent < 0 then
    '0' :: '.' :: zeros (d.exponent.natAbs - 1) ++ d.digits
  else
    let width := d.exponent.natAbs + 1
    if d.digits.length ≤ width then
      d.digits ++ zeros (width - d.digits.length) ++ ['.', '0']
    else
      d.digits.take width ++ '.' :: d.digits.drop width

def scientific (d : ShortestDecimal) : List Char :=
  let mantissa :=
    match d.digits with
    | [] => ['0']
    | [c] => [c]
    | c :: rest => c :: '.' :: rest
  let sign := if d.exponent < 0 then '-' else '+'
  mantissa ++ 'e' :: sign :: Nat.toDigits 10 d.exponent.natAbs

def spell (d : ShortestDecimal) : List Char :=
  if spelling.least ≤ d.exponent && d.exponent < spelling.bound then d.positional
  else d.scientific

end ShortestDecimal

namespace Double

/-- The text of a finite double; the sign of zero is kept. Others have no spelling. -/
def text? : Double → Option String
  | finite negative units =>
    let body := (ShortestDecimal.ofUnits units).spell
    some (String.ofList (if negative then '-' :: body else body))
  | _ => none

end Double

end CloudThreat
