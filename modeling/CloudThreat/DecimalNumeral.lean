import CloudThreat.Double

namespace CloudThreat

/-- The number `± digits · 10 ^ exponent`. -/
structure DecimalNumeral where
  negative : Bool
  digits : Nat
  exponent : Int
deriving Repr, DecidableEq

namespace DecimalNumeral

def digitValue (c : Char) : Nat :=
  c.toNat - '0'.toNat

def valueOf (ds : List Char) : Nat :=
  ds.foldl (fun n c => 10 * n + digitValue c) 0

/-- Beyond this decimal exponent every value is infinite or zero in both formats. -/
def exponentBound : Nat := 400

/-- The nearest number of the format. -/
def toDoubleIn (f : FloatFormat) (d : DecimalNumeral) : Double :=
  if d.digits = 0 then
    .finite d.negative 0
  else
    let width : Int := (Nat.toDigits 10 d.digits).length
    if d.exponent + width > exponentBound then .infinite d.negative
    else if d.exponent + width < -(exponentBound : Int) then .finite d.negative 0
    else if d.exponent < 0 then
      Double.ofRatioIn f d.negative d.digits (Nat.pow 10 d.exponent.natAbs)
    else
      Double.ofRatioIn f d.negative (d.digits * Nat.pow 10 d.exponent.natAbs) 1

def toDouble (d : DecimalNumeral) : Double :=
  d.toDoubleIn .double

/-- A sign in front of a text. -/
def splitSign : List Char → Bool × List Char
  | '-' :: rest => (true, rest)
  | '+' :: rest => (false, rest)
  | rest => (false, rest)

/-- The exponent part `e±digits` up to the end of the text; an empty text is exponent zero. -/
def exponentPart? : List Char → Option Int
  | [] => some 0
  | c :: rest =>
    if c = 'e' || c = 'E' then
      let (negative, ds) := splitSign rest
      if ds.isEmpty || !ds.all Char.isDigit then none
      else
        let n : Int := valueOf ds
        some (if negative then -n else n)
    else none

/-- An unsigned numeral: digits, a point with digits on at least one side, an exponent. -/
def unsigned? (negative : Bool) (cs : List Char) : Option DecimalNumeral :=
  let whole := cs.takeWhile Char.isDigit
  let afterWhole := cs.dropWhile Char.isDigit
  let (fraction, rest) :=
    match afterWhole with
    | '.' :: tail => (tail.takeWhile Char.isDigit, tail.dropWhile Char.isDigit)
    | tail => ([], tail)
  if whole.isEmpty && fraction.isEmpty then none
  else
    (exponentPart? rest).map fun e =>
      ⟨negative, valueOf (whole ++ fraction), e - fraction.length⟩

end DecimalNumeral

namespace Double

/-- The floating-point number that a whole text spells: an optionally signed numeral, or one of
the words `inf`, `infinity` and `nan` in any letter case. -/
def ofTextIn (f : FloatFormat) (cs : List Char) : Option Double :=
  let (negative, rest) := DecimalNumeral.splitSign cs
  let word := rest.map Char.toLower
  if word = "inf".toList || word = "infinity".toList then some (.infinite negative)
  else if word = "nan".toList then some .nan
  else (DecimalNumeral.unsigned? negative rest).map (·.toDoubleIn f)

def ofText? (s : String) : Option Double :=
  ofTextIn .double s.toList

end Double

end CloudThreat
