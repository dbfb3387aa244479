import CloudThreat.DecimalNumeral
import CloudThreat.Hexadecimal
import CloudThreat.Json
import CloudThreat.WordSize

namespace CloudThreat.JsonParser

def isBlank (c : Char) : Bool :=
  c = ' ' || c = '\n' || c = '\t' || c = '\r'

def skipBlanks (cs : List Char) : List Char :=
  cs.dropWhile isBlank

/-- Four hexadecimal digits. -/
def hex4? (a b c d : Char) : Option Nat :=
  Hexadecimal.number? [a, b, c, d]

def isHighSurrogate (n : Nat) : Bool :=
  0xD800 ≤ n && n ≤ 0xDBFF

def isLowSurrogate (n : Nat) : Bool :=
  0xDC00 ≤ n && n ≤ 0xDFFF

/-- The character beyond the first plane that two surrogates stand for. -/
def joinSurrogates (high low : Nat) : Char :=
  Char.ofNat (0x10000 + (high - 0xD800) * 0x400 + (low - 0xDC00))

def simpleEscape? (c : Char) : Option Char :=
  match c with
  | '"' => some '"'
  | '\\' => some '\\'
  | '/' => some '/'
  | 'b' => some '\x08'
  | 'f' => some '\x0c'
  | 'n' => some '\n'
  | 'r' => some '\r'
  | 't' => some '\t'
  | _ => none

/-- The rest of a string after its opening quote; `acc` is what was read, last character first.
Characters beyond the first plane take two escapes `\uXXXX`; half of such a pair is refused. -/
def stringBody (acc : List Char) : List Char → Option (String × List Char)
  | '"' :: rest => some (String.ofList acc.reverse, rest)
  | '\\' :: 'u' :: a :: b :: c :: d :: rest =>
    match hex4? a b c d with
    | none => none
    | some n =>
      if isHighSurrogate n then
        match rest with
        | '\\' :: 'u' :: e :: f :: g :: h :: rest =>
          match hex4? e f g h with
          | none => none
          | some low =>
            if isLowSurrogate low then stringBody (joinSurrogates n low :: acc) rest else none
        | _ => none
      else if isLowSurrogate n then none
      else stringBody (Char.ofNat n :: acc) rest
  | '\\' :: c :: rest =>
    match simpleEscape? c with
    | none => none
    | some c => stringBody (c :: acc) rest
  | c :: rest => if c.toNat < 0x20 || c = '\\' then none else stringBody (c :: acc) rest
  | [] => none

/-- Digits in front of a text. -/
def digits (cs : List Char) : List Char × List Char :=
  (cs.takeWhile Char.isDigit, cs.dropWhile Char.isDigit)

/-- The whole part of a number: no zero in front of other digits. -/
def wholePart : List Char → Option (List Char × List Char)
  | '0' :: rest =>
    match rest with
    | c :: _ => if c.isDigit then none else some (['0'], rest)
    | [] => some (['0'], [])
  | cs =>
    let (ds, rest) := digits cs
    if ds.isEmpty then none else some (ds, rest)

def fractionPart : List Char → Option (Option (List Char) × List Char)
  | '.' :: cs =>
    let (ds, rest) := digits cs
    if ds.isEmpty then none else some (some ds, rest)
  | cs => some (none, cs)

def exponentPart : List Char → Option (Option Int × List Char)
  | c :: cs =>
    if c = 'e' || c = 'E' then
      let (negative, cs) := DecimalNumeral.splitSign cs
      let (ds, rest) := digits cs
      if ds.isEmpty then none
      else
        let n : Int := DecimalNumeral.valueOf ds
        some (some (if negative then -n else n), rest)
    else some (none, c :: cs)
  | [] => some (none, [])

/-- Whole numbers of 64 bits stay whole; minus zero and all others are doubles. -/
def numberOf (negative : Bool) (whole : List Char) (fraction : Option (List Char))
    (exponent : Option Int) : Option JsonNumber :=
  let float (d : DecimalNumeral) : Option JsonNumber :=
    match d.toDouble with
    | .finite n u => some (.float (.finite n u))
    | _ => none
  match fraction, exponent with
  | none, none =>
    let n := DecimalNumeral.valueOf whole
    let i : Int := if negative then -n else n
    if negative then
      if n ≠ 0 && WordSize.isSigned 64 i then some (.int i) else float ⟨true, n, 0⟩
    else if WordSize.isUnsigned 64 i then some (.int i)
    else float ⟨false, n, 0⟩
  | _, _ =>
    let ds := fraction.getD []
    float ⟨negative, DecimalNumeral.valueOf (whole ++ ds), exponent.getD 0 - ds.length⟩

def number (cs : List Char) : Option (JsonNumber × List Char) := do
  let (negative, cs) :=
    match cs with
    | '-' :: rest => (true, rest)
    | rest => (false, rest)
  let (whole, cs) ← wholePart cs
  let (fraction, cs) ← fractionPart cs
  let (exponent, cs) ← exponentPart cs
  let n ← numberOf negative whole fraction exponent
  some (n, cs)

/-- A fixed word. -/
def word (w : List Char) (j : Json) (cs : List Char) : Option (Json × List Char) :=
  if w.isPrefixOf cs then some (j, cs.drop w.length) else none

mutual

/-- A value; `depth` is one more than the levels that may still be opened. -/
def value : Nat → Nat → List Char → Option (Json × List Char)
  | 0, _, _ => none
  | fuel + 1, depth, cs =>
    match skipBlanks cs with
    | '[' :: rest =>
      if depth ≤ 1 then none
      else
        match skipBlanks rest with
        | ']' :: rest => some (.arr [], rest)
        | rest => (items fuel (depth - 1) rest).map fun (js, rest) => (.arr js, rest)
    | '\x7b' :: rest =>
      if depth ≤ 1 then none
      else
        match skipBlanks rest with
        | '\x7d' :: rest => some (.obj [], rest)
        | rest => (fields fuel (depth - 1) rest).map fun (fs, rest) => (.obj fs, rest)
    | '"' :: rest => (stringBody [] rest).map fun (s, rest) => (.str s, rest)
    | 't' :: rest => word "rue".toList (.bool true) rest
    | 'f' :: rest => word "alse".toList (.bool false) rest
    | 'n' :: rest => word "ull".toList .null rest
    | cs => (number cs).map fun (n, rest) => (.num n, rest)

/-- One or more values up to the closing bracket. -/
def items : Nat → Nat → List Char → Option (List Json × List Char)
  | 0, _, _ => none
  | fuel + 1, depth, cs => do
    let (j, rest) ← value fuel depth cs
    match skipBlanks rest with
    | ',' :: rest => (items fuel depth rest).map fun (js, rest) => (j :: js, rest)
    | ']' :: rest => some ([j], rest)
    | _ => none

/-- One or more fields up to the closing brace. -/
def fields : Nat → Nat → List Char → Option (List (String × Json) × List Char)
  | 0, _, _ => none
  | fuel + 1, depth, cs =>
    match skipBlanks cs with
    | '"' :: rest => do
      let (k, rest) ← stringBody [] rest
      match skipBlanks rest with
      | ':' :: rest =>
        let (j, rest) ← value fuel depth rest
        match skipBlanks rest with
        | ',' :: rest => (fields fuel depth rest).map fun (fs, rest) => ((k, j) :: fs, rest)
        | '\x7d' :: rest => some ([(k, j)], rest)
        | _ => none
      | _ => none
    | _ => none

end

/-- A whole text as one value, its fields as written. -/
def written? (depth : Nat) (s : String) : Option Json :=
  let cs := s.toList
  match value (2 * cs.length + 2) depth cs with
  | some (j, rest) => if (skipBlanks rest).isEmpty then some j else none
  | none => none

end CloudThreat.JsonParser

namespace CloudThreat.Json

/-- Values read from a text may open one level less than this. -/
def textDepth : Nat := 128

/-- The value of a JSON text. -/
def ofText? (s : String) : Option Json :=
  (JsonParser.written? textDepth s).map canonical

end CloudThreat.Json
