import CloudThreat.Cut

namespace CloudThreat

structure CodeRange where
  first : Nat
  last : Nat
deriving Repr, DecidableEq

namespace CodeRange

def contains (r : CodeRange) (code : Nat) : Bool :=
  r.first ≤ code && code ≤ r.last

def hexValue (c : Char) : Nat :=
  if c.isDigit then c.toNat - '0'.toNat else c.toNat - 'A'.toNat + 10

def hexNumber (cs : List Char) : Nat :=
  cs.foldl (fun n c => 16 * n + hexValue c) 0

/-- One code point, or two with a dash between them. -/
def ofWord (w : List Char) : CodeRange :=
  match cut '-' w with
  | [a, b] => ⟨hexNumber a, hexNumber b⟩
  | a :: _ => ⟨hexNumber a, hexNumber a⟩
  | [] => ⟨0, 0⟩

/-- The ranges of a text of words between blanks. -/
def listOf (s : String) : List CodeRange :=
  (cut ' ' s.toList).map ofWord

/-- The ranges of several lines. -/
def ofLines (lines : List String) : List CodeRange :=
  lines.flatMap listOf

end CodeRange

/-- Is the code point in one of the ranges? -/
def inRanges (ranges : List CodeRange) (code : Nat) : Bool :=
  ranges.any (·.contains code)

end CloudThreat
