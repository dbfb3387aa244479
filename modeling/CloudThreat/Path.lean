import CloudThreat.Cut
import CloudThreat.DecimalNumeral
import CloudThreat.Json
import CloudThreat.WordSize

namespace CloudThreat.Path

/-- A whole number of 64 bits with an optional sign. -/
def index? (segment : List Char) : Option Int :=
  let (negative, ds) := DecimalNumeral.splitSign segment
  if ds.isEmpty || !ds.all Char.isDigit then none
  else
    let n : Int := DecimalNumeral.valueOf ds
    let i := if negative then -n else n
    if WordSize.isSigned 64 i then some i else none

/-- The position that an index means in a list: a negative one counts from the end. -/
def position? (length : Nat) (index : Int) : Option Nat :=
  if 0 ≤ index then some index.toNat
  else if index.natAbs ≤ length then some (length - index.natAbs)
  else none

/-- One step into a value; a null is not there. -/
def step (value : Json) (segment : List Char) : Option Json :=
  match value with
  | .obj fields => (JsonObject.find? fields (String.ofList segment)).bind Json.nonNull?
  | .arr items =>
    ((index? segment).bind (position? items.length)).bind fun i => items[i]?.bind Json.nonNull?
  | _ => none

def segments (path : String) : List (List Char) :=
  cut '.' path.toList

/-- The value at a path, or nothing when a step leads nowhere or to a null. -/
def resolve (value : Json) (path : String) : Option Json :=
  (segments path).foldlM step value

end CloudThreat.Path
