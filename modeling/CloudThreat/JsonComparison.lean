import CloudThreat.Json

namespace CloudThreat.Json

mutual

/-- Equality of values: numbers by their value as doubles, lists item by item, objects field by
field. -/
def equal : Json → Json → Bool
  | .null, .null => true
  | .bool a, .bool b => a == b
  | .num m, .num n => m.toDouble.eq n.toDouble
  | .str s, .str t => s == t
  | .arr xs, .arr ys => equalItems xs ys
  | .obj fs, .obj gs => equalFields fs gs
  | _, _ => false

def equalItems : List Json → List Json → Bool
  | [], [] => true
  | x :: xs, y :: ys => x.equal y && equalItems xs ys
  | _, _ => false

def equalFields : List (String × Json) → List (String × Json) → Bool
  | [], [] => true
  | (k, x) :: fs, (l, y) :: gs => k == l && x.equal y && equalFields fs gs
  | _, _ => false

end

mutual

/-- Is every field of the expected object found in the data, with an equal value or, where both are
objects, with a value that contains the expected one? -/
def contains (data : JsonObject) : Json → Bool
  | .obj expected => containsFields data expected
  | _ => false

def containsFields (data : JsonObject) : List (String × Json) → Bool
  | [] => true
  | (key, wanted) :: rest =>
    (match JsonObject.find? data key with
      | none => false
      | some (.obj inner) => if wanted.isObject then contains inner wanted else false
      | some found => found.equal wanted)
    && containsFields data rest

end

end CloudThreat.Json
