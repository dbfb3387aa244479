import CloudThreat.Json

namespace CloudThreat

abbrev Tally := List (String × Nat)

namespace Tally

def count (t : Tally) (name : String) : Nat :=
  (t.lookup name).getD 0

/-- Count a name once more. -/
def add (name : String) : Tally → Tally
  | [] => [(name, 1)]
  | (k, n) :: rest =>
    if name = k then (k, n + 1) :: rest
    else if name < k then (name, 1) :: (k, n) :: rest
    else (k, n) :: add name rest

def total (t : Tally) : Nat :=
  t.foldr (fun f n => f.2 + n) 0

def toJson (t : Tally) : Json :=
  Json.object (t.map fun (name, n) => (name, Json.ofNat n))

end Tally

end CloudThreat
