import CloudThreat.JsonReading

namespace CloudThreat

inductive DataClassification where
  | open_
  | internal
  | confidential
  | restricted
  | pii
  | phi
deriving Repr, DecidableEq

namespace DataClassification

def text : DataClassification → String
  | open_ => "public"
  | internal => "internal"
  | confidential => "confidential"
  | restricted => "restricted"
  | pii => "pii"
  | phi => "phi"

def all : List DataClassification :=
  [open_, internal, confidential, restricted, pii, phi]

def read : Reader DataClassification :=
  Reader.variant (all.map fun c => (c.text, c))

def sensitivityLevel : DataClassification → Nat
  | open_ => 0
  | internal => 1
  | confidential => 2
  | pii => 3
  | phi => 3
  | restricted => 4

end DataClassification

end CloudThreat
