import CloudThreat.JsonReading

namespace CloudThreat

inductive TrustBoundary where
  | internet
  | dmz
  | internal
  | private_
  | restricted
deriving Repr, DecidableEq

namespace TrustBoundary

def text : TrustBoundary → String
  | internet => "internet"
  | dmz => "dmz"
  | internal => "internal"
  | private_ => "private"
  | restricted => "restricted"

def all : List TrustBoundary :=
  [internet, dmz, internal, private_, restricted]

def read : Reader TrustBoundary :=
  Reader.variant (all.map fun b => (b.text, b))

def securityLevel : TrustBoundary → Nat
  | internet => 0
  | dmz => 1
  | internal => 2
  | private_ => 3
  | restricted => 4

def zoneName : TrustBoundary → String
  | internet => "Internet Zone"
  | dmz => "Dmz Zone"
  | internal => "Internal Zone"
  | private_ => "Private Zone"
  | restricted => "Restricted Zone"

def description : TrustBoundary → String
  | internet => "Publicly accessible from the internet"
  | dmz => "Demilitarized zone with limited external access"
  | internal => "Internal network, not directly accessible"
  | private_ => "Private network with restricted access"
  | restricted => "Highly restricted, sensitive data zone"

def isPublic : TrustBoundary → Bool
  | internet => true
  | dmz => true
  | _ => false

end TrustBoundary

end CloudThreat
