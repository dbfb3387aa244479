import CloudThreat.Condition
import CloudThreat.Proofs.PatternGroups
import CloudThreat.Proofs.PatternMatches

namespace CloudThreat

namespace Pattern

open PatternParser

/-- The pattern behind the beginning of the text. -/
def anchored (p : Pattern) : Pattern :=
  if p = .empty then .assertion .textStart else .seq (.assertion .textStart) p

end Pattern

namespace Condition

def named : Json := .obj [("name", .str "xb")]

end Condition

end CloudThreat
