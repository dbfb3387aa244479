import CloudThreat.Resource

namespace CloudThreat.NodeId

def isKept (keepDash : Bool) (c : Char) : Bool :=
  c.isAlphanum || c = '_' || (keepDash && c = '-')

def sanitize (keepDash : Bool) (s : String) : String :=
  String.ofList (s.toList.map fun c => if isKept keepDash c then c else '_')

/-- The given id of a resource, else its full name as an id. -/
def ofResource (r : Resource) : String :=
  r.id.getD (sanitize true r.fullName)

end CloudThreat.NodeId
