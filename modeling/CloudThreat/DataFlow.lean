import CloudThreat.Diagram
import CloudThreat.Exposure
import CloudThreat.NodeId

namespace CloudThreat.DataFlow

def healthWords : List String :=
  ["health", "medical", "patient", "diagnosis"]

def personalWords : List String :=
  ["user", "customer", "profile", "personal", "email", "phone", "address"]

/-- The sensitivity of a flow, by the words of its label and then by the types at its ends. -/
def classify (label : String) (source target : Node) : DataClassification :=
  let label := LetterCase.lower label
  let either (t : NodeType) : Bool := source.type = t || target.type = t
  if hasAny healthWords label then .phi
  else if hasAny personalWords label then .pii
  else if either .database then .confidential
  else if either .external then .open_
  else .internal

/-- Does the type of the source plausibly talk to the type of the target? -/
def couldConnect (source target : Node) : Bool :=
  match source.type with
  | .service | .api | .compute =>
    match target.type with
    | .database | .storage | .cache => true
    | _ => false
  | .loadBalancer =>
    match target.type with
    | .service | .api => true
    | _ => false
  | _ => false

def mentions (r : Resource) (keys : List String) : Bool :=
  keys.any fun k => (r.property k).isSome

/-- Queries of the databases that a workload refers to or could talk to. -/
def queries (r : Resource) (source : Node) (nodes : List Node) : List Edge :=
  let linked (target : Node) : Bool :=
    mentions r ["database_url", "db_instance"] || couldConnect source target
  ((nodes.filter (·.type = .database)).filter linked).map fun target =>
    .new source.id target.id "queries" "SQL" (Exposure.isSet (target.properties.get? "encrypted"))
      (classify "queries" source target)

def transfers (r : Resource) (source : Node) (nodes : List Node) : List Edge :=
  let linked (target : Node) : Bool :=
    mentions r ["bucket", "storage_account"] || couldConnect source target
  ((nodes.filter (·.type = .storage)).filter linked).map fun target =>
    .new source.id target.id "read/write" "HTTPS" true (classify "read/write" source target)

def cacheOperations (source : Node) (nodes : List Node) : List Edge :=
  (nodes.filter (·.type = .cache)).map fun target =>
    .new source.id target.id "cache operations" "Redis" false .internal

def forwards (source : Node) (nodes : List Node) : List Edge :=
  (nodes.filter (·.type.isWorkload)).map fun target => .request source.id target.id

/-- The flows that begin at the node of a resource. -/
def ofResource (r : Resource) (source : Node) (nodes : List Node) : List Edge :=
  (if source.type.isWorkload then queries r source nodes ++ transfers r source nodes else [])
    ++ (if source.type.isSplit then cacheOperations source nodes else [])
    ++ (if source.type = .loadBalancer then forwards source nodes else [])

/-- The last node with an id. -/
def lastNode? (nodes : List Node) (id : String) : Option Node :=
  nodes.reverse.find? (·.id = id)

/-- The flows of the resources that have a node, once for each id; `visited` are the ids done. -/
def detectFrom (nodes : List Node) (visited : List String) : List Resource → List Edge
  | [] => []
  | r :: rest =>
    let id := NodeId.ofResource r
    match lastNode? nodes id with
    | none => detectFrom nodes visited rest
    | some source =>
      if visited.contains id then detectFrom nodes visited rest
      else ofResource r source nodes ++ detectFrom nodes (id :: visited) rest

def detect (resources : List Resource) (nodes : List Node) : List Edge :=
  detectFrom nodes [] resources

def externalUserId : String := "external_user"

def externalUser : Node :=
  { Node.new externalUserId "External Users" .user .internet with
    properties := Json.object [("external", .bool true)] }

/-- Types of nodes that users call. -/
def isEntry (n : Node) : Bool :=
  match n.type with
  | .service | .api | .loadBalancer => true
  | _ => false

/-- The users outside and their requests, when some node is public and none is called like them. -/
def fromOutside? (nodes : List Node) : Option (Node × List Edge) :=
  let exposed := nodes.filter Node.isPublic
  if exposed.isEmpty || nodes.any (·.id = externalUserId) then none
  else
    some (externalUser, (exposed.filter isEntry).map fun n => .request externalUserId n.id)

end CloudThreat.DataFlow
