import CloudThreat.DataFlow

namespace CloudThreat

/-- What one function calls and uses. -/
structure CodeFlow where
  function : String
  calls : List String
  externalApis : List String
  dataAccess : List String
deriving Repr

namespace CodeFlow

def fields : Fields CodeFlow :=
  CodeFlow.mk
    <$> .required "function" Reader.text
    <*> .withDefault "calls" (Reader.list Reader.text) []
    <*> .withDefault "external_apis" (Reader.list Reader.text) []
    <*> .withDefault "data_access" (Reader.list Reader.text) []

def read : Reader CodeFlow :=
  fields.read "struct CodeFlow"

def toJson (f : CodeFlow) : Json :=
  Json.object [
    ("function", .str f.function),
    ("calls", Json.ofStrings f.calls),
    ("external_apis", Json.ofStrings f.externalApis),
    ("data_access", Json.ofStrings f.dataAccess)]

end CodeFlow

namespace Diagram

def nodeOfResource (r : Resource) : Node :=
  { id := NodeId.ofResource r
    label := if r.name.isEmpty then r.fullName else r.name
    type := NodeType.ofResourceType r.resourceType
    cloudProvider := r.cloudProvider
    boundary := some (Exposure.boundary r)
    resourceType := some r.resourceType
    properties := r.properties
    tags := [] }

/-- A node for each resource whose id is new; `seen` are the ids used. -/
def nodesOfResources (seen : List String) : List Resource → List Node
  | [] => []
  | r :: rest =>
    let n := nodeOfResource r
    if seen.contains n.id then nodesOfResources seen rest
    else n :: nodesOfResources (n.id :: seen) rest

def serviceMetadata (resources : List Resource) : JsonObject :=
  JsonObject.ofList [
    ("cloud_provider", Json.ofOption .str (resources.head?.bind Resource.cloudProvider)),
    ("resource_count", Json.ofNat resources.length),
    ("description", .str "Service-level architecture showing major services and data flows")]

/-- One node per resource, the flows between them, and the users outside. -/
def ofResources (resources : List Resource) : Diagram :=
  let nodes := nodesOfResources [] resources
  let edges := DataFlow.detect resources nodes
  let (nodes, edges) :=
    match DataFlow.fromOutside? nodes with
    | some (user, requests) => (nodes ++ [user], edges ++ requests)
    | none => (nodes, edges)
  .ofNodes .service nodes edges (serviceMetadata resources)

/-- The entry of a split node. -/
def entryOf (n : Node) : Node :=
  { n with id := n.id ++ "_api", label := n.label ++ " API", type := .api }

/-- The logic behind the entry of a split node. -/
def logicOf (n : Node) : Node :=
  { n with
    id := n.id ++ "_logic"
    label := n.label ++ " Logic"
    type := .function
    boundary := some .internal }

/-- Lead an edge that ends at a split node to its entry, and one that begins there to its logic. -/
def redirect (n : Node) (e : Edge) : Edge :=
  { e with
    target := if e.target = n.id then (entryOf n).id else e.target
    source := if e.source = n.id then (logicOf n).id else e.source }

def expandNode (n : Node) : List Node :=
  if n.type.isSplit then [entryOf n, logicOf n] else [n]

/-- The edge between the two parts of a split node. -/
def innerEdge (n : Node) : Edge :=
  .new (entryOf n).id (logicOf n).id "process request" "Internal" false .internal

/-- Split the services and interfaces. Edges are led anew for one split node after the other, each
as the nodes before have left it. -/
def expand (d : Diagram) : Diagram :=
  let split := d.nodes.filter (·.type.isSplit)
  let edges := split.foldl (fun edges n => edges.map (redirect n)) d.edges
  .ofNodes .component (d.nodes.flatMap expandNode) (edges ++ split.map innerEdge)
    (JsonObject.insert "description"
      (.str "Component-level architecture showing internal components") d.metadata)

/-- The components of resources. -/
def ofComponents (resources : List Resource) : Diagram :=
  (ofResources resources).expand

def functionId (name : String) : String :=
  NodeId.sanitize false name

/-- A node called for in a code flow. -/
def codeNode (name : String) (type : NodeType) (boundary : TrustBoundary) : Node :=
  .new (functionId name) name type boundary

/-- All nodes that a flow calls for, in order. -/
def nodesOfFlow (f : CodeFlow) : List Node :=
  { codeNode f.function .function .internal with properties := f.toJson }
    :: f.calls.map (codeNode · .function .internal)
    ++ f.externalApis.map (codeNode · .external .internet)
    ++ f.dataAccess.map (codeNode · .database .restricted)

def edgesOfFlow (f : CodeFlow) : List Edge :=
  let source := functionId f.function
  f.calls.map (fun name => .new source (functionId name) "calls" "Internal" false .internal)
    ++ f.externalApis.map (fun name => .new source (functionId name) "API call" "HTTPS" true .open_)
    ++ f.dataAccess.map (fun name => .new source (functionId name) "query" "SQL" false .confidential)

/-- Add a node unless its id is taken. -/
def addNode (nodes : List Node) (n : Node) : List Node :=
  if nodes.any (·.id = n.id) then nodes else nodes ++ [n]

def codeMetadata (nodes : List Node) : JsonObject :=
  let count (t : NodeType) : Nat := (nodes.filter (·.type = t)).length
  JsonObject.ofList [
    ("function_count", Json.ofNat (count .function)),
    ("external_dependencies", Json.ofNat (count .external)),
    ("description", .str "Code-level architecture showing function calls and dependencies")]

/-- The functions of code flows with what they call; of several nodes with one id the first stays. -/
def ofCodeFlows (flows : List CodeFlow) : Diagram :=
  let nodes := (flows.flatMap nodesOfFlow).foldl addNode []
  .ofNodes .code nodes (flows.flatMap edgesOfFlow) (codeMetadata nodes)

end Diagram

/-- The diagrams of one infrastructure at every level. -/
structure DiagramSet where
  service : Diagram
  component : Diagram
  code : Option Diagram
deriving Repr

namespace DiagramSet

/-- The code diagram is there only if there are flows for it. -/
def build (resources : List Resource) (flows : List CodeFlow) : DiagramSet :=
  let service := Diagram.ofResources resources
  ⟨service, service.expand, if flows.isEmpty then none else some (.ofCodeFlows flows)⟩

def levels (s : DiagramSet) : List Diagram :=
  [s.service, s.component] ++ s.code.toList

def allNodes (s : DiagramSet) : List Node :=
  s.levels.flatMap Diagram.nodes

def allEdges (s : DiagramSet) : List Edge :=
  s.levels.flatMap Diagram.edges

def metadata (s : DiagramSet) : JsonObject :=
  JsonObject.ofList [
    ("levels_generated", Json.ofStrings (s.levels.map fun d => d.level.text)),
    ("total_nodes", Json.ofNat s.allNodes.length),
    ("total_edges", Json.ofNat s.allEdges.length)]

def toJson (s : DiagramSet) : Json :=
  Json.object [
    ("service_level", s.service.toJson),
    ("component_level", s.component.toJson),
    ("code_level", Json.ofOption Diagram.toJson s.code),
    ("metadata", .obj s.metadata)]

end DiagramSet

end CloudThreat
