import CloudThreat.DataClassification
import CloudThreat.NodeType
import CloudThreat.Resource
import CloudThreat.Tally
import CloudThreat.TrustBoundary

namespace CloudThreat

structure Node where
  id : String
  label : String
  type : NodeType
  cloudProvider : Option String
  boundary : Option TrustBoundary
  resourceType : Option String
  properties : Json
  tags : List String
deriving Repr

namespace Node

def new (id label : String) (type : NodeType) (boundary : TrustBoundary) : Node :=
  ⟨id, label, type, none, some boundary, none, .obj [], []⟩

def fields : Fields Node :=
  Node.mk
    <$> .required "id" Reader.text
    <*> .required "label" Reader.text
    <*> .required "type" NodeType.read
    <*> .optional "cloud_provider" Reader.text
    <*> .optional "trust_boundary" TrustBoundary.read
    <*> .optional "resource_type" Reader.text
    <*> .required "properties" Reader.anything
    <*> .withDefault "tags" (Reader.list Reader.text) []

def read : Reader Node :=
  fields.read "struct DfdNode"

def toJson (n : Node) : Json :=
  Json.object [
    ("id", .str n.id),
    ("label", .str n.label),
    ("type", .str n.type.text),
    ("cloud_provider", Json.ofOption .str n.cloudProvider),
    ("trust_boundary", Json.ofOption (fun b => .str b.text) n.boundary),
    ("resource_type", Json.ofOption .str n.resourceType),
    ("properties", n.properties),
    ("tags", Json.ofStrings n.tags)]

def isPublic (n : Node) : Bool :=
  n.boundary.any TrustBoundary.isPublic

end Node

structure Edge where
  source : String
  target : String
  label : String
  classification : Option DataClassification
  protocol : Option String
  port : Option Nat
  encrypted : Bool
  bidirectional : Bool
deriving Repr

namespace Edge

/-- A flow in one direction. -/
def new (source target label protocol : String) (encrypted : Bool)
    (classification : DataClassification) : Edge :=
  ⟨source, target, label, some classification, some protocol, none, encrypted, false⟩

/-- Requests over the web, which arrive at the port of encrypted connections. -/
def request (source target : String) : Edge :=
  { new source target "HTTP requests" "HTTPS" true .open_ with port := some 443 }

def fields : Fields Edge :=
  Edge.mk
    <$> .required "source" Reader.text
    <*> .required "target" Reader.text
    <*> .required "label" Reader.text
    <*> .optional "data_classification" DataClassification.read
    <*> .optional "protocol" Reader.text
    <*> .optional "port" (Reader.natural (WordSize.maxUnsigned 16) "u16")
    <*> .required "encrypted" Reader.boolean
    <*> .required "bidirectional" Reader.boolean

def read : Reader Edge :=
  fields.read "struct DfdEdge"

def toJson (e : Edge) : Json :=
  Json.object [
    ("source", .str e.source),
    ("target", .str e.target),
    ("label", .str e.label),
    ("data_classification", Json.ofOption (fun c => .str c.text) e.classification),
    ("protocol", Json.ofOption .str e.protocol),
    ("port", Json.ofOption Json.ofNat e.port),
    ("encrypted", .bool e.encrypted),
    ("bidirectional", .bool e.bidirectional)]

end Edge

/-- The nodes of one zone. -/
structure BoundaryGroup where
  boundary : TrustBoundary
  nodeIds : List String
deriving Repr, DecidableEq

namespace BoundaryGroup

def toJson (g : BoundaryGroup) : Json :=
  Json.object [
    ("boundary", .str g.boundary.text),
    ("name", .str g.boundary.zoneName),
    ("node_ids", Json.ofStrings g.nodeIds),
    ("description", .str g.boundary.description)]

/-- Put an id into the group of its zone, a new one at the end if there is none. -/
def add (boundary : TrustBoundary) (id : String) : List BoundaryGroup → List BoundaryGroup
  | [] => [⟨boundary, [id]⟩]
  | g :: rest =>
    if g.boundary = boundary then ⟨boundary, g.nodeIds ++ [id]⟩ :: rest
    else g :: add boundary id rest

/-- The zones of the nodes, in order of first appearance. -/
def ofNodes (nodes : List Node) : List BoundaryGroup :=
  nodes.foldl
    (fun groups n =>
      match n.boundary with
      | some b => add b n.id groups
      | none => groups)
    []

end BoundaryGroup

inductive DiagramLevel where
  | service
  | component
  | code
deriving Repr, DecidableEq

namespace DiagramLevel

def text : DiagramLevel → String
  | service => "service"
  | component => "component"
  | code => "code"

def all : List DiagramLevel :=
  [service, component, code]

def read : Reader DiagramLevel :=
  Reader.variant (all.map fun l => (l.text, l))

end DiagramLevel

structure Diagram where
  level : DiagramLevel
  nodes : List Node
  edges : List Edge
  groups : List BoundaryGroup
  metadata : JsonObject
deriving Repr

structure DiagramStatistics where
  level : DiagramLevel
  totalNodes : Nat
  totalEdges : Nat
  nodeTypes : Tally
  boundaries : Tally
  classifications : Tally
  crossBoundaryFlows : Nat
  externalConnections : Nat
  encryptedFlows : Nat
deriving Repr

namespace DiagramStatistics

def toJson (s : DiagramStatistics) : Json :=
  Json.object [
    ("level", .str s.level.text),
    ("total_nodes", Json.ofNat s.totalNodes),
    ("total_edges", Json.ofNat s.totalEdges),
    ("node_types", s.nodeTypes.toJson),
    ("trust_boundaries", s.boundaries.toJson),
    ("data_classifications", s.classifications.toJson),
    ("cross_boundary_flows", Json.ofNat s.crossBoundaryFlows),
    ("external_connections", Json.ofNat s.externalConnections),
    ("encrypted_flows", Json.ofNat s.encryptedFlows)]

end DiagramStatistics

namespace Diagram

def ofNodes (level : DiagramLevel) (nodes : List Node) (edges : List Edge)
    (metadata : JsonObject) : Diagram :=
  ⟨level, nodes, edges, BoundaryGroup.ofNodes nodes, metadata⟩

/-- The first node with an id. -/
def node? (d : Diagram) (id : String) : Option Node :=
  d.nodes.find? (·.id = id)

def edgesAt (d : Diagram) (id : String) : List Edge :=
  d.edges.filter fun e => e.source = id || e.target = id

def nodesOfType (d : Diagram) (type : NodeType) : List Node :=
  d.nodes.filter (·.type = type)

def nodesIn (d : Diagram) (boundary : TrustBoundary) : List Node :=
  d.nodes.filter (·.boundary = some boundary)

/-- Do both ends exist, in different zones? -/
def crossesBoundary (d : Diagram) (e : Edge) : Bool :=
  match d.node? e.source, d.node? e.target with
  | some source, some target => source.boundary ≠ target.boundary
  | _, _ => false

def crossBoundaryEdges (d : Diagram) : List Edge :=
  d.edges.filter d.crossesBoundary

def isExternal (d : Diagram) (id : String) : Bool :=
  (d.node? id).any (·.type = .external)

def externalConnections (d : Diagram) : List Edge :=
  d.edges.filter fun e => d.isExternal e.source || d.isExternal e.target

def statistics (d : Diagram) : DiagramStatistics :=
  { level := d.level
    totalNodes := d.nodes.length
    totalEdges := d.edges.length
    nodeTypes := d.nodes.foldl (fun t n => t.add n.type.text) []
    boundaries := d.nodes.foldl
      (fun t n =>
        match n.boundary with
        | some b => Tally.add b.text t
        | none => t)
      []
    classifications :=
      (d.edges.filterMap Edge.classification).foldl (fun t c => Tally.add c.text t) []
    crossBoundaryFlows := d.crossBoundaryEdges.length
    externalConnections := d.externalConnections.length
    encryptedFlows := (d.edges.filter Edge.encrypted).length }

def toJson (d : Diagram) : Json :=
  Json.object [
    ("level", .str d.level.text),
    ("nodes", Json.ofList Node.toJson d.nodes),
    ("edges", Json.ofList Edge.toJson d.edges),
    ("trust_boundaries", Json.ofList BoundaryGroup.toJson d.groups),
    ("metadata", .obj d.metadata),
    ("statistics", d.statistics.toJson)]

end Diagram

end CloudThreat
