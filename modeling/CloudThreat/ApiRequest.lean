import CloudThreat.DiagramLevels
import CloudThreat.JsonParser
import CloudThreat.MediaType
import CloudThreat.Prompt
import CloudThreat.Uri

namespace CloudThreat

structure ApiRequest where
  method : String
  uri : String
  contentType : Option String
  body : String
deriving Repr

/-- What a request is for. -/
inductive Route where
  | health
  | threats
  | threatStatistics
  | threat (id : String)
  | analyzeThreats
  | analyzeDiagram
  | narrative
  | cacheStatistics
  | clearCache
deriving Repr, DecidableEq

namespace Route

/-- The routes below the path of the first version of the service. -/
def inVersion1? (method : String) : List String → Option Route
  | ["threats"] => if method = "GET" then some threats else none
  | ["threats", "statistics"] => if method = "GET" then some threatStatistics else none
  | ["threats", id] => if method = "GET" && !id.isEmpty then some (threat (Uri.segment id)) else none
  | ["analyze", "threats"] => if method = "POST" then some analyzeThreats else none
  | ["analyze", "dfd"] => if method = "POST" then some analyzeDiagram else none
  | ["analyze", "remediation"] => if method = "POST" then some narrative else none
  | ["cache", "statistics"] => if method = "GET" then some cacheStatistics else none
  | ["cache"] => if method = "DELETE" then some clearCache else none
  | _ => none

/-- The route of a request, if there is anything under its path for its method. -/
def of? (r : ApiRequest) : Option Route :=
  match (cut '/' (Uri.path r.uri).toList).map String.ofList with
  | ["", "health"] => if r.method = "GET" then some health else none
  | "" :: "api" :: "v1" :: rest => inVersion1? r.method rest
  | _ => none

end Route

/-- The threats to list: each field that is given narrows the list down. -/
structure ThreatQuery where
  resourceType : Option String
  cloudProvider : Option String
  category : Option String
  severity : Option String
deriving Repr

namespace ThreatQuery

/-- The value of a field; nothing, not even no value, if it is given twice. -/
def field? (fields : List (String × String)) (name : String) : Option (Option String) :=
  match fields.filter (·.1 = name) with
  | [] => some none
  | [f] => some (some f.2)
  | _ => none

def ofFields? (fields : List (String × String)) : Option ThreatQuery := do
  return ⟨← field? fields "resource_type", ← field? fields "cloud_provider",
    ← field? fields "category", ← field? fields "severity"⟩

end ThreatQuery

/-- Raw resources, and whether threats are for certain types only. -/
structure AnalysisRequest where
  resources : List Json
  filterByResourceType : Option Bool
deriving Repr

namespace AnalysisRequest

def fields : Fields AnalysisRequest :=
  AnalysisRequest.mk
    <$> .required "resources" (Reader.list Reader.anything)
    <*> .optional "filter_by_resource_type" Reader.boolean

def read : Reader AnalysisRequest :=
  fields.read "an analysis request"

end AnalysisRequest

structure DiagramRequest where
  resources : List Json
  codeFlows : Option (List CodeFlow)
deriving Repr

namespace DiagramRequest

def fields : Fields DiagramRequest :=
  DiagramRequest.mk
    <$> .required "resources" (Reader.list Reader.anything)
    <*> .optional "code_flows" (Reader.list CodeFlow.read)

def read : Reader DiagramRequest :=
  fields.read "a diagram request"

end DiagramRequest

/-- A text about a threat to a raw resource. -/
structure NarrativeRequest where
  threatId : String
  resource : Json
  kind : PromptKind
deriving Repr

namespace NarrativeRequest

def fields : Fields NarrativeRequest :=
  NarrativeRequest.mk
    <$> .required "threat_id" Reader.text
    <*> .required "resource" Reader.anything
    <*> .withDefault "kind" PromptKind.read .threatDescription

def read : Reader NarrativeRequest :=
  fields.read "a narrative request"

end NarrativeRequest

namespace ApiRequest

/-- The body as JSON with its fields as they are written, if the request says that it is JSON. -/
def written? (r : ApiRequest) : Option Json := do
  let type ← r.contentType.bind MediaType.ofText?
  guard type.isJson
  JsonParser.written? Json.textDepth r.body

/-- The body as a record; a field given twice is refused. -/
def body? {α : Type} (r : ApiRequest) (read : Reader α) : Option α :=
  r.written?.bind fun j => (read j).toOption

end ApiRequest

end CloudThreat
