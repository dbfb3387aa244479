import CloudThreat.ApiRequest
import CloudThreat.Catalogue
import CloudThreat.Matching
import CloudThreat.ModelClient
import CloudThreat.Narrator

namespace CloudThreat

/-- A status and a JSON body; an answer without one only says that something is not there or not
readable. -/
structure ApiResponse where
  status : Nat
  body : Option Json
deriving Repr

namespace ApiResponse

def ok (body : Json) : ApiResponse := ⟨200, some body⟩

def error (status : Nat) (message : String) : ApiResponse :=
  ⟨status, some (Json.object [("error", .str message)])⟩

def notFound : ApiResponse := ⟨404, none⟩

def unreadable : ApiResponse := ⟨400, none⟩

end ApiResponse

structure ApiState where
  catalogue : Catalogue
  filterByResourceType : Bool
  cache : ReplyCache
  /-- There is a client only if there is a key for some provider. -/
  client : Option ModelClient

namespace ApiState

def new (s : Settings) (catalogue : Catalogue) : ApiState where
  catalogue
  filterByResourceType := s.catalogue.filterByResourceType
  cache := .new s.cache.maxSize (s.cache.ttlSecs * 1000)
  client := if s.model.isConfigured then some (.new s.model) else none

end ApiState

namespace Api

def serviceName : String := "iac-threat-analyzer"

def serviceVersion : String := "0.3.2"

def health (s : ApiState) : ApiResponse :=
  .ok (Json.object [
    ("status", .str "ok"),
    ("service", .str serviceName),
    ("version", .str serviceVersion),
    ("threats_loaded", Json.ofNat s.catalogue.size),
    ("llm_enabled", .bool s.client.isSome)])

/-- The threats that a query leaves; a type leaves those that name it, once for each mention. -/
def select (c : Catalogue) (q : ThreatQuery) (severity : Option Severity) : List Threat :=
  let ofType :=
    match q.resourceType with
    | some type => c.ofResourceType type
    | none => c.threats
  ofType.filter fun t =>
    (q.cloudProvider.all fun p => t.appliesToProvider p)
      && (q.category.all fun name => LetterCase.equalAscii t.category name)
      && (severity.all fun s => t.severity = s)

def listThreats (c : Catalogue) (r : ApiRequest) : ApiResponse :=
  match ThreatQuery.ofFields? (Uri.queryFields r.uri) with
  | none => .unreadable
  | some q =>
    match q.severity.mapM Severity.ofText with
    | .error e => .error 400 e.message
    | .ok severity =>
      let threats := select c q severity
      .ok (Json.object [
        ("total", Json.ofNat threats.length),
        ("threats", Json.ofList Threat.toJson threats)])

def unknownThreat (id : String) : ApiResponse :=
  .error 404 ("Threat not found: " ++ id)

def threat (c : Catalogue) (id : String) : ApiResponse :=
  match c.withId? id with
  | some t => .ok t.toJson
  | none => unknownThreat id

/-- Answer with the checked resources, or with what is wrong with them. -/
def withResources (raw : List Json) (answer : List Resource → ApiResponse) : ApiResponse :=
  match Resource.ofRawList (raw.map Json.canonical) with
  | .ok resources => answer resources
  | .error e => .error 400 e.message

def analyzeThreats (s : ApiState) (r : ApiRequest) : ApiResponse :=
  match r.body? AnalysisRequest.read with
  | none => .unreadable
  | some a =>
    withResources a.resources fun resources =>
      let filter := a.filterByResourceType.getD s.filterByResourceType
      .ok (Matching.run resources s.catalogue.threats filter).toJson

def analyzeDiagram (r : ApiRequest) : ApiResponse :=
  match r.body? DiagramRequest.read with
  | none => .unreadable
  | some d =>
    withResources d.resources fun resources =>
      .ok (DiagramSet.build resources (d.codeFlows.getD [])).toJson

/-- There is no answer if the statistics of the client overflow. -/
def cacheStatistics (s : ApiState) : Option ApiResponse :=
  (s.client.mapM ModelClient.statistics?).map fun llm =>
    .ok (Json.object [
      ("cache", s.cache.statistics.toJson),
      ("llm", Json.ofOption ClientStatistics.toJson llm)])

def clearCache (s : ApiState) : ApiResponse × ApiState :=
  (.ok (Json.object [("cleared", Json.ofNat s.cache.size)]), { s with cache := s.cache.clear })

/-- What a request for a text is about: the threat and the resource. -/
def subject (c : Catalogue) (n : NarrativeRequest) : Except ApiResponse (Threat × Resource) :=
  match c.withId? n.threatId with
  | none => .error (unknownThreat n.threatId)
  | some t =>
    match Resource.ofRawList [n.resource.canonical] with
    | .ok (r :: _) => .ok (t, r)
    | .ok [] => .error (.error 400 "resource is required")
    | .error e => .error (.error 400 e.message)

def narrated (n : NarrativeRequest) (t : Threat) (r : Resource) :
    Except GenerationFailure String → Option ApiResponse
  | .ok text =>
    some (.ok (Json.object [
      ("threat_id", .str t.id),
      ("resource", .str r.fullName),
      ("kind", .str n.kind.text),
      ("text", .str text)]))
  | .error (.told e) => some (.error 502 e.message)
  | .error .overflow => none

variable {σ : Type}

/-- Have a text written; nothing is looked at if there is no client for it. -/
def narrative (http : Transport σ) (now : Nat) (request : ApiRequest) (s : ApiState) (wire : σ) :
    Option ApiResponse × ApiState × σ :=
  match request.body? NarrativeRequest.read with
  | none => (some .unreadable, s, wire)
  | some n =>
    match s.client with
    | none => (some (.error 503 "No LLM provider configured"), s, wire)
    | some client =>
      match subject s.catalogue n with
      | .error response => (some response, s, wire)
      | .ok (t, r) =>
        let narrator : Narrator (ModelSession σ) := ⟨⟨client, wire⟩, some s.cache⟩
        let (result, narrator) :=
          narrator.complete (ModelSession.generate http) now (.of n.kind t r)
        let session := narrator.generator
        (narrated n t r result,
          { s with cache := narrator.cache.getD s.cache, client := some session.client },
          session.wire)

/-- Answer a request at a time, with a way to reach the text providers. There is no answer if the
handling of the request breaks off. -/
def respond (http : Transport σ) (now : Nat) (r : ApiRequest) (s : ApiState) (wire : σ) :
    Option ApiResponse × ApiState × σ :=
  match Route.of? r with
  | none => (some .notFound, s, wire)
  | some .health => (some (health s), s, wire)
  | some .threats => (some (listThreats s.catalogue r), s, wire)
  | some .threatStatistics => (some (.ok s.catalogue.statistics.toJson), s, wire)
  | some (.threat id) => (some (threat s.catalogue id), s, wire)
  | some .analyzeThreats => (some (analyzeThreats s r), s, wire)
  | some .analyzeDiagram => (some (analyzeDiagram r), s, wire)
  | some .narrative => narrative http now r s wire
  | some .cacheStatistics => (cacheStatistics s, s, wire)
  | some .clearCache =>
    let (response, s) := clearCache s
    (some response, s, wire)

end Api

end CloudThreat
