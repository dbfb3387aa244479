import CloudThreat.Resource
import CloudThreat.Tally
import CloudThreat.Threat

namespace CloudThreat

/-- A threat whose rule held for a resource, with the texts of the conditions that held. -/
structure MatchedThreat where
  threat : Threat
  resource : Resource
  matchedConditions : List String
  confidence : Double
deriving Repr

namespace MatchedThreat

def riskScore (m : MatchedThreat) : Double :=
  m.threat.riskScore * m.confidence

def toJson (m : MatchedThreat) : Json :=
  Json.object [
    ("threat", m.threat.toJson),
    ("resource_id", .str m.resource.fullName),
    ("resource_type", .str m.resource.resourceType),
    ("resource_properties", m.resource.properties),
    ("matched_conditions", Json.ofStrings m.matchedConditions),
    ("confidence", Json.ofDouble m.confidence),
    ("risk_score", Json.ofDouble m.riskScore),
    ("location", Json.ofOption .str m.resource.sourceLocation),
    ("severity", .str m.threat.severity.text),
    ("category", .str m.threat.category)]

end MatchedThreat

structure MatchStatistics where
  bySeverity : Tally
  byCategory : Tally
  byResourceType : Tally
deriving Repr

namespace MatchStatistics

def empty : MatchStatistics := ⟨[], [], []⟩

def record (s : MatchStatistics) (m : MatchedThreat) : MatchStatistics :=
  ⟨s.bySeverity.add m.threat.severity.text, s.byCategory.add m.threat.category,
    s.byResourceType.add m.resource.resourceType⟩

def toJson (s : MatchStatistics) : Json :=
  Json.object [
    ("by_severity", s.bySeverity.toJson),
    ("by_category", s.byCategory.toJson),
    ("by_resource_type", s.byResourceType.toJson)]

end MatchStatistics

structure MatchResult where
  matchedThreats : List MatchedThreat
  resourcesScanned : Nat
  threatsChecked : Nat
  statistics : MatchStatistics
deriving Repr

namespace MatchResult

def totalMatched (r : MatchResult) : Nat :=
  r.matchedThreats.length

def criticalThreats (r : MatchResult) : List MatchedThreat :=
  r.matchedThreats.filter (·.threat.severity = .critical)

def highRiskThreats (r : MatchResult) (threshold : Double) : List MatchedThreat :=
  r.matchedThreats.filter fun m => threshold.le m.riskScore

def toJson (r : MatchResult) : Json :=
  Json.object [
    ("matched_threats", Json.ofList MatchedThreat.toJson r.matchedThreats),
    ("total_matched", Json.ofNat r.totalMatched),
    ("total_resources_scanned", Json.ofNat r.resourcesScanned),
    ("total_threats_checked", Json.ofNat r.threatsChecked),
    ("statistics", r.statistics.toJson)]

end MatchResult

namespace Matching

/-- Is the threat looked for on the resource? Its types count only if they are to filter, its
providers only if the provider of the resource is known. -/
def applies (filterByType : Bool) (r : Resource) (t : Threat) : Bool :=
  (!filterByType || t.appliesToResourceType r.resourceType)
    && (match r.cloudProvider with
      | some provider => t.appliesToProvider provider
      | none => true)

/-- The match of one threat with one resource, if its rule holds there. -/
def match? (r : Resource) (document : Json) (t : Threat) : Option MatchedThreat :=
  match t.rule with
  | none => none
  | some rule =>
    let (held, trail) := rule.evaluate document []
    if held then some ⟨t, r, trail, .ofNat 1⟩ else none

/-- The matches of one resource, in the order of the threats. -/
def ofResource (filterByType : Bool) (threats : List Threat) (r : Resource) :
    List MatchedThreat :=
  let document := r.document
  (threats.filter (applies filterByType r)).filterMap (match? r document)

/-- Higher risk goes first; matches of equal risk keep their order. -/
def sortByRisk (ms : List MatchedThreat) : List MatchedThreat :=
  ms.mergeSort fun a b => !a.riskScore.lt b.riskScore

/-- Match every resource with every threat that applies to it. -/
def run (resources : List Resource) (threats : List Threat) (filterByType : Bool) : MatchResult :=
  let found := resources.flatMap (ofResource filterByType threats)
  ⟨sortByRisk found, resources.length, threats.length,
    found.foldl MatchStatistics.record .empty⟩

end Matching

end CloudThreat
