import CloudThreat.LogicGroup
import CloudThreat.Severity

namespace CloudThreat

structure Mitigation where
  description : String
  effort : String
  impact : String
  steps : List String
deriving Repr

namespace Mitigation

def fields : Fields Mitigation :=
  Mitigation.mk
    <$> .required "description" Reader.text
    <*> .withDefault "effort" Reader.text "medium"
    <*> .withDefault "impact" Reader.text "medium"
    <*> .withDefault "steps" (Reader.list Reader.text) []

def read : Reader Mitigation :=
  fields.read "struct Mitigation"

def toJson (m : Mitigation) : Json :=
  Json.object [
    ("description", .str m.description),
    ("effort", .str m.effort),
    ("impact", .str m.impact),
    ("steps", Json.ofStrings m.steps)]

end Mitigation

structure ComplianceMapping where
  framework : String
  controlId : String
  description : String
deriving Repr

namespace ComplianceMapping

def fields : Fields ComplianceMapping :=
  ComplianceMapping.mk
    <$> .required "framework" Reader.text
    <*> .required "control_id" Reader.text
    <*> .withDefault "description" Reader.text ""

def read : Reader ComplianceMapping :=
  fields.read "struct ComplianceMapping"

def toJson (c : ComplianceMapping) : Json :=
  Json.object [
    ("framework", .str c.framework),
    ("control_id", .str c.controlId),
    ("description", .str c.description)]

end ComplianceMapping

structure Threat where
  id : String
  name : String
  description : String
  severity : Severity
  likelihood : Likelihood
  category : String
  resourceTypes : List String
  cloudProviders : List String
  /-- A threat without a rule never matches. -/
  rule : Option LogicGroup
  attackVectors : List String
  exploitability : String
  businessImpact : String
  mitigations : List Mitigation
  references : List String
  complianceMappings : List ComplianceMapping
  tags : List String
  createdAt : Option String
  updatedAt : Option String
deriving Repr

namespace Threat

/-- A threat with nothing but its name and scores. -/
def new (id name : String) (severity : Severity) (likelihood : Likelihood) (category : String) :
    Threat :=
  ⟨id, name, "", severity, likelihood, category, [], [], none, [], "medium", "medium", [], [], [],
    [], none, none⟩

def texts (name : String) : Fields (List String) :=
  .withDefault name (Reader.list Reader.text) []

/-- The rule is called `conditions` or `condition_logic`, but not both at once. -/
def fields : Fields Threat :=
  Threat.mk
    <$> .required "id" Reader.text
    <*> .required "name" Reader.text
    <*> .required "description" Reader.text
    <*> .required "severity" Severity.read
    <*> .required "likelihood" Likelihood.read
    <*> .required "category" Reader.text
    <*> texts "resource_types"
    <*> texts "cloud_providers"
    <*> .field ["conditions", "condition_logic"] (Reader.nullable LogicGroup.read) (some none)
      (some none)
    <*> texts "attack_vectors"
    <*> .withDefault "exploitability" Reader.text "medium"
    <*> .withDefault "business_impact" Reader.text "medium"
    <*> .withDefault "mitigations" (Reader.list Mitigation.read) []
    <*> texts "references"
    <*> .withDefault "compliance_mappings" (Reader.list ComplianceMapping.read) []
    <*> texts "tags"
    <*> .withDefault "created_at" (Reader.nullable Reader.text) none
    <*> .withDefault "updated_at" (Reader.nullable Reader.text) none

def read : Reader Threat :=
  fields.read "struct Threat"

def riskScore (t : Threat) : Double :=
  CloudThreat.riskScore t.severity t.likelihood

/-- A threat that names no types applies to every type. -/
def appliesToResourceType (t : Threat) (resourceType : String) : Bool :=
  t.resourceTypes.isEmpty || t.resourceTypes.contains resourceType

def appliesToProvider (t : Threat) (provider : String) : Bool :=
  t.cloudProviders.isEmpty || t.cloudProviders.contains provider

/-- The definition with its score. -/
def toJson (t : Threat) : Json :=
  Json.object [
    ("id", .str t.id),
    ("name", .str t.name),
    ("description", .str t.description),
    ("severity", .str t.severity.text),
    ("likelihood", .str t.likelihood.text),
    ("category", .str t.category),
    ("resource_types", Json.ofStrings t.resourceTypes),
    ("cloud_providers", Json.ofStrings t.cloudProviders),
    ("condition_logic", Json.ofOption LogicGroup.toJson t.rule),
    ("attack_vectors", Json.ofStrings t.attackVectors),
    ("exploitability", .str t.exploitability),
    ("business_impact", .str t.businessImpact),
    ("mitigations", Json.ofList Mitigation.toJson t.mitigations),
    ("references", Json.ofStrings t.references),
    ("compliance_mappings", Json.ofList ComplianceMapping.toJson t.complianceMappings),
    ("tags", Json.ofStrings t.tags),
    ("created_at", Json.ofOption .str t.createdAt),
    ("updated_at", Json.ofOption .str t.updatedAt),
    ("risk_score", Json.ofDouble t.riskScore)]

end Threat

end CloudThreat
