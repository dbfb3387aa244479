import CloudThreat.Prompt
import CloudThreat.ReplyCache
import CloudThreat.Resource
import CloudThreat.Settings
import CloudThreat.TextRequest
import CloudThreat.Threat

namespace CloudThreat

/-- How long and how varied an answer may be. -/
structure Sampling where
  maxTokens : Nat
  temperature : Double
deriving Repr

/-- Kinds without an entry are left to the settings of the generator. -/
def PromptKind.sampling? : PromptKind → Option Sampling
  | .threatDescription => some ⟨500, ModelSettings.tenths 7⟩
  | .remediation => some ⟨1500, ModelSettings.tenths 5⟩
  | .compliance => some ⟨1000, ModelSettings.tenths 6⟩
  | .attackScenario => some ⟨1200, ModelSettings.tenths 7⟩
  | .riskAssessment => some ⟨1000, ModelSettings.tenths 6⟩
  | .mitigationAlternatives => none

/-- A text that is wanted, and the request for it. -/
structure Narration where
  kind : PromptKind
  prompt : String
deriving Repr

namespace Narration

def request (n : Narration) : TextRequest where
  prompt := n.prompt
  systemPrompt := some n.kind.systemPrompt
  maxTokens := n.kind.sampling?.map (·.maxTokens)
  temperature := n.kind.sampling?.map (·.temperature)

def describeThreat (t : Threat) (r : Resource) : Narration :=
  ⟨.threatDescription,
    Prompt.threatDescription r.resourceType r.name r.properties t.name t.category⟩

/-- How a prompt names the provider of a resource. -/
def providerName (r : Resource) : String :=
  (r.cloudProvider.map LetterCase.upper).getD "the cloud provider"

def remediation (t : Threat) (r : Resource) : Narration :=
  ⟨.remediation,
    Prompt.remediation t.name t.description (providerName r) r.resourceType r.fullName
      r.properties⟩

/-- The control of a framework: the given one, else the one that the threat maps to. -/
def control (t : Threat) (framework : String) (controlId description : Option String) :
    String × Option String :=
  match controlId, t.complianceMappings.find? fun m => LetterCase.equalAscii m.framework framework with
  | some id, _ => (id, description)
  | none, some m => (m.controlId, if m.description.isEmpty then none else some m.description)
  | none, none => ("General Security Controls", description)

def compliance (t : Threat) (framework : String) (controlId description : Option String) :
    Narration :=
  let (controlId, description) := control t framework controlId description
  ⟨.compliance, Prompt.compliance t.name t.description framework controlId description⟩

def attackScenario (t : Threat) (r : Resource) : Narration :=
  ⟨.attackScenario, Prompt.attackScenario t.name r.resourceType r.properties⟩

def riskAssessment (t : Threat) (context : Json) : Narration :=
  ⟨.riskAssessment, Prompt.riskAssessment t.name t.severity.text t.likelihood.text context⟩

def mitigationAlternatives (t : Threat) (constraints : Option Json) : Narration :=
  let primary :=
    match t.mitigations with
    | m :: _ => m.description
    | [] => "None specified"
  ⟨.mitigationAlternatives, Prompt.mitigationAlternatives t.name primary constraints⟩

def defaultFramework : String := "ISO27001"

/-- What is told of a resource when its risk is assessed. -/
def riskContext (t : Threat) (r : Resource) : Json :=
  Json.object [
    ("resource", .str r.fullName),
    ("cloud_provider", Json.ofOption .str r.cloudProvider),
    ("business_impact", .str t.businessImpact)]

/-- One kind of text about a threat to a resource. -/
def of (kind : PromptKind) (t : Threat) (r : Resource) : Narration :=
  match kind with
  | .threatDescription => describeThreat t r
  | .remediation => remediation t r
  | .compliance =>
    let framework :=
      match t.complianceMappings with
      | m :: _ => m.framework
      | [] => defaultFramework
    compliance t framework none none
  | .attackScenario => attackScenario t r
  | .riskAssessment => riskAssessment t (riskContext t r)
  | .mitigationAlternatives => mitigationAlternatives t none

end Narration

/-- A generator of text and the cache in front of it, if there is one. -/
structure Narrator (σ : Type) where
  generator : σ
  cache : Option ReplyCache

namespace Narrator

variable {σ : Type}

/-- What the cache has for a narration. -/
def cached (s : Narrator σ) (now : Nat) (n : Narration) : Option String × Narrator σ :=
  match s.cache with
  | none => (none, s)
  | some c =>
    let (reply, c) := c.get now n.prompt (some n.kind.systemPrompt)
    (reply, { s with cache := some c })

/-- Take the text from the cache, else have it generated and stored. -/
def complete (s : Narrator σ) (generate : TextGenerator σ) (now : Nat) (n : Narration) :
    Except GenerationFailure String × Narrator σ :=
  match s.cached now n with
  | (some reply, s) => (.ok reply, s)
  | (none, s) =>
    match generate n.request s.generator with
    | (.ok reply, g) =>
      (.ok reply, ⟨g, s.cache.map fun c => c.set now n.prompt reply (some n.kind.systemPrompt)⟩)
    | (.error e, g) => (.error e, { s with generator := g })

end Narrator

end CloudThreat
