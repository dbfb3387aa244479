import CloudThreat.Blank
import CloudThreat.JsonReading

namespace CloudThreat

inductive PromptKind where
  | threatDescription
  | remediation
  | compliance
  | attackScenario
  | riskAssessment
  | mitigationAlternatives
deriving Repr, DecidableEq

namespace PromptKind

def text : PromptKind → String
  | threatDescription => "threat_description"
  | remediation => "remediation"
  | compliance => "compliance"
  | attackScenario => "attack_scenario"
  | riskAssessment => "risk_assessment"
  | mitigationAlternatives => "mitigation_alternatives"

def all : List PromptKind :=
  [threatDescription, remediation, compliance, attackScenario, riskAssessment,
    mitigationAlternatives]

def read : Reader PromptKind :=
  Reader.variant (all.map fun k => (k.text, k))

def architectRole : String :=
  "You are a security architect reviewing cloud infrastructure. " ++
  "Explain concrete security consequences of the configuration you are given " ++
  "and avoid generic advice."

/-- The role of the model for a kind of text. -/
def systemPrompt : PromptKind → String
  | threatDescription => architectRole
  | mitigationAlternatives => architectRole
  | remediation =>
    "You are a DevSecOps engineer. Give remediation steps that can be applied " ++
    "as written, including infrastructure code where it helps."
  | compliance =>
    "You are a compliance analyst. Relate technical findings to specific " ++
    "framework controls in language an auditor accepts."
  | attackScenario =>
    "You are a red team operator. Describe attacks grounded in real-world " ++
    "techniques and name the tooling involved."
  | riskAssessment =>
    "You are a risk analyst. Weigh financial, operational, reputational and " ++
    "regulatory impact and end with a remediation priority."

end PromptKind

namespace Prompt

def lines (ls : List String) : String :=
  "\n".intercalate ls

/-- The fields of an object, one on a line; white space at the end of the list is dropped. -/
def bulletList (bullet : String) (o : JsonObject) : String :=
  Blank.trimEnd (String.join (o.map fun f => "  " ++ bullet ++ f.1 ++ ": " ++ f.2.display ++ "\n"))

/-- The fields of an object; anything else has none. -/
def fieldsOf (j : Json) : JsonObject :=
  j.fields?.getD []

def threatDescription (resourceType name : String) (properties : Json)
    (threat category : String) : String :=
  lines [
    "Configuration of " ++ resourceType ++ " `" ++ name ++ "`:",
    bulletList "- " (fieldsOf properties),
    "",
    "Threat: " ++ threat,
    "Category: " ++ category,
    "",
    "In two or three sentences for a security architect, state the weakness, " ++
      "how an attacker would use it, and the resulting impact. " ++
      "Stay specific to this configuration."]

def remediation (threat description cloudProvider resourceType resource : String)
    (configuration : Json) : String :=
  lines [
    "Remediate this " ++ cloudProvider ++ " finding.",
    "",
    "Threat: " ++ threat,
    "Description: " ++ description,
    "Service type: " ++ resourceType,
    "Resource: " ++ resource,
    "",
    "Current configuration:",
    bulletList "" (fieldsOf configuration),
    "",
    "Include:",
    "1. Ordered remediation steps",
    "2. " ++ cloudProvider ++ " console steps or CLI commands",
    "3. A Terraform snippet with the corrected settings",
    "4. How to verify the fix"]

def compliance (threat description framework controlId : String)
    (controlDescription : Option String) : String :=
  lines ([
    "Map this threat onto " ++ framework ++ ".",
    "",
    "Threat: " ++ threat,
    "Description: " ++ description,
    "Control: " ++ controlId]
    ++ (controlDescription.map fun d => "Control description: " ++ d).toList
    ++ [
    "",
    "Cover what " ++ framework ++ " " ++ controlId ++ " requires, how the threat breaks it, " ++
      "what restores compliance, and which evidence an auditor will ask for."])

def attackScenario (threat resourceType : String) (details : Json) : String :=
  lines [
    "Walk through a realistic attack on this weakness.",
    "",
    "Threat: " ++ threat,
    "Service: " ++ resourceType,
    "Details:",
    bulletList "- " (fieldsOf details),
    "",
    "Cover the attacker profile, each step of the attack, tools used, " ++
      "time to exploit, and where defenders could detect it."]

def riskAssessment (threat severity likelihood : String) (context : Json) : String :=
  lines [
    "Assess the business risk of this threat.",
    "",
    "Threat: " ++ threat,
    "Severity: " ++ severity,
    "Likelihood: " ++ likelihood,
    "Business context:",
    bulletList "- " (fieldsOf context),
    "",
    "Cover business impact, regulatory exposure, customer impact, a remediation " ++
      "priority (Critical/High/Medium/Low) and a target timeline."]

/-- Constraints are listed if there are any. -/
def mitigationAlternatives (threat mitigation : String) (constraints : Option Json) : String :=
  let listed := (constraints.map fieldsOf).getD []
  lines ([
    "Propose alternatives to the recommended mitigation.",
    "",
    "Threat: " ++ threat,
    "Recommended mitigation: " ++ mitigation]
    ++ (if listed.isEmpty then [] else ["Constraints:", bulletList "- " listed])
    ++ [
    "",
    "Give three to five options. For each, list pros and cons, cost " ++
      "(Low/Medium/High), rollout time, and effectiveness relative to the " ++
      "recommended mitigation."])

end Prompt

end CloudThreat
