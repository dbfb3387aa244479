import CloudThreat.Blank
import CloudThreat.Threat
import CloudThreat.YamlValue

namespace CloudThreat.ThreatFile

/-- The fields of a record. -/
abbrev Record := List (String × YamlValue)

/-- A field under any of several names; it must not stand twice. -/
def field {α : Type} (record : Record) (names : List String) (read : YamlValue → Option α)
    (absent : Option α) : Option α :=
  match record.filter fun f => names.contains f.1 with
  | [] => absent
  | [(_, v)] => read v
  | _ => none

def required {α : Type} (record : Record) (name : String) (read : YamlValue → Option α) :
    Option α :=
  field record [name] read none

def withDefault {α : Type} (record : Record) (name : String) (read : YamlValue → Option α)
    (value : α) : Option α :=
  field record [name] read (some value)

def list {α : Type} (read : YamlValue → Option α) (v : YamlValue) : Option (List α) :=
  v.items?.bind (·.mapM read)

def texts (record : Record) (name : String) : Option (List String) :=
  withDefault record name (list YamlValue.text?) []

/-- A null is no value. -/
def nullable {α : Type} (read : YamlValue → Option α) : YamlValue → Option (Option α)
  | .null => some none
  | v => (read v).map some

def word {α : Type} (parse : String → Except WordError α) (v : YamlValue) : Option α :=
  v.text?.bind fun s => (parse s).toOption

def condition (v : YamlValue) : Option Condition := do
  let r ← v.fields?
  some {
    field := ← required r "field" YamlValue.text?
    operator := ← required r "operator" fun v => v.text?.map Operator.ofText
    value := ← withDefault r "value" YamlValue.toJson? .null }

/-- Groups nested to a given depth. -/
def group : Nat → YamlValue → Option LogicGroup
  | 0, _ => none
  | depth + 1, v => do
    let r ← v.fields?
    some {
      logic := ← withDefault r "logic" (word Logic.ofText) .all
      conditions := ← withDefault r "conditions" (list condition) []
      groups := ← withDefault r "groups" (list (group depth)) [] }

/-- Collections nest no deeper in a document. -/
def depthLimit : Nat := 128

def mitigation (v : YamlValue) : Option Mitigation := do
  let r ← v.fields?
  some {
    description := ← required r "description" YamlValue.text?
    effort := ← withDefault r "effort" YamlValue.text? "medium"
    impact := ← withDefault r "impact" YamlValue.text? "medium"
    steps := ← texts r "steps" }

def complianceMapping (v : YamlValue) : Option ComplianceMapping := do
  let r ← v.fields?
  some {
    framework := ← required r "framework" YamlValue.text?
    controlId := ← required r "control_id" YamlValue.text?
    description := ← withDefault r "description" YamlValue.text? "" }

def threat (v : YamlValue) : Option Threat := do
  let r ← v.fields?
  some {
    id := ← required r "id" YamlValue.text?
    name := ← required r "name" YamlValue.text?
    description := ← required r "description" YamlValue.text?
    severity := ← required r "severity" (word Severity.ofText)
    likelihood := ← required r "likelihood" (word Likelihood.ofText)
    category := ← required r "category" YamlValue.text?
    resourceTypes := ← texts r "resource_types"
    cloudProviders := ← texts r "cloud_providers"
    rule := ← field r ["conditions", "condition_logic"] (nullable (group depthLimit)) (some none)
    attackVectors := ← texts r "attack_vectors"
    exploitability := ← withDefault r "exploitability" YamlValue.text? "medium"
    businessImpact := ← withDefault r "business_impact" YamlValue.text? "medium"
    mitigations := ← withDefault r "mitigations" (list mitigation) []
    references := ← texts r "references"
    complianceMappings := ← withDefault r "compliance_mappings" (list complianceMapping) []
    tags := ← texts r "tags"
    createdAt := ← withDefault r "created_at" (nullable YamlValue.text?) none
    updatedAt := ← withDefault r "updated_at" (nullable YamlValue.text?) none }

/-- Is a node no value where one is optional? The tag for null is not to stand at anything else. -/
def isAbsent : YamlNode → Option Bool
  | .scalar props true text =>
    match props.tag with
    | none => some (text.isEmpty || YamlNode.isNullWord text)
    | some tag =>
      if tag = YamlNode.coreTag "null" then if YamlNode.isNullWord text then some true else none
      else some false
  | _ => some false

/-- A plain scalar without text counts as a collection without entries. -/
def isEmptyPlain : YamlNode → Bool
  | .scalar _ plain text => plain && text.isEmpty
  | _ => false

/-- The records in the list of threats, whose values nest no deeper than `depth`. -/
def records (depth : Nat) (s : YamlNode.Scope) (node : YamlNode) :
    Option (List YamlValue × YamlNode.Scope) := do
  let (node, s) ← s.follow node
  if ← isAbsent node then some ([], s)
  else if isEmptyPlain node then some ([], s)
  else
    match node with
    | .sequence _ items => YamlNode.valuesOf (YamlNode.value depth) s items
    | _ => none

/-- The records of a document, from its entries. Keys are scalars, and only one is the list of
threats; what stands under other keys does not matter. -/
def recordsOfEntries (s : YamlNode.Scope) (found : Option (List YamlValue)) :
    List (YamlNode × YamlNode) → Option (List YamlValue)
  | [] => some (found.getD [])
  | (key, node) :: rest => do
    match ← s.follow key with
    | (.scalar _ _ text, s) =>
      if text = "threats" then
        if found.isSome then none
        else
          let (rs, s) ← records (depthLimit - 2) s node
          recordsOfEntries s (some rs) rest
      else recordsOfEntries s found rest
    | _ => none

def recordsOfRoot (root : YamlNode) : Option (List YamlValue) := do
  if ← isAbsent root then some []
  else if isEmptyPlain root then some []
  else
    match root with
    | .mapping _ entries => recordsOfEntries (.ofRoot root) none entries
    | _ => none

/-- The threats of a file; nothing when its text cannot be read as a whole. -/
def threats? (text : String) : Option (List Threat) :=
  if Blank.isBlankText text then some []
  else
    match YamlNode.ofText? text with
    | none => none
    | some none => some []
    | some (some root) => (recordsOfRoot root).map fun rs => rs.filterMap threat

end CloudThreat.ThreatFile
