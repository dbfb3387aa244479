import CloudThreat.JsonReading
import CloudThreat.WordSize

namespace CloudThreat

structure Resource where
  id : Option String
  resourceType : String
  name : String
  fullName : String
  cloudProvider : Option String
  location : Option String
  lineNumber : Option Nat
  dependsOn : List String
  properties : Json
deriving Repr

/-- The cloud provider whose types begin the same way. -/
def providerOfType (resourceType : String) : Option String :=
  let cs := resourceType.toList
  if "google_".toList.isPrefixOf cs then some "gcp"
  else if "aws_".toList.isPrefixOf cs then some "aws"
  else if "azurerm_".toList.isPrefixOf cs then some "azure"
  else if "alicloud_".toList.isPrefixOf cs then some "alibaba"
  else none

namespace Resource

def joinedName (resourceType name : String) : String :=
  resourceType ++ "." ++ name

def new (resourceType name : String) (properties : Json) : Resource :=
  ⟨none, resourceType, name, joinedName resourceType name, providerOfType resourceType, none, none,
    [], properties⟩

def fields : Fields Resource :=
  Resource.mk
    <$> .withDefault "id" (Reader.nullable Reader.text) none
    <*> .required "resource_type" Reader.text
    <*> .required "name" Reader.text
    <*> .withDefault "full_name" Reader.text ""
    <*> .withDefault "cloud_provider" (Reader.nullable Reader.text) none
    <*> .withDefault "location" (Reader.nullable Reader.text) none
    <*> .withDefault "line_number"
      (Reader.nullable (Reader.natural (WordSize.maxUnsigned 64) "usize")) none
    <*> .withDefault "depends_on" (Reader.list Reader.text) []
    <*> .withDefault "properties" Reader.anything (.obj [])

def read : Reader Resource :=
  fields.read "struct Resource"

/-- The fields that are written in the same way everywhere. -/
def commonFields (r : Resource) : List (String × Json) := [
  ("resource_type", .str r.resourceType),
  ("name", .str r.name),
  ("full_name", .str r.fullName),
  ("cloud_provider", Json.ofOption .str r.cloudProvider),
  ("location", Json.ofOption .str r.location),
  ("line_number", Json.ofOption Json.ofNat r.lineNumber),
  ("depends_on", Json.ofStrings r.dependsOn),
  ("properties", r.properties)]

/-- An id that is not there is left out. -/
def toJson (r : Resource) : Json :=
  Json.object (r.commonFields ++ (r.id.map fun id => ("id", Json.str id)).toList)

/-- The value that the paths of conditions lead into. -/
def document (r : Resource) : Json :=
  r.toJson

/-- A property at the top; a null is no property. -/
def property (r : Resource) (key : String) : Option Json :=
  (r.properties.get? key).bind Json.nonNull?

/-- The file, and the line in it if that is known. -/
def sourceLocation (r : Resource) : Option String :=
  r.location.map fun file =>
    match r.lineNumber with
    | some line => file ++ ":" ++ toString line
    | none => file

/-- Derive the full name and the provider where the input has none. -/
def normalized (r : Resource) : Resource :=
  { r with
    fullName := if r.fullName.isEmpty then joinedName r.resourceType r.name else r.fullName
    cloudProvider := r.cloudProvider.or (providerOfType r.resourceType) }

end Resource

/-- What can be wrong with a raw resource, each with its position. -/
inductive InputError where
  | notAnObject (index : Nat)
  | missingField (index : Nat) (field : String)
  | invalidProperties (index : Nat) (fullName : String)
  | malformed (index : Nat) (reason : ReadError)
deriving Repr

namespace InputError

def position (index : Nat) : String :=
  "resource #" ++ toString index

def message : InputError → String
  | notAnObject i => position i ++ " is not an object"
  | missingField i field => position i ++ " is missing required field `" ++ field ++ "`"
  | invalidProperties i fullName =>
    position i ++ " (" ++ fullName ++ ") has non-object properties"
  | malformed i reason => position i ++ " is malformed: " ++ reason.message

end InputError

namespace Resource

/-- A field with a text that is not empty. -/
def requiredText (index : Nat) (fields : JsonObject) (name : String) : Except InputError String :=
  match fields.find? name with
  | some (.str s) => if s.isEmpty then .error (.missingField index name) else .ok s
  | _ => .error (.missingField index name)

/-- Check one raw resource and complete it. Properties that are null count as none. -/
def ofRaw (index : Nat) (raw : Json) : Except InputError Resource := do
  let .obj fields := raw | .error (.notAnObject index)
  let resourceType ← requiredText index fields "resource_type"
  let name ← requiredText index fields "name"
  let properties := (JsonObject.find? fields "properties").getD (.obj [])
  if properties.isObject || properties.isNull then
    let r ← (read raw).mapError (.malformed index)
    let properties := if r.properties.isNull then .obj [] else r.properties
    .ok { r with properties := properties }.normalized
  else .error (.invalidProperties index (joinedName resourceType name))

/-- Check raw resources in turn, counting from `index`. -/
def ofRawFrom (index : Nat) : List Json → Except InputError (List Resource)
  | [] => .ok []
  | raw :: rest => do
    let r ← ofRaw index raw
    let rs ← ofRawFrom (index + 1) rest
    .ok (r :: rs)

def ofRawList (raws : List Json) : Except InputError (List Resource) :=
  ofRawFrom 0 raws

end Resource

/-- The resources of a configuration and the files that it came from. -/
structure Configuration where
  resources : List Resource
  sourceFiles : List String
deriving Repr

namespace Configuration

def listAt (value : Json) (key : String) : List Json :=
  ((value.get? key).bind Json.items?).getD []

/-- Take a configuration from untyped input: what is no list counts as empty, and what is no text
among the files is passed over. -/
def ofRaw (value : Json) : Except InputError Configuration := do
  let resources ← Resource.ofRawList (listAt value "resources")
  .ok ⟨resources, (listAt value "source_files").filterMap Json.text?⟩

def toJson (c : Configuration) : Json :=
  Json.object [
    ("resources", Json.ofList Resource.toJson c.resources),
    ("source_files", Json.ofStrings c.sourceFiles)]

end Configuration

end CloudThreat
