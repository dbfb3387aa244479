import CloudThreat.DecimalNumeral
import CloudThreat.EnvFile
import CloudThreat.FileTree
import CloudThreat.ModelProvider
import CloudThreat.WordSize

namespace CloudThreat

structure ServerSettings where
  host : String
  port : Nat
  environment : String
deriving Repr

structure CatalogueSettings where
  path : String
  filterByResourceType : Bool
deriving Repr

structure ModelSettings where
  provider : ModelProvider
  /-- Overrides the default model of the provider. -/
  model : Option String
  anthropicKey : Option String
  openaiKey : Option String
  anthropicUrl : String
  openaiUrl : String
  maxTokens : Nat
  /-- A number of single precision. -/
  temperature : Double
  timeoutSecs : Nat
  maxRetries : Nat
  retryBaseMs : Nat
  enableFallback : Bool
deriving Repr

structure CacheSettings where
  maxSize : Nat
  ttlSecs : Nat
deriving Repr

structure Settings where
  server : ServerSettings
  catalogue : CatalogueSettings
  model : ModelSettings
  cache : CacheSettings
  logLevel : String
deriving Repr

namespace ModelSettings

/-- A temperature in tenths. -/
def tenths (n : Nat) : Double :=
  DecimalNumeral.toDoubleIn .single ⟨false, n, -1⟩

def default : ModelSettings where
  provider := .claude
  model := none
  anthropicKey := none
  openaiKey := none
  anthropicUrl := "https://api.anthropic.com"
  openaiUrl := "https://api.openai.com"
  maxTokens := 2048
  temperature := tenths 7
  timeoutSecs := 60
  maxRetries := 3
  retryBaseMs := 2000
  enableFallback := true

def key? (s : ModelSettings) : ModelProvider → Option String
  | .claude => s.anthropicKey
  | .openai => s.openaiKey

def isConfigured (s : ModelSettings) : Bool :=
  s.anthropicKey.isSome || s.openaiKey.isSome

/-- The settings without the keys, which are never written. -/
def toJson (s : ModelSettings) : Json :=
  Json.object [
    ("provider", .str s.provider.text),
    ("model", Json.ofOption .str s.model),
    ("anthropic_base_url", .str s.anthropicUrl),
    ("openai_base_url", .str s.openaiUrl),
    ("max_tokens", Json.ofNat s.maxTokens),
    ("temperature", Json.ofDouble s.temperature),
    ("timeout_secs", Json.ofNat s.timeoutSecs),
    ("max_retries", Json.ofNat s.maxRetries),
    ("retry_base_delay_ms", Json.ofNat s.retryBaseMs),
    ("enable_fallback", .bool s.enableFallback)]

end ModelSettings

namespace Settings

def toJson (s : Settings) : Json :=
  Json.object [
    ("server", Json.object [
      ("host", .str s.server.host),
      ("port", Json.ofNat s.server.port),
      ("environment", .str s.server.environment)]),
    ("threat_db", Json.object [
      ("path", .str s.catalogue.path),
      ("filter_by_resource_type", .bool s.catalogue.filterByResourceType)]),
    ("llm", s.model.toJson),
    ("cache", Json.object [
      ("max_size", Json.ofNat s.cache.maxSize),
      ("ttl_secs", Json.ofNat s.cache.ttlSecs)]),
    ("logging", Json.object [("log_level", .str s.logLevel)])]

/-- The number of so many bits that a text spells: digits, perhaps after a plus sign. -/
def natural? (bits : Nat) (s : String) : Option Nat :=
  let digits :=
    match Blank.trimChars s.toList with
    | '+' :: rest => rest
    | rest => rest
  if digits.isEmpty || !digits.all Char.isDigit then none
  else
    let n := DecimalNumeral.valueOf digits
    if n ≤ WordSize.maxUnsigned bits then some n else none

def single? (s : String) : Option Double :=
  Double.ofTextIn .single (Blank.trimChars s.toList)

def truth? (s : String) : Option Bool :=
  let word := Vocabulary.simplified s
  if ["true", "1", "yes"].contains word then some true
  else if ["false", "0", "no"].contains word then some false
  else none

/-- The value of a variable as a number, a truth value and so on, if it is one. -/
def readAs {α : Type} (vars : Variables) (name : String) (read : String → Option α)
    (default : α) : α :=
  ((vars.get? name).bind read).getD default

/-- The value of a variable unless it is blank. -/
def nonBlank? (vars : Variables) (name : String) : Option String :=
  (vars.get? name).filter fun s => !Blank.isBlankText s

def providerOf (vars : Variables) : Except WordError ModelProvider :=
  match nonBlank? vars "LLM_PROVIDER" with
  | some name => ModelProvider.ofText name
  | none => .ok ModelSettings.default.provider

def modelSettings (vars : Variables) (provider : ModelProvider) : ModelSettings :=
  let standard := ModelSettings.default
  { provider
    model := nonBlank? vars "LLM_MODEL"
    anthropicKey := nonBlank? vars "ANTHROPIC_API_KEY"
    openaiKey := nonBlank? vars "OPENAI_API_KEY"
    anthropicUrl := (nonBlank? vars "ANTHROPIC_BASE_URL").getD standard.anthropicUrl
    openaiUrl := (nonBlank? vars "OPENAI_BASE_URL").getD standard.openaiUrl
    maxTokens := readAs vars "MAX_TOKENS" (natural? 32) standard.maxTokens
    temperature := readAs vars "TEMPERATURE" single? standard.temperature
    timeoutSecs := readAs vars "LLM_TIMEOUT_SECS" (natural? 64) standard.timeoutSecs
    maxRetries := readAs vars "LLM_MAX_RETRIES" (natural? 32) standard.maxRetries
    retryBaseMs := readAs vars "LLM_RETRY_BASE_MS" (natural? 64) standard.retryBaseMs
    enableFallback := readAs vars "LLM_ENABLE_FALLBACK" truth? standard.enableFallback }

/-- The settings that variables give. -/
def ofVariables (vars : Variables) : Except WordError Settings := do
  let provider ← providerOf vars
  return {
    server := {
      host := (vars.get? "HOST").getD "0.0.0.0"
      port := readAs vars "PORT" (natural? 16) 3002
      environment := (vars.get? "ENVIRONMENT").getD "development" }
    catalogue := {
      path := (vars.get? "THREAT_DB_PATH").getD "./threatdb"
      filterByResourceType := readAs vars "FILTER_BY_RESOURCE_TYPE" truth? true }
    model := modelSettings vars provider
    cache := {
      maxSize := readAs vars "CACHE_MAX_SIZE" (natural? 64) 1000
      ttlSecs := readAs vars "CACHE_TTL_SECS" (natural? 64) 3600 }
    logLevel := (vars.get? "LOG_LEVEL").getD "info" }

/-- The files of variables in the order in which they are read. -/
def envFiles : List String := [".env.local", ".env"]

/-- The variables of the environment and of the files of variables in a directory. -/
def variablesIn (tree : FileTree) (environment : Variables) : Variables :=
  envFiles.foldl
    (fun vars name =>
      match tree.at? [name] with
      | some (.file bytes) => EnvFile.load vars bytes
      | _ => vars)
    environment

end Settings

end CloudThreat
