import CloudThreat.Api
import CloudThreat.CatalogueLoading

namespace CloudThreat.Service

/-- The names of the variables that are looked for in the environment. -/
def variableNames : List String := [
  "HOST", "PORT", "ENVIRONMENT", "THREAT_DB_PATH", "FILTER_BY_RESOURCE_TYPE", "LLM_PROVIDER",
  "LLM_MODEL", "ANTHROPIC_API_KEY", "OPENAI_API_KEY", "ANTHROPIC_BASE_URL", "OPENAI_BASE_URL",
  "MAX_TOKENS", "TEMPERATURE", "LLM_TIMEOUT_SECS", "LLM_MAX_RETRIES", "LLM_RETRY_BASE_MS",
  "LLM_ENABLE_FALLBACK", "CACHE_MAX_SIZE", "CACHE_TTL_SECS", "LOG_LEVEL"]

/-- Connections that are never made. -/
def unreachable : Transport Unit where
  refusal? := fun _ => none
  send := fun _ wire => (.lost "error sending request", wire)

def requestFields : Fields ApiRequest :=
  (fun method uri contentType body =>
      ⟨method, uri, contentType, (body.map Json.compact).getD ""⟩)
    <$> .required "method" Reader.text
    <*> .required "uri" Reader.text
    <*> .withDefault "content_type" (Reader.nullable Reader.text) (some "application/json")
    <*> .optional "body" Reader.anything

def responseText (r : ApiResponse) : String :=
  (Json.object [
    ("status", Json.ofNat r.status),
    ("body", (r.body.getD .null))]).compact

/-- Answer one line; the answer is empty if the handling of the request breaks off. -/
def answerLine (now : Nat) (line : String) (s : ApiState) : String × ApiState :=
  match (Json.ofText? line).map (requestFields.read "a request") with
  | some (.ok request) =>
    let (response, s, _) := Api.respond unreachable now request s ()
    (response.elim "" responseText, s)
  | some (.error e) => (responseText (.error 400 e.message), s)
  | none => (responseText .unreadable, s)

def readEnvironment : IO Variables := do
  let values ← variableNames.mapM fun name => do return (name, ← IO.getEnv name)
  return values.filterMap fun v => v.2.map fun value => (v.1, value)

/-- The files under their names. -/
def readFiles (names : List String) : IO FileTree :=
  names.foldlM
    (fun tree (name : String) => do
      try
        let bytes ← IO.FS.readBinFile name
        return tree.put [name] (.file (bytes.toList.map UInt8.toNat))
      catch _ => return tree.put [name] .unreadable)
    []

partial def answerLines (input output : IO.FS.Stream) (s : ApiState) : IO Unit := do
  let line ← input.getLine
  unless line.isEmpty do
    let (response, s) := answerLine (← IO.monoMsNow) line s
    output.putStrLn response
    output.flush
    answerLines input output s

end CloudThreat.Service

open CloudThreat in
/-- Answers requests from one input line each by a line with the status and the body. The arguments
name the files of threats, and no provider of texts is ever reached. -/
def main (names : List String) : IO UInt32 := do
  let vars := Settings.variablesIn (← Service.readFiles Settings.envFiles)
    (← Service.readEnvironment)
  match Settings.ofVariables vars with
  | .error e =>
    IO.eprintln ("Failed to load configuration: " ++ e.message)
    return 1
  | .ok settings =>
    let catalogue := (Catalogue.load? (← Service.readFiles names) []).getD (.ofThreats [])
    Service.answerLines (← IO.getStdin) (← IO.getStdout) (.new settings catalogue)
    return 0
