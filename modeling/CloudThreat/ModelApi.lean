import CloudThreat.HttpExchange
import CloudThreat.JsonParser
import CloudThreat.Settings
import CloudThreat.TextRequest
import CloudThreat.WordSize

namespace CloudThreat

/-- A generated text and the tokens that the provider counted, in 64 bits. -/
structure Completion where
  text : String
  tokens : UInt64
deriving Repr

namespace ModelApi

def anthropicVersion : String := "2023-06-01"

def userAgent : String := "iac-threat-analyzer"

def defaultModel : ModelProvider → String
  | .claude => "claude-3-5-sonnet-20241022"
  | .openai => "gpt-4o"

/-- The model that is asked for: the settings name one for their own provider only. -/
def modelFor (s : ModelSettings) (p : ModelProvider) : String :=
  match s.model with
  | some model => if p = s.provider then model else defaultModel p
  | none => defaultModel p

/-- An address without slashes at its end. -/
def withoutSlashes (url : String) : String :=
  String.ofList (url.toList.reverse.dropWhile (· = '/')).reverse

def url (s : ModelSettings) : ModelProvider → String
  | .claude => withoutSlashes s.anthropicUrl ++ "/v1/messages"
  | .openai => withoutSlashes s.openaiUrl ++ "/v1/chat/completions"

/-- The header in which a provider expects the key. -/
def keyHeader (p : ModelProvider) (key : String) : String × String :=
  match p with
  | .claude => ("x-api-key", key)
  | .openai => ("authorization", "Bearer " ++ key)

def versionHeader : ModelProvider → List (String × String)
  | .claude => [("anthropic-version", anthropicVersion)]
  | .openai => []

def message (role content : String) : Json :=
  Json.object [("role", .str role), ("content", .str content)]

/-- The role of the model stands beside the messages or is the first of them. -/
def conversation (p : ModelProvider) (r : TextRequest) : List (String × Json) :=
  let user := message "user" r.prompt
  match p with
  | .claude =>
    ("messages", .arr [user]) :: (r.systemPrompt.map fun s => ("system", Json.str s)).toList
  | .openai => [("messages", .arr ((r.systemPrompt.map (message "system")).toList ++ [user]))]

def body (s : ModelSettings) (p : ModelProvider) (r : TextRequest) : Json :=
  Json.object ([
    ("model", .str (modelFor s p)),
    ("max_tokens", Json.ofNat (r.maxTokens.getD s.maxTokens)),
    ("temperature", Json.ofDouble (r.temperature.getD s.temperature))] ++ conversation p r)

/-- The request to a provider, or why there is none: its address is refused, or no header can carry
the key. -/
def request (refusal? : String → Option AddressRefusal) (s : ModelSettings) (p : ModelProvider)
    (key : String) (r : TextRequest) : Except String HttpRequest :=
  let (name, value) := keyHeader p key
  match refusal? (url s p), Http.headerValue? value with
  | some (.unreadable reason), _ => .error reason
  | _, none => .error "builder error: failed to parse header value"
  | some (.foreign reason), some _ => .error reason
  | none, some value => .ok
    { method := "POST"
      url := url s p
      headers := (name, value) :: versionHeader p
        ++ [("content-type", "application/json"), ("user-agent", userAgent)]
      body := body s p r }

/-- The value at the end of a way through nested objects. -/
def at? (j : Json) (keys : List String) : Option Json :=
  keys.foldlM (fun j key => j.get? key) j

/-- A count of tokens; whatever is no count is zero. -/
def tokensAt (payload : Json) (keys : List String) : UInt64 :=
  UInt64.ofNat (((at? payload keys).bind Json.nat?).getD 0)

def textOf? (p : ModelProvider) (payload : Json) : Option String :=
  match p with
  | .claude => do
    let blocks ← (← payload.get? "content").items?
    blocks.findSome? fun b => (b.get? "text").bind Json.text?
  | .openai => do
    let choice ← (← (← payload.get? "choices").items?).head?
    (← at? choice ["message", "content"]).text?

def tokens? (p : ModelProvider) (payload : Json) : Option UInt64 :=
  match p with
  | .claude =>
    WordSize.add? (tokensAt payload ["usage", "input_tokens"])
      (tokensAt payload ["usage", "output_tokens"])
  | .openai => some (tokensAt payload ["usage", "total_tokens"])

def noText : ModelProvider → String
  | .claude => "response has no text content"
  | .openai => "response has no message content"

def completion (p : ModelProvider) (payload : Json) : Except GenerationFailure Completion :=
  match textOf? p payload, tokens? p payload with
  | none, _ => .error (.told (.api p (noText p)))
  | some _, none => .error .overflow
  | some text, some tokens => .ok ⟨text, tokens⟩

/-- A text without the mark of byte order that may stand in front. -/
def withoutMark (s : String) : String :=
  match s.toList with
  | '\uFEFF' :: rest => String.ofList rest
  | _ => s

/-- What an answer of a provider amounts to. Of an answer that is no JSON only the kind of the error
is told, without the place and the cause that stand behind it in a message. -/
def read (p : ModelProvider) : HttpOutcome → Except GenerationFailure Completion
  | .lost reason => .error (.told (.api p reason))
  | .late => .error (.told (.timedOut p))
  | .reply status text =>
    let text := if Http.isBodiless status then "" else text
    if status = 429 then .error (.told (.rateLimited p))
    else if status = 408 || status = 504 then .error (.told (.timedOut p))
    else if !Http.isSuccess status then
      .error (.told (.api p ("status " ++ Http.statusText status ++ ": " ++ withoutMark text)))
    else
      match Json.ofText? text with
      | some payload => completion p payload
      | none => .error (.told (.api p "error decoding response body"))

end ModelApi

end CloudThreat
