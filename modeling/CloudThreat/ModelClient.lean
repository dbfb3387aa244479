import CloudThreat.ModelApi
import CloudThreat.Tally

namespace CloudThreat

structure LogEntry where
  requestId : Nat
  provider : ModelProvider
  model : String
  /-- Lengths are in bytes. -/
  promptLength : Nat
  replyLength : Nat
  tokens : UInt64
deriving Repr, DecidableEq

namespace LogEntry

def toJson (e : LogEntry) : Json :=
  Json.object [
    ("request_id", Json.ofNat e.requestId),
    ("provider", .str e.provider.text),
    ("model", .str e.model),
    ("prompt_length", Json.ofNat e.promptLength),
    ("response_length", Json.ofNat e.replyLength),
    ("tokens", Json.ofNat e.tokens.toNat)]

end LogEntry

structure ClientStatistics where
  totalRequests : Nat
  activeRequests : Nat
  totalTokens : UInt64
  averageTokens : Double
  providers : Tally
deriving Repr

namespace ClientStatistics

def toJson (s : ClientStatistics) : Json :=
  Json.object [
    ("total_requests", Json.ofNat s.totalRequests),
    ("active_requests", Json.ofNat s.activeRequests),
    ("total_tokens", Json.ofNat s.totalTokens.toNat),
    ("average_tokens", Json.ofDouble s.averageTokens),
    ("provider_distribution", s.providers.toJson)]

end ClientStatistics

structure ModelClient where
  settings : ModelSettings
  requestCount : Nat
  activeRequests : Nat
  log : List LogEntry
deriving Repr

namespace ModelClient

def new (settings : ModelSettings) : ModelClient :=
  ⟨settings, 0, 0, []⟩

def maxLogSize : Nat := 1000

/-- Add an entry; the log keeps the last ones. -/
def record (c : ModelClient) (e : LogEntry) : ModelClient :=
  let log := c.log ++ [e]
  { c with log := log.drop (log.length - maxLogSize) }

/-- The client once an attempt has started. -/
def started (c : ModelClient) : ModelClient :=
  { c with requestCount := c.requestCount + 1, activeRequests := c.activeRequests + 1 }

/-- The client once an attempt has come to its end. -/
def finished (c : ModelClient) : ModelClient :=
  { c with activeRequests := c.activeRequests - 1 }

/-- There are none if the sum of the tokens overflows. -/
def statistics? (c : ModelClient) : Option ClientStatistics :=
  (WordSize.sum? (c.log.map (·.tokens))).map fun total =>
    { totalRequests := c.log.length
      activeRequests := c.activeRequests
      totalTokens := total
      averageTokens :=
        if c.log.isEmpty then Double.zero
        else Double.ofNat total.toNat / Double.ofNat c.log.length
      providers := c.log.foldl (fun t e => t.add e.provider.text) [] }

end ModelClient

/-- A client and what carries its requests. -/
structure ModelSession (σ : Type) where
  client : ModelClient
  wire : σ

namespace ModelSession

variable {σ : Type}

/-- Send one request to a provider. -/
def exchange (http : Transport σ) (p : ModelProvider) (key : String) (r : TextRequest)
    (s : ModelSession σ) : Except GenerationFailure Completion × ModelSession σ :=
  match ModelApi.request http.refusal? s.client.settings p key r with
  | .error reason => (.error (.told (.api p reason)), s)
  | .ok request =>
    let (outcome, wire) := http.send request s.wire
    (ModelApi.read p outcome, { s with wire })

/-- Ask a provider once; without a key for it nothing is sent. An attempt that an overflow breaks
off never comes to its end. -/
def callOnce (http : Transport σ) (p : ModelProvider) (r : TextRequest) (s : ModelSession σ) :
    Except GenerationFailure String × ModelSession σ :=
  match s.client.settings.key? p with
  | none => (.error (.told (.notConfigured p)), s)
  | some key =>
    let client := s.client.started
    let (result, s) := exchange http p key r { s with client }
    match result with
    | .error .overflow => (.error .overflow, s)
    | .error (.told e) => (.error (.told e), { s with client := s.client.finished })
    | .ok c =>
      let entry : LogEntry :=
        { requestId := client.requestCount
          provider := p
          model := ModelApi.modelFor client.settings p
          promptLength := r.prompt.utf8ByteSize
          replyLength := c.text.utf8ByteSize
          tokens := c.tokens }
      (.ok c.text, { s with client := s.client.finished.record entry })

/-- Ask a provider, and again up to the given number of times while the failure may pass. -/
def callAgain (http : Transport σ) (p : ModelProvider) (r : TextRequest) :
    Nat → ModelSession σ → Except GenerationFailure String × ModelSession σ
  | 0, s => callOnce http p r s
  | again + 1, s =>
    match callOnce http p r s with
    | (.error e, s) => if e.isTransient then callAgain http p r again s else (.error e, s)
    | (.ok text, s) => (.ok text, s)

/-- Ask a provider as often as the settings allow, once at least. -/
def callProvider (http : Transport σ) (p : ModelProvider) (r : TextRequest) (s : ModelSession σ) :
    Except GenerationFailure String × ModelSession σ :=
  callAgain http p r (s.client.settings.maxRetries - 1) s

/-- Ask the provider of the settings, then the other one if they allow it. -/
def generate (http : Transport σ) : TextGenerator (ModelSession σ) := fun r s =>
  let primary := s.client.settings.provider
  match callProvider http primary r s with
  | (.error (.told first), s) =>
    if s.client.settings.enableFallback then
      let (result, s) := callProvider http primary.other r s
      (result.mapError (.afterError first), s)
    else (.error (.told first), s)
  | (.error .overflow, s) => (.error .overflow, s)
  | (.ok text, s) => (.ok text, s)

end ModelSession

end CloudThreat
