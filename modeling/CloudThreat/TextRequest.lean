import CloudThreat.ModelProvider

namespace CloudThreat

/-- A prompt with what may be said about the answer; what is left open is up to the generator. -/
structure TextRequest where
  prompt : String
  systemPrompt : Option String
  maxTokens : Option Nat
  temperature : Option Double
deriving Repr, DecidableEq

inductive GenerationError where
  | notConfigured (provider : ModelProvider)
  | rateLimited (provider : ModelProvider)
  | timedOut (provider : ModelProvider)
  | api (provider : ModelProvider) (reason : String)
  | allFailed (primary fallback : GenerationError)
deriving Repr, DecidableEq, Inhabited

namespace GenerationError

def message : GenerationError → String
  | notConfigured p => p.text ++ " API key not configured"
  | rateLimited p => p.text ++ " rate limit exceeded"
  | timedOut p => p.text ++ " request timed out"
  | api p reason => p.text ++ " API error: " ++ reason
  | allFailed primary fallback =>
    "all providers failed. Primary: " ++ primary.message ++ ", Fallback: " ++ fallback.message

/-- May the same request succeed a little later? -/
def isTransient : GenerationError → Bool
  | rateLimited _ => true
  | timedOut _ => true
  | _ => false

end GenerationError

/-- How a call for a text breaks off: with an error that its caller is told, or with a sum that
overflows, which nobody on the way handles and which ends all that waits for the call. -/
inductive GenerationFailure where
  | told (e : GenerationError)
  | overflow
deriving Repr, DecidableEq

namespace GenerationFailure

def isTransient : GenerationFailure → Bool
  | told e => e.isTransient
  | overflow => false

/-- The failure of a provider that was to stand in for another one, with the error of that one. -/
def afterError (first : GenerationError) : GenerationFailure → GenerationFailure
  | told second => told (.allFailed first second)
  | overflow => overflow

end GenerationFailure

/-- What generates text: it may change with every request. -/
abbrev TextGenerator (σ : Type) :=
  TextRequest → σ → Except GenerationFailure String × σ

end CloudThreat
