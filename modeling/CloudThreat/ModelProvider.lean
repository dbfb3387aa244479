import CloudThreat.JsonReading

namespace CloudThreat

inductive ModelProvider where
  | claude
  | openai
deriving Repr, DecidableEq, Inhabited

namespace ModelProvider

def text : ModelProvider → String
  | claude => "claude"
  | openai => "openai"

/-- The one to fall back on. -/
def other : ModelProvider → ModelProvider
  | claude => openai
  | openai => claude

def words : List (String × ModelProvider) :=
  [("claude", claude), ("anthropic", claude), ("openai", openai)]

def ofText : String → Except WordError ModelProvider :=
  Vocabulary.find "Unknown LLM provider" words

def read : Reader ModelProvider :=
  Reader.variant [("claude", claude), ("openai", openai)]

end ModelProvider

end CloudThreat
