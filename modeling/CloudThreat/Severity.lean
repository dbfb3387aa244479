import CloudThreat.DecimalNumeral
import CloudThreat.JsonReading

namespace CloudThreat

inductive Severity where
  | critical
  | high
  | medium
  | low
  | info
deriving Repr, DecidableEq

namespace Severity

def text : Severity → String
  | critical => "critical"
  | high => "high"
  | medium => "medium"
  | low => "low"
  | info => "info"

def score : Severity → Nat
  | critical => 10
  | high => 7
  | medium => 5
  | low => 3
  | info => 1

def words : List (String × Severity) :=
  [("critical", critical), ("high", high), ("medium", medium), ("low", low), ("info", info)]

def ofText : String → Except WordError Severity :=
  Vocabulary.find "Invalid severity" words

def read : Reader Severity := Reader.word ofText

end Severity

inductive Likelihood where
  | certain
  | likely
  | possible
  | unlikely
  | rare
deriving Repr, DecidableEq

namespace Likelihood

def text : Likelihood → String
  | certain => "certain"
  | likely => "likely"
  | possible => "possible"
  | unlikely => "unlikely"
  | rare => "rare"

/-- The score in tenths. -/
def tenths : Likelihood → Nat
  | certain => 10
  | likely => 8
  | possible => 5
  | unlikely => 3
  | rare => 1

def score (l : Likelihood) : Double :=
  DecimalNumeral.toDouble ⟨false, l.tenths, -1⟩

def words : List (String × Likelihood) :=
  [("certain", certain), ("likely", likely), ("possible", possible), ("unlikely", unlikely),
    ("rare", rare)]

def ofText : String → Except WordError Likelihood :=
  Vocabulary.find "Invalid likelihood" words

def read : Reader Likelihood := Reader.word ofText

end Likelihood

/-- The product of both scores as a double. -/
def riskScore (s : Severity) (l : Likelihood) : Double :=
  .ofNat s.score * l.score

end CloudThreat
