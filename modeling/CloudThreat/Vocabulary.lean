import CloudThreat.Blank
import CloudThreat.LetterCase

namespace CloudThreat

/-- A text that is none of the words of a vocabulary. -/
structure WordError where
  complaint : String
  word : String
deriving Repr, DecidableEq

namespace WordError

def message (e : WordError) : String :=
  e.complaint ++ ": " ++ e.word

end WordError

namespace Vocabulary

/-- A text as it is compared with the words. -/
def simplified (s : String) : String :=
  LetterCase.lower (Blank.trim s)

/-- What the word stands for. -/
def find {α : Type} (complaint : String) (words : List (String × α)) (s : String) :
    Except WordError α :=
  match words.lookup (simplified s) with
  | some a => .ok a
  | none => .error ⟨complaint, simplified s⟩

end Vocabulary

end CloudThreat
