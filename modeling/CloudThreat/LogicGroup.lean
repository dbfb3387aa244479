import CloudThreat.Condition

namespace CloudThreat

inductive Logic where
  | all
  | any
deriving Repr, DecidableEq

namespace Logic

def text : Logic → String
  | all => "and"
  | any => "or"

def words : List (String × Logic) := [("and", all), ("or", any)]

def ofText : String → Except WordError Logic :=
  Vocabulary.find "Invalid logic operator" words

def read : Reader Logic := Reader.word ofText

end Logic

structure LogicGroup where
  logic : Logic
  conditions : List Condition
  groups : List LogicGroup
deriving Repr

namespace LogicGroup

/-- A group with no parts. -/
def empty : LogicGroup := ⟨.all, [], []⟩

instance : Inhabited LogicGroup := ⟨empty⟩

def isEmpty (g : LogicGroup) : Bool :=
  g.conditions.isEmpty && g.groups.isEmpty

mutual

/-- The outcome of a group, and the trail with the text of every condition that held added to its
end. Every part is evaluated, whatever the others gave; a group without parts does not hold. -/
def evaluate (document : Json) (trail : List String) : LogicGroup → Bool × List String
  | ⟨logic, conditions, groups⟩ =>
    let outcomes := conditions.map (·.holds document)
    let held := (conditions.filter (·.holds document)).map Condition.text
    let (nested, trail) := evaluateAll document (trail ++ held) groups
    let all := outcomes ++ nested
    match logic with
    | .all => (!all.isEmpty && all.all id, trail)
    | .any => (all.any id, trail)

def evaluateAll (document : Json) (trail : List String) :
    List LogicGroup → List Bool × List String
  | [] => ([], trail)
  | g :: rest =>
    let (outcome, trail) := evaluate document trail g
    let (outcomes, trail) := evaluateAll document trail rest
    (outcome :: outcomes, trail)

end

mutual

def toJson : LogicGroup → Json
  | ⟨logic, conditions, groups⟩ =>
    Json.object [
      ("logic", .str logic.text),
      ("conditions", .arr (conditions.map Condition.toJson)),
      ("groups", .arr (toJsons groups))]

def toJsons : List LogicGroup → List Json
  | [] => []
  | g :: rest => g.toJson :: toJsons rest

end

/-- The fields of a group whose own groups are read by `nested`. -/
def fields (nested : Reader LogicGroup) : Fields LogicGroup :=
  LogicGroup.mk
    <$> .withDefault "logic" Logic.read .all
    <*> .withDefault "conditions" (Reader.list Condition.read) []
    <*> .withDefault "groups" (Reader.list nested) []

/-- Groups nested to a given depth. -/
def readTo : Nat → Reader LogicGroup
  | 0 => fun j => .error (.wrongType j "struct LogicGroup")
  | depth + 1 => (fields (readTo depth)).read "struct LogicGroup"

/-- No group nests deeper than the value it is read from. -/
def read : Reader LogicGroup := fun j => readTo (j.depth + 1) j

end LogicGroup

end CloudThreat
