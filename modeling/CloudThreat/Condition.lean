import CloudThreat.Blank
import CloudThreat.JsonComparison
import CloudThreat.JsonReading
import CloudThreat.Path
import CloudThreat.Pattern
import CloudThreat.PatternParser

namespace CloudThreat

/-- A word that is no known operator is kept; a condition with it never holds. -/
inductive Operator where
  | equals
  | notEquals
  | isIn
  | notIn
  | contains
  | notContains
  | containsAny
  | mapSuperset
  | substring
  | regex
  | present
  | absent
  | greater
  | less
  | greaterOrEqual
  | lessOrEqual
  | unknown (word : String)
deriving Repr, DecidableEq

namespace Operator

def text : Operator → String
  | equals => "=="
  | notEquals => "!="
  | isIn => "in"
  | notIn => "not_in"
  | contains => "contains"
  | notContains => "not_contains"
  | containsAny => "contains_any"
  | mapSuperset => "map_superset"
  | substring => "substring"
  | regex => "regex"
  | present => "exists"
  | absent => "not_exists"
  | greater => ">"
  | less => "<"
  | greaterOrEqual => ">="
  | lessOrEqual => "<="
  | unknown word => word

def ofText (s : String) : Operator :=
  match s with
  | "==" => equals
  | "!=" => notEquals
  | "in" => isIn
  | "not_in" => notIn
  | "contains" => contains
  | "not_contains" => notContains
  | "contains_any" => containsAny
  | "map_superset" => mapSuperset
  | "substring" => substring
  | "regex" => regex
  | "exists" => present
  | "not_exists" => absent
  | ">" => greater
  | "<" => less
  | ">=" => greaterOrEqual
  | "<=" => lessOrEqual
  | word => unknown word

/-- The operators that have a word of their own. -/
def all : List Operator :=
  [equals, notEquals, isIn, notIn, contains, notContains, containsAny, mapSuperset, substring,
    regex, present, absent, greater, less, greaterOrEqual, lessOrEqual]

theorem ofText_text {op : Operator} (h : op ∈ all) : ofText op.text = op := by
  simp only [all, List.mem_cons, List.not_mem_nil, or_false] at h
  rcases h with h | h | h | h | h | h | h | h | h | h | h | h | h | h | h | h <;>
    subst h <;> rfl

def read : Reader Operator := fun j => (Reader.text j).map ofText

end Operator

structure Condition where
  field : String
  operator : Operator
  value : Json
deriving Repr

namespace Condition

def fields : Fields Condition :=
  Condition.mk
    <$> .required "field" Reader.text
    <*> .required "operator" Operator.read
    <*> .withDefault "value" Reader.anything .null

def read : Reader Condition :=
  fields.read "struct Condition"

def toJson (c : Condition) : Json :=
  Json.object [("field", .str c.field), ("operator", .str c.operator.text), ("value", c.value)]

/-- A condition as it is shown to a reader. -/
def text (c : Condition) : String :=
  c.field ++ " " ++ c.operator.text ++ " " ++ c.value.display

/-- The number that a value stands for in comparisons by size. -/
def number? : Json → Option Double
  | .num n => some n.toDouble
  | .str s => Double.ofText? (Blank.trim s)
  | .bool b => some (if b then .ofNat 1 else .ofNat 0)
  | _ => none

/-- An absent value and a null are the same to equality. -/
def foundOrNull (found : Option Json) : Json :=
  found.getD .null

def isIn (found : Option Json) (expected : Json) : Bool :=
  match expected with
  | .arr items => items.any (foundOrNull found).equal
  | _ => false

/-- Does one of the items equal the expected value or, if that is an object, contain it? -/
def anyItem (items : List Json) (expected : Json) : Bool :=
  if expected.isObject then
    items.any fun item =>
      match item with
      | .obj fields => Json.contains fields expected
      | _ => false
  else
    items.any (·.equal expected)

def isSubstring (text : String) (expected : Json) : Bool :=
  isPart expected.display.toList text.toList

def contains (found : Option Json) (expected : Json) : Bool :=
  match found with
  | some (.arr items) => anyItem items expected
  | some (.obj fields) => Json.contains fields expected
  | some (.str s) => isSubstring s expected
  | _ => false

def matchesPattern (found : Option Json) (pattern : Json) : Bool :=
  match found, pattern with
  | some value, .str p => Pattern.matchesStart p value.display
  | _, _ => false

def compare (holds : Double → Double → Bool) (found : Option Json) (expected : Json) : Bool :=
  match found.bind number?, number? expected with
  | some a, some b => holds a b
  | _, _ => false

/-- Does the operator hold between the value found, if any, and the expected one? -/
def test (op : Operator) (found : Option Json) (expected : Json) : Bool :=
  match op with
  | .equals => (foundOrNull found).equal expected
  | .notEquals => !(foundOrNull found).equal expected
  | .isIn => isIn found expected
  | .notIn => !expected.isArray || !isIn found expected
  | .contains => contains found expected
  | .notContains => !contains found expected
  | .containsAny =>
    match found with
    | some (.arr items) => anyItem items expected
    | _ => false
  | .mapSuperset =>
    match found with
    | some (.obj fields) => Json.contains fields expected
    | _ => false
  | .substring =>
    match found with
    | some (.str s) => isSubstring s expected
    | _ => false
  | .regex => matchesPattern found expected
  | .present => found.isSome
  | .absent => found.isNone
  | .greater => compare (fun a b => b.lt a) found expected
  | .less => compare Double.lt found expected
  | .greaterOrEqual => compare (fun a b => b.le a) found expected
  | .lessOrEqual => compare Double.le found expected
  | .unknown _ => false

def holds (c : Condition) (document : Json) : Bool :=
  test c.operator (Path.resolve document c.field) c.value

end Condition

end CloudThreat
