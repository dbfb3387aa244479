import CloudThreat.ShortestDecimal

namespace CloudThreat

/-- A number is a whole number, or a double when it was written with a point or an exponent or
lies outside the 64-bit integers. -/
inductive JsonNumber where
  | int (value : Int)
  | float (value : Double)
deriving Repr, DecidableEq, Inhabited

namespace JsonNumber

def toDouble : JsonNumber → Double
  | int i => .ofInt i
  | float x => x

/-- The number as an unsigned 64-bit integer. -/
def toNat? : JsonNumber → Option Nat
  | int i => if 0 ≤ i then some i.toNat else none
  | float _ => none

end JsonNumber

inductive Json where
  | null
  | bool (value : Bool)
  | num (value : JsonNumber)
  | str (text : String)
  | arr (items : List Json)
  | obj (fields : List (String × Json))
deriving Repr, Inhabited

/-- A JSON object: its fields in ascending order of keys. -/
abbrev JsonObject := List (String × Json)

namespace JsonObject

/-- Put a field in its place, over an earlier one with the same key. -/
def insert (key : String) (value : Json) : JsonObject → JsonObject
  | [] => [(key, value)]
  | (k, v) :: rest =>
    if key < k then (key, value) :: (k, v) :: rest
    else if k < key then (k, v) :: insert key value rest
    else (key, value) :: rest

/-- The object of a list of fields, the last of several with one key counting. -/
def ofList (fields : List (String × Json)) : JsonObject :=
  fields.foldl (fun o f => insert f.1 f.2 o) []

def find? (o : JsonObject) (key : String) : Option Json :=
  o.lookup key

end JsonObject

namespace Json

def object (fields : List (String × Json)) : Json :=
  .obj (JsonObject.ofList fields)

def ofInt (i : Int) : Json := .num (.int i)

def ofNat (n : Nat) : Json := .num (.int n)

/-- JSON has no infinities and no `nan`: they are written as null. -/
def ofDouble (x : Double) : Json :=
  if x.isFinite then .num (.float x) else .null

def ofOption {α : Type} (f : α → Json) : Option α → Json
  | some a => f a
  | none => .null

def ofList {α : Type} (f : α → Json) (xs : List α) : Json :=
  .arr (xs.map f)

def ofStrings (xs : List String) : Json :=
  .arr (xs.map .str)

/-- The value under a key; nothing for what is not an object. -/
def get? (j : Json) (key : String) : Option Json :=
  match j with
  | .obj fields => JsonObject.find? fields key
  | _ => none

def text? : Json → Option String
  | .str s => some s
  | _ => none

def items? : Json → Option (List Json)
  | .arr items => some items
  | _ => none

def fields? : Json → Option JsonObject
  | .obj fields => some fields
  | _ => none

def nat? : Json → Option Nat
  | .num n => n.toNat?
  | _ => none

def bool? : Json → Option Bool
  | .bool b => some b
  | _ => none

def isNull : Json → Bool
  | .null => true
  | _ => false

def isObject : Json → Bool
  | .obj _ => true
  | _ => false

def isArray : Json → Bool
  | .arr _ => true
  | _ => false

/-- A null counts as no value. -/
def nonNull? : Json → Option Json
  | .null => none
  | j => some j

mutual

/-- The number of levels of a value. -/
def depth : Json → Nat
  | .arr items => depthOfItems items + 1
  | .obj fields => depthOfFields fields + 1
  | _ => 0

def depthOfItems : List Json → Nat
  | [] => 0
  | j :: rest => max j.depth (depthOfItems rest)

def depthOfFields : List (String × Json) → Nat
  | [] => 0
  | (_, j) :: rest => max j.depth (depthOfFields rest)

end

mutual

/-- Every object of the value with its fields in order and the last of repeated ones kept. -/
def canonical : Json → Json
  | .arr items => .arr (canonicalItems items)
  | .obj fields => .obj (JsonObject.ofList (canonicalFields fields))
  | j => j

def canonicalItems : List Json → List Json
  | [] => []
  | j :: rest => j.canonical :: canonicalItems rest

def canonicalFields : List (String × Json) → List (String × Json)
  | [] => []
  | (k, j) :: rest => (k, j.canonical) :: canonicalFields rest

end

end Json

end CloudThreat
