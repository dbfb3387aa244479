import CloudThreat.JsonPrinter
import CloudThreat.Quoted
import CloudThreat.Vocabulary

namespace CloudThreat

inductive ReadError where
  | wrongType (found : Json) (wanted : String)
  | outOfRange (found : Int) (wanted : String)
  | missingField (name : String)
  | repeatedField (name : String)
  | tooFewItems (count : Nat) (wanted : String)
  | tooManyItems (count : Nat)
  | unknownVariant (found : String) (known : List String)
  | notOneField
  | badWord (error : WordError)
deriving Repr, Inhabited

namespace ReadError

def ticked (s : String) : String := "`" ++ s ++ "`"

/-- How a message names the value that was found. -/
def foundText : Json → String
  | .null => "null"
  | .bool b => "boolean " ++ ticked (if b then "true" else "false")
  | .num (.int i) => "integer " ++ ticked (toString i)
  | .num (.float x) => "floating point " ++ ticked (Json.numberText (.float x))
  | .str s => "string " ++ Quoted.quote s
  | .arr _ => "sequence"
  | .obj _ => "map"

/-- The choice between names: two are joined by `or`, more are listed. -/
def choiceText : List String → String
  | [] => "there are no variants"
  | [a] => "expected " ++ ticked a
  | [a, b] => "expected " ++ ticked a ++ " or " ++ ticked b
  | names => "expected one of " ++ ", ".intercalate (names.map ticked)

def message : ReadError → String
  | wrongType found wanted => "invalid type: " ++ foundText found ++ ", expected " ++ wanted
  | outOfRange found wanted =>
    "invalid value: integer " ++ ticked (toString found) ++ ", expected " ++ wanted
  | missingField name => "missing field " ++ ticked name
  | repeatedField name => "duplicate field " ++ ticked name
  | tooFewItems count wanted => "invalid length " ++ toString count ++ ", expected " ++ wanted
  | tooManyItems count =>
    "invalid length " ++ toString count ++ ", expected fewer elements in array"
  | unknownVariant found known => "unknown variant " ++ ticked found ++ ", " ++ choiceText known
  | notOneField => "invalid value: map, expected map with a single key"
  | badWord e => e.message

end ReadError

/-- A way to read values of a type. -/
abbrev Reader (α : Type) := Json → Except ReadError α

namespace Reader

def text : Reader String
  | .str s => .ok s
  | j => .error (.wrongType j "a string")

def boolean : Reader Bool
  | .bool b => .ok b
  | j => .error (.wrongType j "a boolean")

def anything : Reader Json := .ok

/-- A whole number from zero up to `bound`; `wanted` names its type in messages. -/
def natural (bound : Nat) (wanted : String) : Reader Nat
  | .num (.int i) =>
    if 0 ≤ i && i ≤ (bound : Int) then .ok i.toNat else .error (.outOfRange i wanted)
  | j => .error (.wrongType j wanted)

def double : Reader Double
  | .num n => .ok n.toDouble
  | j => .error (.wrongType j "f64")

/-- A null is no value. -/
def nullable {α : Type} (read : Reader α) : Reader (Option α)
  | .null => .ok none
  | j => (read j).map some

def list {α : Type} (read : Reader α) : Reader (List α)
  | .arr items => items.mapM read
  | j => .error (.wrongType j "a sequence")

/-- A text that a function accepts. -/
def word {α : Type} (parse : String → Except WordError α) : Reader α := fun j =>
  match text j with
  | .ok s => (parse s).mapError .badWord
  | .error e => .error e

/-- One of a list of names, alone or as the only key of an object with the value null. -/
def variant {α : Type} (known : List (String × α)) : Reader α := fun j =>
  let find (name : String) : Except ReadError α :=
    match known.lookup name with
    | some a => .ok a
    | none => .error (.unknownVariant name (known.map (·.1)))
  match j with
  | .str name => find name
  | .obj [(name, value)] =>
    match find name with
    | .ok a => if value.isNull then .ok a else .error (.wrongType value "unit")
    | .error e => .error e
  | .obj _ => .error .notOneField
  | j => .error (.wrongType j "string or map")

end Reader

/-- What reading some fields of an object gives. -/
inductive FieldsResult (α : Type) where
  | value (a : α)
  | invalid (key : String) (error : ReadError)
  | missing (name : String)

namespace FieldsResult

variable {α β : Type}

/-- The wrong value with the smaller key wins; missing fields come after wrong values, the earlier
declared first. -/
def seq : FieldsResult (α → β) → FieldsResult α → FieldsResult β
  | invalid k e, invalid k' e' => if k' < k then invalid k' e' else invalid k e
  | invalid k e, _ => invalid k e
  | _, invalid k e => invalid k e
  | missing name, _ => missing name
  | value _, missing name => missing name
  | value f, value a => value (f a)

end FieldsResult

/-- A way to read several fields of a record, in their order. -/
structure Fields (α : Type) where
  count : Nat
  /-- Read the fields of an object. -/
  ofObject : JsonObject → FieldsResult α
  /-- Read items of a list in turn, from a position on; nothing tells that the list ended there. -/
  ofItems : Nat → List Json → Except (ReadError ⊕ Nat) (α × List Json)

namespace Fields

variable {α β : Type}

instance : Pure Fields where
  pure a := ⟨0, fun _ => .value a, fun _ items => .ok (a, items)⟩

instance : Seq Fields where
  seq f x :=
    let x := x ()
    ⟨f.count + x.count,
      fun o => (f.ofObject o).seq (x.ofObject o),
      fun i items =>
        match f.ofItems i items with
        | .error e => .error e
        | .ok (g, rest) =>
          match x.ofItems (i + f.count) rest with
          | .error e => .error e
          | .ok (a, rest) => .ok (g a, rest)⟩

instance : Functor Fields where
  map f x :=
    ⟨x.count,
      fun o =>
        match x.ofObject o with
        | .value a => .value (f a)
        | .invalid k e => .invalid k e
        | .missing name => .missing name,
      fun i items =>
        match x.ofItems i items with
        | .ok (a, rest) => .ok (f a, rest)
        | .error e => .error e⟩

/-- Read the values found under the names of one field, in order of keys; a second one is refused
before it is looked at. -/
def found (name : String) (read : Reader α) (absent : Option α) :
    List (String × Json) → FieldsResult α
  | [] =>
    match absent with
    | some a => .value a
    | none => .missing name
  | [(key, j)] =>
    match read j with
    | .ok a => .value a
    | .error e => .invalid key e
  | (key, j) :: (key', _) :: _ =>
    match read j with
    | .ok _ => .invalid key' (.repeatedField name)
    | .error e => .invalid key e

/-- A field under any of several names, the first of which messages use. `absent` stands for it in
an object without it, `past` in a list that is too short for it. -/
def field (names : List String) (read : Reader α) (absent past : Option α) : Fields α :=
  ⟨1,
    fun o => found (names.headD "") read absent (o.filter fun f => names.contains f.1),
    fun i items =>
      match items with
      | j :: rest =>
        match read j with
        | .ok a => .ok (a, rest)
        | .error e => .error (.inl e)
      | [] =>
        match past with
        | some a => .ok (a, [])
        | none => .error (.inr i)⟩

def required (name : String) (read : Reader α) : Fields α :=
  field [name] read none none

/-- A field that may be missing from an object or be null. -/
def optional (name : String) (read : Reader α) : Fields (Option α) :=
  field [name] (.nullable read) (some none) none

def withDefault (name : String) (read : Reader α) (value : α) : Fields α :=
  field [name] read (some value) (some value)

/-- Read a record, from an object or from a list; `title` names it in messages. -/
def read (title : String) (fields : Fields α) : Reader α := fun j =>
  match j with
  | .obj o =>
    match fields.ofObject o with
    | .value a => .ok a
    | .invalid _ e => .error e
    | .missing name => .error (.missingField name)
  | .arr items =>
    match fields.ofItems 0 items with
    | .ok (a, []) => .ok a
    | .ok (_, _ :: _) => .error (.tooManyItems items.length)
    | .error (.inl e) => .error e
    | .error (.inr i) =>
      .error (.tooFewItems i (title ++ " with " ++ toString fields.count ++ " elements"))
  | j => .error (.wrongType j title)

end Fields

end CloudThreat
