import CloudThreat.Json
import CloudThreat.WordSize
import CloudThreat.YamlNode

namespace CloudThreat

inductive YamlValue where
  | null
  | bool (value : Bool)
  | int (value : Int)
  | float (value : Double)
  | str (text : String)
  | seq (items : List YamlValue)
  | map (entries : List (YamlValue × YamlValue))
  /-- A value with a tag of its own. -/
  | tagged (tag : String) (value : YamlValue)
deriving Repr, Inhabited

namespace YamlValue

mutual

/-- Are two values the same key? A whole number and a float never are. -/
def same : YamlValue → YamlValue → Bool
  | null, null => true
  | bool a, bool b => a == b
  | int a, int b => a == b
  | float a, float b => a.eq b || (a == .nan && b == .nan)
  | str a, str b => a == b
  | seq xs, seq ys => sameItems xs ys
  | map xs, map ys => xs.length == ys.length && allIn xs ys
  | tagged t x, tagged u y => t == u && same x y
  | _, _ => false

def sameItems : List YamlValue → List YamlValue → Bool
  | [], [] => true
  | x :: xs, y :: ys => same x y && sameItems xs ys
  | _, _ => false

/-- Is each entry among the others, in whatever order? -/
def allIn : List (YamlValue × YamlValue) → List (YamlValue × YamlValue) → Bool
  | [], _ => true
  | (k, v) :: xs, ys => (ys.any fun e => same k e.1 && same v e.2) && allIn xs ys

end

/-- A value without its own tags. -/
def untagged : YamlValue → YamlValue
  | tagged _ v => untagged v
  | v => v

end YamlValue

namespace YamlNode

def isNullWord (s : String) : Bool :=
  s = "null" || s = "Null" || s = "NULL" || s = "~"

def boolWord? (s : String) : Option Bool :=
  if s = "true" || s = "True" || s = "TRUE" then some true
  else if s = "false" || s = "False" || s = "FALSE" then some false
  else none

def digitValue? (c : Char) : Option Nat :=
  if c.isDigit then some (c.toNat - '0'.toNat)
  else if 'a' ≤ c && c ≤ 'z' then some (c.toNat - 'a'.toNat + 10)
  else if 'A' ≤ c && c ≤ 'Z' then some (c.toNat - 'A'.toNat + 10)
  else none

/-- One or more digits of a base. -/
def digits? (base : Nat) (cs : List Char) : Option Nat :=
  if cs.isEmpty then none
  else
    cs.foldlM
      (fun n c =>
        match digitValue? c with
        | some d => if d < base then some (base * n + d) else none
        | none => none)
      0

/-- The base that a number begins with, and the rest. -/
def basePart : List Char → Nat × List Char
  | '0' :: 'x' :: rest => (16, rest)
  | '0' :: 'o' :: rest => (8, rest)
  | '0' :: 'b' :: rest => (2, rest)
  | cs => (10, cs)

/-- Digits after a zero, which make no number. -/
def isZeroPadded (cs : List Char) : Bool :=
  match (DecimalNumeral.splitSign cs).2 with
  | '0' :: rest => !rest.isEmpty && rest.all Char.isDigit
  | _ => false

/-- A whole number: an optional sign and digits, in base ten or after `0x`, `0o` or `0b`. -/
def int? (s : String) : Option Int :=
  let (negative, cs) := DecimalNumeral.splitSign s.toList
  let (base, ds) := basePart cs
  if base = 10 && isZeroPadded cs then none
  else
    (digits? base ds).map fun n => if negative then -(n : Int) else n

/-- A float: a decimal numeral in range, or one of the words for infinity and for no number. -/
def float? (s : String) : Option Double :=
  let (negative, cs) := DecimalNumeral.splitSign s.toList
  let word := String.ofList cs
  if word = ".inf" || word = ".Inf" || word = ".INF" then some (.infinite negative)
  else if s = ".nan" || s = ".NaN" || s = ".NAN" then some .nan
  else
    match (DecimalNumeral.unsigned? negative cs).map DecimalNumeral.toDouble with
    | some x => if x.isFinite then some x else none
    | none => none

/-- A whole number that fits into 64 bits. One that takes up to 128 bits is refused, so the outer
value tells whether it is a whole number at all. -/
def sizedInt? (s : String) : Option (Option Int) :=
  match int? s with
  | none => none
  | some n =>
    if WordSize.isSigned 64 n || WordSize.isUnsigned 64 n then some (some n)
    else if WordSize.isSigned 128 n || WordSize.isUnsigned 128 n then some none
    else none

/-- What a plain scalar without a tag means. -/
def plainValue (s : String) : Option YamlValue :=
  if s.isEmpty || isNullWord s then some .null
  else
    match boolWord? s with
    | some b => some (.bool b)
    | none =>
      match sizedInt? s with
      | some n => n.map .int
      | none =>
        if isZeroPadded s.toList then some (.str s)
        else
          match float? s with
          | some x => some (.float x)
          | none => some (.str s)

def coreTag (name : String) : String :=
  "tag:yaml.org,2002:" ++ name

/-- What a scalar means under its tag. -/
def scalarValue (tag : Option String) (plain : Bool) (s : String) : Option YamlValue :=
  match tag with
  | none => if plain then plainValue s else some (.str s)
  | some tag =>
    if tag = coreTag "bool" then (boolWord? s).map .bool
    else if tag = coreTag "int" then (sizedInt? s).bind fun n => n.map .int
    else if tag = coreTag "float" then (float? s).map .float
    else if tag = coreTag "null" then if isNullWord s then some .null else none
    else if tag = "!" && plain then plainValue s
    else some (.str s)

/-- The name of a tag of one's own. -/
def ownTag? (tag : Option String) : Option String :=
  match tag.map String.toList with
  | some ('!' :: c :: rest) => some (String.ofList (c :: rest))
  | _ => none

mutual

/-- All anchored nodes, in the order of the text. -/
def anchored : YamlNode → List (Nat × YamlNode)
  | aliasOf _ => []
  | scalar props plain text =>
    (props.anchor.map fun a => (a, scalar props plain text)).toList
  | sequence props items =>
    (props.anchor.map fun a => (a, sequence props items)).toList ++ anchoredItems items
  | mapping props entries =>
    (props.anchor.map fun a => (a, mapping props entries)).toList ++ anchoredEntries entries

def anchoredItems : List YamlNode → List (Nat × YamlNode)
  | [] => []
  | n :: rest => n.anchored ++ anchoredItems rest

def anchoredEntries : List (YamlNode × YamlNode) → List (Nat × YamlNode)
  | [] => []
  | (k, v) :: rest => k.anchored ++ v.anchored ++ anchoredEntries rest

end

mutual

/-- How many marks the nodes of a tree leave: two for a collection, one for anything else. -/
def markCount : YamlNode → Nat
  | aliasOf _ => 1
  | scalar _ _ _ => 1
  | sequence _ items => markCountItems items + 2
  | mapping _ entries => markCountEntries entries + 2

def markCountItems : List YamlNode → Nat
  | [] => 0
  | n :: rest => n.markCount + markCountItems rest

def markCountEntries : List (YamlNode × YamlNode) → Nat
  | [] => 0
  | (k, v) :: rest => k.markCount + v.markCount + markCountEntries rest

end

/-- The anchored nodes of a document, and how many aliases may be followed yet. -/
structure Scope where
  targets : List (Nat × YamlNode)
  jumps : Nat

namespace Scope

/-- Of several nodes with one number the last counts. -/
def ofRoot (root : YamlNode) : Scope :=
  ⟨root.anchored.reverse, root.markCount * 100⟩

/-- The node that a node stands for. -/
def follow (s : Scope) : YamlNode → Option (YamlNode × Scope)
  | aliasOf anchor =>
    match s.jumps with
    | 0 => none
    | n + 1 => (s.targets.lookup anchor).map fun target => (target, { s with jumps := n })
  | node => some (node, s)

end Scope

/-- The values of nodes in turn. -/
def valuesOf (value : Scope → YamlNode → Option (YamlValue × Scope)) (s : Scope) :
    List YamlNode → Option (List YamlValue × Scope)
  | [] => some ([], s)
  | n :: rest => do
    let (v, s) ← value s n
    let (vs, s) ← valuesOf value s rest
    some (v :: vs, s)

/-- The entries of a mapping in turn; no key may come twice. -/
def entriesOf (value : Scope → YamlNode → Option (YamlValue × Scope)) (s : Scope)
    (earlier : List YamlValue) :
    List (YamlNode × YamlNode) → Option (List (YamlValue × YamlValue) × Scope)
  | [] => some ([], s)
  | (k, n) :: rest => do
    let (k, s) ← value s k
    if earlier.any (·.same k) then none
    else
      let (v, s) ← value s n
      let (entries, s) ← entriesOf value s (k :: earlier) rest
      some ((k, v) :: entries, s)

/-- The value of a node in which collections nest no deeper than `depth`. -/
def value : Nat → Scope → YamlNode → Option (YamlValue × Scope)
  | 0, s, node => do
    let (node, s) ← s.follow node
    match node with
    | scalar props plain text => tagging props (scalarOf props plain text) s
    | _ => none
  | depth + 1, s, node => do
    let (node, s) ← s.follow node
    match node with
    | aliasOf _ => none
    | scalar props plain text => tagging props (scalarOf props plain text) s
    | sequence props items =>
      let (vs, s) ← valuesOf (value depth) s items
      tagging props (some (.seq vs)) s
    | mapping props entries =>
      let (es, s) ← entriesOf (value depth) s [] entries
      tagging props (some (.map es)) s
where
  /-- The meaning of a scalar below its own tag. -/
  scalarOf (props : YamlProperties) (plain : Bool) (text : String) : Option YamlValue :=
    if (ownTag? props.tag).isSome then scalarValue none plain text
    else scalarValue props.tag plain text
  /-- The value with the tag of one's own put to it. -/
  tagging (props : YamlProperties) (v : Option YamlValue) (s : Scope) :
      Option (YamlValue × Scope) :=
    v.map fun v =>
      match ownTag? props.tag with
      | some tag => (.tagged tag v, s)
      | none => (v, s)

end YamlNode

namespace YamlValue

/-- The entries of a mapping whose keys are all texts; null is a mapping without entries. -/
def fields? (v : YamlValue) : Option (List (String × YamlValue)) :=
  match v.untagged with
  | map entries =>
    entries.mapM fun (k, v) =>
      match k.untagged with
      | str name => some (name, v)
      | _ => none
  | null => some []
  | _ => none

/-- The items of a sequence; null is a sequence without items. -/
def items? (v : YamlValue) : Option (List YamlValue) :=
  match v.untagged with
  | seq items => some items
  | null => some []
  | _ => none

def text? (v : YamlValue) : Option String :=
  match v.untagged with
  | str s => some s
  | _ => none

mutual

/-- The value as JSON: keys are texts, and there are no tags. -/
def toJson? : YamlValue → Option Json
  | null => some .null
  | bool b => some (.bool b)
  | int n => some (.num (.int n))
  | float x => some (Json.ofDouble x)
  | str s => some (.str s)
  | seq items => (itemsToJson? items).map .arr
  | map entries => (entriesToJson? entries).map Json.object
  | tagged _ _ => none

def itemsToJson? : List YamlValue → Option (List Json)
  | [] => some []
  | v :: rest =>
    match v.toJson?, itemsToJson? rest with
    | some j, some js => some (j :: js)
    | _, _ => none

def entriesToJson? : List (YamlValue × YamlValue) → Option (List (String × Json))
  | [] => some []
  | (k, v) :: rest =>
    match k.untagged, v.toJson?, entriesToJson? rest with
    | str name, some j, some fields => some ((name, j) :: fields)
    | _, _, _ => none

end

end YamlValue

end CloudThreat
