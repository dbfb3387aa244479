import CloudThreat.YamlToken

namespace CloudThreat

structure YamlProperties where
  anchor : Option Nat
  tag : Option String
deriving Repr, DecidableEq

inductive YamlNode where
  | aliasOf (anchor : Nat)
  | scalar (properties : YamlProperties) (plain : Bool) (text : String)
  | sequence (properties : YamlProperties) (items : List YamlNode)
  | mapping (properties : YamlProperties) (entries : List (YamlNode × YamlNode))
deriving Repr, Inhabited

/-- Tokens to come, and the anchors that have names so far. -/
structure YamlReading where
  tokens : List YamlToken
  names : List (String × Nat)

namespace YamlReading

def drop (r : YamlReading) : YamlReading :=
  { r with tokens := r.tokens.drop 1 }

/-- A new anchor is numbered by how many names there are; a name used before means the new one. -/
def define (r : YamlReading) (name : Option String) : Option Nat × YamlReading :=
  match name with
  | none => (none, r)
  | some name =>
    let number := r.names.length
    (some number,
      { r with names := (name, number) :: r.names.filter fun n => n.1 != name })

end YamlReading

namespace YamlNode

/-- A node that is not written. -/
def empty : YamlNode := scalar ⟨none, none⟩ true ""

/-- The anchor and the tag in front of a node, in either order. -/
def properties (tokens : List YamlToken) :
    Option String × Option (String × String) × List YamlToken :=
  match tokens with
  | .anchor name :: .tag handle rest :: tokens => (some name, some (handle, rest), tokens)
  | .tag handle rest :: .anchor name :: tokens => (some name, some (handle, rest), tokens)
  | .anchor name :: tokens => (some name, none, tokens)
  | .tag handle rest :: tokens => (none, some (handle, rest), tokens)
  | tokens => (none, none, tokens)

/-- The whole tag; its handle must be known. -/
def wholeTag (handles : List (String × String)) (tag : Option (String × String)) :
    Option (Option String) :=
  match tag with
  | none => some none
  | some (handle, rest) =>
    if handle.isEmpty then some (some rest)
    else (handles.lookup handle).map fun start => some (start ++ rest)

mutual

/-- A node. Blocks can stand only where `block` says so, and a sequence that is not indented only as
a part of a mapping. -/
def read (handles : List (String × String)) :
    Nat → Bool → Bool → YamlReading → Option (YamlNode × YamlReading)
  | 0, _, _, _ => none
  | fuel + 1, block, indentless, r =>
    match r.tokens with
    | .aliasOf name :: _ => (r.names.lookup name).map fun anchor => (aliasOf anchor, r.drop)
    | tokens =>
      let (name, tag, tokens) := properties tokens
      match wholeTag handles tag with
      | none => none
      | some tag =>
        let (anchor, r) := { r with tokens := tokens : YamlReading }.define name
        let props : YamlProperties := ⟨anchor, tag⟩
        let sequenceOf (s : Option (List YamlNode × YamlReading)) : Option (YamlNode × YamlReading) :=
          s.map fun (items, r) => (sequence props items, r)
        let mappingOf (s : Option (List (YamlNode × YamlNode) × YamlReading)) : Option (YamlNode × YamlReading) :=
          s.map fun (entries, r) => (mapping props entries, r)
        let notWritten : Option (YamlNode × YamlReading) :=
          if name.isSome || tag.isSome then some (scalar props true "", r) else none
        match tokens with
        | .scalar plain text :: _ =>
          let props := if tag = some "!" then { props with tag := none } else props
          some (scalar props plain text, r.drop)
        | .flowSequenceStart :: _ => sequenceOf (flowItems handles fuel true r.drop)
        | .flowMappingStart :: _ => mappingOf (flowEntries handles fuel true r.drop)
        | .blockSequenceStart :: _ =>
          if block then sequenceOf (blockItems handles fuel r.drop) else notWritten
        | .blockMappingStart :: _ =>
          if block then mappingOf (blockEntries handles fuel r.drop) else notWritten
        | .blockEntry :: _ =>
          if indentless then sequenceOf (looseItems handles fuel r) else notWritten
        | _ => notWritten

/-- The items of a sequence in a block of its own, up to the end of the block. -/
def blockItems (handles : List (String × String)) :
    Nat → YamlReading → Option (List YamlNode × YamlReading)
  | 0, _ => none
  | fuel + 1, r =>
    match r.tokens with
    | .blockEnd :: _ => some ([], r.drop)
    | .blockEntry :: rest => do
      let (item, r) ←
        match rest with
        | .blockEntry :: _ | .blockEnd :: _ => some (empty, r.drop)
        | _ => read handles fuel true false r.drop
      let (items, r) ← blockItems handles fuel r
      some (item :: items, r)
    | _ => none

/-- The items of a sequence in the block of a mapping. -/
def looseItems (handles : List (String × String)) :
    Nat → YamlReading → Option (List YamlNode × YamlReading)
  | 0, _ => none
  | fuel + 1, r =>
    match r.tokens with
    | .blockEntry :: rest => do
      let (item, r) ←
        match rest with
        | .blockEntry :: _ | .key :: _ | .value :: _ | .blockEnd :: _ => some (empty, r.drop)
        | _ => read handles fuel true false r.drop
      let (items, r) ← looseItems handles fuel r
      some (item :: items, r)
    | _ => some ([], r)

/-- The entries of a mapping in a block, each with a key, a value or both. -/
def blockEntries (handles : List (String × String)) :
    Nat → YamlReading → Option (List (YamlNode × YamlNode) × YamlReading)
  | 0, _ => none
  | fuel + 1, r =>
    match r.tokens with
    | .blockEnd :: _ => some ([], r.drop)
    | .key :: rest => do
      let (key, r) ←
        match rest with
        | .key :: _ | .value :: _ | .blockEnd :: _ => some (empty, r.drop)
        | _ => read handles fuel true true r.drop
      let (value, r) ← blockValue handles fuel r
      let (entries, r) ← blockEntries handles fuel r
      some ((key, value) :: entries, r)
    | _ => none

/-- The value of an entry in a block, if it has one. -/
def blockValue (handles : List (String × String)) :
    Nat → YamlReading → Option (YamlNode × YamlReading)
  | 0, _ => none
  | fuel + 1, r =>
    match r.tokens with
    | .value :: rest =>
      match rest with
      | .key :: _ | .value :: _ | .blockEnd :: _ => some (empty, r.drop)
      | _ => read handles fuel true true r.drop
    | _ => some (empty, r)

/-- The items of a sequence in brackets. A key mark makes an item a mapping of one entry. -/
def flowItems (handles : List (String × String)) :
    Nat → Bool → YamlReading → Option (List YamlNode × YamlReading)
  | 0, _, _ => none
  | fuel + 1, first, r =>
    match r.tokens with
    | .flowSequenceEnd :: _ => some ([], r.drop)
    | tokens =>
      let rest? :=
        match first, tokens with
        | true, _ => some r
        | false, .flowEntry :: _ => some r.drop
        | false, _ => none
      match rest? with
      | none => none
      | some r =>
        match r.tokens with
        | .flowSequenceEnd :: _ => some ([], r.drop)
        | .key :: rest => do
          let (key, r) ←
            match rest with
            | .value :: _ | .flowEntry :: _ | .flowSequenceEnd :: _ => some (empty, r.drop.drop)
            | _ => read handles fuel false false r.drop
          let (value, r) ← flowValue handles fuel r
          let (items, r) ← flowItems handles fuel false r
          some (mapping ⟨none, none⟩ [(key, value)] :: items, r)
        | _ => do
          let (item, r) ← read handles fuel false false r
          let (items, r) ← flowItems handles fuel false r
          some (item :: items, r)

/-- The value of an entry in brackets or braces, if it has one. -/
def flowValue (handles : List (String × String)) :
    Nat → YamlReading → Option (YamlNode × YamlReading)
  | 0, _ => none
  | fuel + 1, r =>
    match r.tokens with
    | .value :: rest =>
      match rest with
      | .flowEntry :: _ | .flowSequenceEnd :: _ | .flowMappingEnd :: _ => some (empty, r.drop)
      | _ => read handles fuel false false r.drop
    | _ => some (empty, r)

/-- The entries of a mapping in braces; one without a key mark is a key with an empty value. -/
def flowEntries (handles : List (String × String)) :
    Nat → Bool → YamlReading → Option (List (YamlNode × YamlNode) × YamlReading)
  | 0, _, _ => none
  | fuel + 1, first, r =>
    match r.tokens with
    | .flowMappingEnd :: _ => some ([], r.drop)
    | tokens =>
      let rest? :=
        match first, tokens with
        | true, _ => some r
        | false, .flowEntry :: _ => some r.drop
        | false, _ => none
      match rest? with
      | none => none
      | some r =>
        match r.tokens with
        | .flowMappingEnd :: _ => some ([], r.drop)
        | .key :: rest => do
          let (key, r) ←
            match rest with
            | .value :: _ | .flowEntry :: _ | .flowMappingEnd :: _ => some (empty, r.drop)
            | _ => read handles fuel false false r.drop
          let (value, r) ← flowValue handles fuel r
          let (entries, r) ← flowEntries handles fuel false r
          some ((key, value) :: entries, r)
        | _ => do
          let (key, r) ← read handles fuel false false r
          let (entries, r) ← flowEntries handles fuel false r
          some ((key, empty) :: entries, r)

end

/-- The handles that are known without being declared. -/
def knownHandles : List (String × String) :=
  [("!", "!"), ("!!", "tag:yaml.org,2002:")]

/-- The declarations in front of a document: at most one version, which must be 1.1 or 1.2, and
each handle once. -/
def declarations (versionSeen : Bool) (handles : List (String × String)) :
    List YamlToken → Option (List (String × String) × List YamlToken)
  | .version major minor :: rest =>
    if versionSeen || major ≠ 1 || !(minor = 1 || minor = 2) then none
    else declarations true handles rest
  | .tagHandle handle start :: rest =>
    if (handles.lookup handle).isSome then none
    else declarations versionSeen ((handle, start) :: handles) rest
  | rest => some (handles, rest)

def isDeclaration : YamlToken → Bool
  | .version _ _ => true
  | .tagHandle _ _ => true
  | _ => false

/-- More steps than tokens can need. -/
def stepBound (tokens : List YamlToken) : Nat :=
  4 * tokens.length + 4

/-- The root of a document. -/
def root (handles : List (String × String)) (tokens : List YamlToken) :
    Option (YamlNode × YamlReading) :=
  read (handles ++ knownHandles) (stepBound tokens) true false ⟨tokens, []⟩

/-- The only document of a text: nothing if there is none. More than one is refused. -/
def ofTokens? (tokens : List YamlToken) : Option (Option YamlNode) := do
  match tokens with
  | [] => some none
  | t :: _ =>
    let (node, r) ←
      if isDeclaration t || t = .documentStart then
        let (handles, rest) ← declarations false [] tokens
        match rest with
        | .documentStart :: rest =>
          match rest with
          | [] | .version _ _ :: _ | .tagHandle _ _ :: _ | .documentStart :: _
          | .documentEnd :: _ => some (empty, ⟨rest, []⟩)
          | _ => root handles rest
        | _ => none
      else root [] tokens
    if (r.tokens.dropWhile (· = .documentEnd)).isEmpty then some (some node) else none

def ofText? (s : String) : Option (Option YamlNode) :=
  (YamlToken.listOf? s.toList).bind ofTokens?

end YamlNode

end CloudThreat
