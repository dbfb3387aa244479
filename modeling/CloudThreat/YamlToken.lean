import CloudThreat.DecimalNumeral
import CloudThreat.Hexadecimal
import CloudThreat.Utf8
import CloudThreat.YamlScalar

namespace CloudThreat

inductive YamlToken where
  | version (major minor : Nat)
  | tagHandle (handle start : String)
  | documentStart
  | documentEnd
  | blockSequenceStart
  | blockMappingStart
  | blockEnd
  | flowSequenceStart
  | flowSequenceEnd
  | flowMappingStart
  | flowMappingEnd
  | blockEntry
  | flowEntry
  | key
  | value
  | aliasOf (name : String)
  | anchor (name : String)
  | tag (handle rest : String)
  | scalar (plain : Bool) (text : String)
deriving Repr, DecidableEq

/-- A node that turns out to be a key if a colon follows it in the same line. -/
structure YamlPossibleKey where
  required : Bool
  /-- The number of tokens in front of the node. -/
  position : Nat
  place : YamlCursor

/-- How far a text has been read. -/
structure YamlProgress where
  cursor : YamlCursor
  /-- The tokens so far, last one first. -/
  tokens : List YamlToken
  /-- One more than the column of the innermost block; zero outside of all. -/
  indent : Nat
  outerIndents : List Nat
  /-- May a key begin here? -/
  keyAllowed : Bool
  possibleKey : Option YamlPossibleKey
  /-- The possible keys around the open brackets, one for each. -/
  outerKeys : List (Option YamlPossibleKey)

namespace YamlProgress

def start (cs : List Char) : YamlProgress :=
  ⟨.start cs, [], 0, [], true, none, []⟩

def inFlow (p : YamlProgress) : Bool :=
  !p.outerKeys.isEmpty

def add (p : YamlProgress) (t : YamlToken) : YamlProgress :=
  { p with tokens := t :: p.tokens }

/-- Put a token in front of the tokens from `position` on. -/
def addAt (p : YamlProgress) (position : Nat) (t : YamlToken) : YamlProgress :=
  let later := p.tokens.length - position
  { p with tokens := p.tokens.take later ++ t :: p.tokens.drop later }

def skip (p : YamlProgress) (n : Nat) : YamlProgress :=
  { p with cursor := p.cursor.skip n }

/-- Pass over blanks, comments and line breaks. A tab is no blank where a key may begin. -/
def skipGaps : Nat → YamlProgress → YamlProgress
  | 0, p => p
  | fuel + 1, p =>
    let c := if p.cursor.index = 0 && p.cursor.isAt '\uFEFF' then p.cursor.skip 1 else p.cursor
    let c := c.skipWhile fun x => x = ' ' || (x = '\t' && (p.inFlow || !p.keyAllowed))
    let c := c.skipComment
    if c.sees YamlCursor.isBreak then
      skipGaps fuel
        { p with cursor := c.takeBreak.2, keyAllowed := p.keyAllowed || !p.inFlow }
    else { p with cursor := c }

/-- The longest a key can be. -/
def keyLimit : Nat := 1024

/-- A key that is too long or runs over its line is none; where one is required that is wrong. -/
def current? (p : YamlProgress) (k : Option YamlPossibleKey) : Option (Option YamlPossibleKey) :=
  match k with
  | none => some none
  | some key =>
    if key.place.line < p.cursor.line || key.place.index + keyLimit < p.cursor.index then
      if key.required then none else some none
    else some (some key)

def dropStaleKeys (p : YamlProgress) : Option YamlProgress := do
  let possibleKey ← p.current? p.possibleKey
  let outerKeys ← p.outerKeys.mapM p.current?
  some { p with possibleKey := possibleKey, outerKeys := outerKeys }

/-- Close the blocks to the right of an indentation. -/
def closeBlocks (indent : Nat) (p : YamlProgress) : List Nat → YamlProgress
  | [] => p
  | outer :: rest =>
    if indent < p.indent then
      closeBlocks indent { p.add .blockEnd with indent := outer, outerIndents := rest } rest
    else p

def unindent (p : YamlProgress) (indent : Nat) : YamlProgress :=
  if p.inFlow then p else closeBlocks indent p p.outerIndents

/-- Open a block at a column that is further right. -/
def openBlock (p : YamlProgress) (column : Nat) (insert : YamlProgress → YamlToken → YamlProgress)
    (t : YamlToken) : YamlProgress :=
  if p.inFlow || column < p.indent then p
  else
    { insert p t with indent := column + 1, outerIndents := p.indent :: p.outerIndents }

/-- Where a key is required there must be one. -/
def removeKey (p : YamlProgress) : Option YamlProgress :=
  match p.possibleKey with
  | some key => if key.required then none else some { p with possibleKey := none }
  | none => some p

/-- Remember the coming node as a possible key. -/
def saveKey (p : YamlProgress) : Option YamlProgress :=
  if p.keyAllowed then
    (removeKey p).map fun p =>
      let required := !p.inFlow && p.indent = p.cursor.column + 1
      { p with possibleKey := some ⟨required, p.tokens.length, p.cursor⟩ }
  else some p

def allowKey (p : YamlProgress) (allowed : Bool) : YamlProgress :=
  { p with keyAllowed := allowed }

/-- One of the characters that URIs may hold. Brackets and commas count only between angle
brackets. -/
def isUri (verbatim : Bool) (c : Char) : Bool :=
  YamlCursor.isName c || ";/?:@&=+$.%!~*'()".toList.contains c
    || (verbatim && (c = ',' || c = '[' || c = ']'))

/-- The bytes of a text whose escapes `%XX` stand for bytes; the escapes must spell characters. -/
def unescape : Nat → List Char → Option (List Nat)
  | 0, _ => some []
  | _, [] => some []
  | fuel + 1, '%' :: rest =>
    match rest with
    | a :: b :: rest => do
      let byte ← Hexadecimal.number? [a, b]
      (unescape fuel rest).map (byte :: ·)
    | _ => none
  | fuel + 1, c :: rest => (unescape fuel rest).map (Utf8.encode (String.ofList [c]) ++ ·)

def uri (verbatim : Bool) (c : YamlCursor) : Option (List Char × YamlCursor) :=
  let (cs, c) := c.takeWhile (isUri verbatim)
  ((unescape cs.length cs).bind Utf8.decode?).map fun s => (s.toList, c)

/-- A handle such as `!`, `!!` or `!name!`; a name without its second mark is only the beginning of
something else. -/
def handle (c : YamlCursor) : Option (List Char × YamlCursor) :=
  if c.isAt '!' then
    let (name, c) := (c.skip 1).takeWhile YamlCursor.isName
    if c.isAt '!' then some ('!' :: name ++ ['!'], c.skip 1) else some ('!' :: name, c)
  else none

def isHandle (h : List Char) : Bool :=
  1 < h.length && h.getLast? = some '!'

/-- A tag: in angle brackets, or a handle and what follows it. -/
def tagToken (c : YamlCursor) : Option (YamlToken × YamlCursor) := do
  if c.peek 1 = some '<' then
    let (name, c) ← uri true (c.skip 2)
    if name.isEmpty || !c.isAt '>' then none
    else some (.tag "" (String.ofList name), c.skip 1)
  else
    let (h, c) ← handle c
    let (rest, c) ← uri false c
    if isHandle h then
      if rest.isEmpty then none else some (.tag (String.ofList h) (String.ofList rest), c)
    else
      let name := h.drop 1 ++ rest
      if name.isEmpty then some (.tag "" "!", c) else some (.tag "!" (String.ofList name), c)

/-- What may follow the name of an anchor or an alias. -/
def endsName (c : YamlCursor) : Bool :=
  c.endsAt 0 || c.sees fun x => "?:,]\x7d%@`".toList.contains x

def name (c : YamlCursor) : Option (String × YamlCursor) :=
  let (cs, c) := (c.skip 1).takeWhile YamlCursor.isName
  if cs.isEmpty || !endsName c then none else some (String.ofList cs, c)

/-- Up to nine digits. -/
def versionNumber (c : YamlCursor) : Option (Nat × YamlCursor) :=
  let (ds, c) := c.takeWhile Char.isDigit
  if ds.isEmpty || 9 < ds.length then none else some (DecimalNumeral.valueOf ds, c)

/-- A line that begins with a percent sign. -/
def directive (c : YamlCursor) : Option (YamlToken × YamlCursor) := do
  let (word, c) := (c.skip 1).takeWhile YamlCursor.isName
  if !c.endsAt 0 then none
  else
    let c := c.skipWhile YamlCursor.isGap
    if word = "YAML".toList then
      let (major, c) ← versionNumber c
      if !c.isAt '.' then none
      else
        let (minor, c) ← versionNumber (c.skip 1)
        some (.version major minor, ← c.finishLine)
    else if word = "TAG".toList then
      let (h, c) ← handle c
      if !(h = ['!'] || isHandle h) || !c.sees YamlCursor.isGap then none
      else
        let (start, c) ← uri true (c.skipWhile YamlCursor.isGap)
        if start.isEmpty || !c.endsAt 0 then none
        else some (.tagHandle (String.ofList h) (String.ofList start), ← c.finishLine)
    else none

def fetchDirective (p : YamlProgress) : Option YamlProgress := do
  let p ← (p.unindent 0).removeKey
  let (t, c) ← directive p.cursor
  some { p.add t with cursor := c, keyAllowed := false }

def fetchDocumentMark (p : YamlProgress) (t : YamlToken) : Option YamlProgress := do
  let p ← (p.unindent 0).removeKey
  some (((p.allowKey false).skip 3).add t)

def fetchFlowStart (p : YamlProgress) (t : YamlToken) : Option YamlProgress := do
  let p ← p.saveKey
  let p := { p with possibleKey := none, outerKeys := p.possibleKey :: p.outerKeys }
  some (((p.allowKey true).skip 1).add t)

def fetchFlowEnd (p : YamlProgress) (t : YamlToken) : Option YamlProgress := do
  let p ← p.removeKey
  let p :=
    match p.outerKeys with
    | k :: outer => { p with possibleKey := k, outerKeys := outer }
    | [] => p
  some (((p.allowKey false).skip 1).add t)

def fetchFlowEntry (p : YamlProgress) : Option YamlProgress := do
  let p ← p.removeKey
  some (((p.allowKey true).skip 1).add .flowEntry)

def fetchBlockEntry (p : YamlProgress) : Option YamlProgress := do
  if !p.inFlow && !p.keyAllowed then none
  else
    let p ← (p.openBlock p.cursor.column add .blockSequenceStart).removeKey
    some (((p.allowKey true).skip 1).add .blockEntry)

def fetchKey (p : YamlProgress) : Option YamlProgress := do
  if !p.inFlow && !p.keyAllowed then none
  else
    let p ← (p.openBlock p.cursor.column add .blockMappingStart).removeKey
    some (((p.allowKey (!p.inFlow)).skip 1).add .key)

/-- A colon makes the possible key in front of it one. Without any it stands for an empty key or
after a key that is marked. -/
def fetchValue (p : YamlProgress) : Option YamlProgress :=
  match p.possibleKey with
  | some key =>
    let p := p.addAt key.position .key
    let p := p.openBlock key.place.column (addAt · key.position) .blockMappingStart
    let p := { p with possibleKey := none, keyAllowed := false }
    some ((p.skip 1).add .value)
  | none =>
    if !p.inFlow && !p.keyAllowed then none
    else
      let p := p.openBlock p.cursor.column add .blockMappingStart
      some (((p.allowKey (!p.inFlow)).skip 1).add .value)

def fetchName (p : YamlProgress) (t : String → YamlToken) : Option YamlProgress := do
  let p ← p.saveKey
  let (n, c) ← name p.cursor
  some { p.add (t n) with cursor := c, keyAllowed := false }

def fetchTag (p : YamlProgress) : Option YamlProgress := do
  let p ← p.saveKey
  let (t, c) ← tagToken p.cursor
  if c.endsAt 0 || (p.inFlow && c.isAt ',') then
    some { p.add t with cursor := c, keyAllowed := false }
  else none

def fetchBlockScalar (p : YamlProgress) (literal : Bool) : Option YamlProgress := do
  let p ← p.removeKey
  let (text, c) ← YamlScalar.block literal p.indent p.cursor
  some { p.add (.scalar false (String.ofList text)) with cursor := c, keyAllowed := true }

def fetchQuoted (p : YamlProgress) (single : Bool) : Option YamlProgress := do
  let p ← p.saveKey
  let (text, c) ← YamlScalar.quoted single p.cursor
  some { p.add (.scalar false (String.ofList text)) with cursor := c, keyAllowed := false }

/-- After a plain scalar that a line break ends a key may begin. -/
def fetchPlain (p : YamlProgress) : Option YamlProgress := do
  let p ← p.saveKey
  let (text, broken, c) ← YamlScalar.plain p.inFlow p.indent p.cursor
  some { p.add (.scalar true (String.ofList text)) with cursor := c, keyAllowed := broken }

/-- Characters that do not begin a plain scalar. -/
def indicators : List Char :=
  "-?:,[]\x7b\x7d#&*!|>'\"%@`".toList

/-- Dashes, and outside brackets also question marks and colons, begin a scalar before a text. -/
def beginsPlain (p : YamlProgress) (x : Char) : Bool :=
  (!indicators.contains x && !YamlCursor.isGap x)
    || (x = '-' && !(p.cursor.peek 1).any YamlCursor.isGap)
    || (!p.inFlow && (x = '?' || x = ':') && !p.cursor.endsAt 1)

/-- The next token, and those that its indentation calls for. -/
def fetch (p : YamlProgress) (x : Char) : Option YamlProgress :=
  let c := p.cursor
  if c.column = 0 && x = '%' then p.fetchDirective
  else if c.marks '-' then p.fetchDocumentMark .documentStart
  else if c.marks '.' then p.fetchDocumentMark .documentEnd
  else if x = '[' then p.fetchFlowStart .flowSequenceStart
  else if x = '\x7b' then p.fetchFlowStart .flowMappingStart
  else if x = ']' then p.fetchFlowEnd .flowSequenceEnd
  else if x = '\x7d' then p.fetchFlowEnd .flowMappingEnd
  else if x = ',' then p.fetchFlowEntry
  else if x = '-' && c.endsAt 1 then p.fetchBlockEntry
  else if x = '?' && (p.inFlow || c.endsAt 1) then p.fetchKey
  else if x = ':' && (p.inFlow || c.endsAt 1) then p.fetchValue
  else if x = '*' then p.fetchName .aliasOf
  else if x = '&' then p.fetchName .anchor
  else if x = '!' then p.fetchTag
  else if x = '|' && !p.inFlow then p.fetchBlockScalar true
  else if x = '>' && !p.inFlow then p.fetchBlockScalar false
  else if x = '\'' then p.fetchQuoted true
  else if x = '"' then p.fetchQuoted false
  else if p.beginsPlain x then p.fetchPlain
  else none

/-- All tokens up to the end of the text, where every block is closed. -/
def finish : Nat → YamlProgress → Option (List YamlToken)
  | 0, _ => none
  | fuel + 1, p =>
    match (p.skipGaps (p.cursor.rest.length + 1)).dropStaleKeys with
    | none => none
    | some p =>
      let p := p.unindent (p.cursor.column + 1)
      match p.cursor.rest with
      | [] => ((p.unindent 0).removeKey).map fun p => p.tokens.reverse
      | x :: _ =>
        match p.fetch x with
        | none => none
        | some p => finish fuel p

end YamlProgress

namespace YamlToken

/-- The tokens of a text, if it is one that can be cut into tokens. -/
def listOf? (cs : List Char) : Option (List YamlToken) :=
  if cs.all YamlCursor.isAllowed then (YamlProgress.start cs).finish (cs.length + 1) else none

end YamlToken

end CloudThreat
