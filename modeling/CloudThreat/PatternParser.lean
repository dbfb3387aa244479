import CloudThreat.DecimalNumeral
import CloudThreat.Hexadecimal
import CloudThreat.Pattern
import CloudThreat.WordSize

namespace CloudThreat.PatternParser

/-- What the flags `i`, `m`, `s`, `R`, `u` and `x` switch. -/
structure Mode where
  caseless : Bool
  multiline : Bool
  dotAll : Bool
  returns : Bool
  unicode : Bool
  verbose : Bool
deriving Repr, DecidableEq

namespace Mode

def plain : Mode := ⟨false, false, false, false, true, false⟩

/-- Drop blanks, and comments from `#` to the end of the line. -/
def skipBlanks (inComment : Bool) : List Char → List Char
  | [] => []
  | c :: rest =>
    if inComment then skipBlanks (c ≠ '\n') rest
    else if c = '#' then skipBlanks true rest
    else if isBlank c then skipBlanks false rest
    else c :: rest

/-- In verbose mode blanks and comments between the parts of a pattern do not count. -/
def skip (m : Mode) (cs : List Char) : List Char :=
  if m.verbose then skipBlanks false cs else cs

/-- Characters that satisfy `p`, with what may be skipped after each. -/
def takeSpaced (m : Mode) (p : Char → Bool) : Nat → List Char → List Char × List Char
  | 0, cs => ([], cs)
  | fuel + 1, cs =>
    match cs with
    | c :: rest =>
      if p c then
        let (taken, rest) := takeSpaced m p fuel (m.skip rest)
        (c :: taken, rest)
      else ([], cs)
    | [] => ([], [])

def spaced (m : Mode) (p : Char → Bool) (cs : List Char) : List Char × List Char :=
  m.takeSpaced p cs.length cs

def set? (m : Mode) (flag : Char) (on : Bool) : Option Mode :=
  match flag with
  | 'i' => some { m with caseless := on }
  | 'm' => some { m with multiline := on }
  | 's' => some { m with dotAll := on }
  | 'R' => some { m with returns := on }
  | 'u' => some { m with unicode := on }
  | 'x' => some { m with verbose := on }
  | 'U' => some m
  | _ => none

/-- Flags up to `:` or `)`, those after a dash switched off; no sign stands twice, and a flag
follows the dash. Gives the mode, whether there was any sign, and the closing character. -/
def flags? (m : Mode) (seen : List Char) : List Char → Option (Mode × Bool × Char × List Char)
  | [] => none
  | c :: rest =>
    if c = ':' || c = ')' then
      if seen.head? = some '-' then none else some (m, !seen.isEmpty, c, rest)
    else if seen.contains c then none
    else if c = '-' then flags? m ('-' :: seen) rest
    else
      match m.set? c (!seen.contains '-') with
      | some m => flags? m (c :: seen) rest
      | none => none

/-- The set as far as letter case goes. -/
def fold (m : Mode) (s : CharSet) : CharSet :=
  if !m.caseless then s else if m.unicode then .caseless s else .asciiCaseless s

/-- Without Unicode a set holds ASCII characters only, so it has no complement. -/
def negate? (m : Mode) (negated : Bool) (s : CharSet) : Option CharSet :=
  if !negated then some s else if m.unicode then some (.negated s) else none

/-- The set of one written character. -/
def literal (m : Mode) (c : Char) : CharSet :=
  if !m.unicode && 0x80 ≤ c.toNat then .single c else m.fold (.single c)

def dot? (m : Mode) : Option CharSet :=
  if !m.unicode then none
  else if m.dotAll then some .any
  else if m.returns then some (.negated (.either (.single '\n') (.single '\r')))
  else some (.negated (.single '\n'))

def start (m : Mode) : Assertion :=
  if !m.multiline then .textStart else if m.returns then .returnLineStart else .lineStart

def finish (m : Mode) : Assertion :=
  if !m.multiline then .textEnd else if m.returns then .returnLineEnd else .lineEnd

def wordKind (m : Mode) : WordKind :=
  if m.unicode then .unicode else .ascii

end Mode

/-- What an escape stands for. A byte is a character code written with exactly two digits. -/
inductive Escape where
  | literal (c : Char) (byte : Bool)
  | set (s : CharSet)
  | assertion (a : Assertion)

/-- Characters that may have a meaning of their own. -/
def metaChars : List Char :=
  "\\.+*?()|[]\x7b\x7d^$#&-~".toList

/-- May the character stand for itself after a backslash? -/
def isEscapable (c : Char) : Bool :=
  metaChars.contains c
    || (c.toNat < 0x80 && !c.isAlphanum && c ≠ '<' && c ≠ '>')

/-- The character of a code point, if it is one. -/
def charOf? (code : Nat) : Option Char :=
  if code.isValidChar then some (Char.ofNat code) else none

/-- A number of characters in turn, with what may be skipped between them. -/
def takeExactly (m : Mode) : Nat → List Char → Option (List Char × List Char)
  | 0, cs => some ([], cs)
  | n + 1, cs =>
    match m.skip cs with
    | c :: rest => (takeExactly m n rest).map fun (taken, rest) => (c :: taken, rest)
    | [] => none

/-- Text up to a closing brace. -/
def braced (m : Mode) (cs : List Char) : Option (List Char × List Char) :=
  match m.spaced (· ≠ '\x7d') (m.skip cs) with
  | (taken, _ :: rest) => some (taken, rest)
  | (_, []) => none

/-- A character code after `x`, `u` or `U`, of a fixed number of digits or in braces. -/
def hexEscape (m : Mode) (width : Nat) (cs : List Char) : Option (Escape × List Char) := do
  match m.skip cs with
  | '\x7b' :: rest =>
    let (digits, rest) ← braced m rest
    if digits.isEmpty then none
    else
      let c ← charOf? (← Hexadecimal.number? digits)
      some (.literal c false, rest)
  | cs =>
    let (digits, rest) ← takeExactly m width cs
    let c ← charOf? (← Hexadecimal.number? digits)
    some (.literal c (width = 2), rest)

/-- A name in braces: a property, or a property with a value after `=`, `:` or `!=`. -/
def propertySet (name : List Char) : Option CharSet :=
  let rec differs (before : List Char) : List Char → Option (List Char × List Char)
    | '!' :: '=' :: rest => some (before.reverse, rest)
    | c :: rest => differs (c :: before) rest
    | [] => none
  match differs [] name with
  | some (property, value) => (CharProperty.valued? property value).map .negated
  | none =>
    match cutOnce? ':' name with
    | some (property, value) => CharProperty.valued? property value
    | none =>
      match cutOnce? '=' name with
      | some (property, value) => CharProperty.valued? property value
      | none => CharProperty.named? name

/-- A set of characters by property, after `p` or `P`. -/
def propertyEscape (m : Mode) (negated : Bool) (cs : List Char) : Option (Escape × List Char) := do
  if !m.unicode then none
  else
    match m.skip cs with
    | '\x7b' :: rest =>
      let (name, rest) ← braced m rest
      let set ← m.negate? negated (m.fold (← propertySet name))
      some (.set set, rest)
    | c :: rest =>
      if c = '\\' then none
      else
        let set ← m.negate? negated (m.fold (← CharProperty.named? [c]))
        some (.set set, rest)
    | [] => none

def asciiRanges (s : String) : CharSet :=
  .ranges (CodeRange.listOf s)

/-- Digits, blanks and word characters. -/
def classEscape (m : Mode) (c : Char) : Option Escape :=
  let set :=
    match c.toLower, m.unicode with
    | 'd', true => CharProperty.decimal
    | 'd', false => asciiRanges "30-39"
    | 's', true => CharProperty.whiteSpace
    | 's', false => asciiRanges "9-D 20"
    | _, true => CharProperty.word
    | _, false => asciiRanges "30-39 41-5A 5F 61-7A"
  (m.negate? c.isUpper set).map .set

/-- The kinds of word boundary that have a name. -/
def boundaryNames : List (String × Boundary) := [
  ("start", .start), ("end", .finish), ("start-half", .startHalf), ("end-half", .finishHalf)]

/-- The kind of a word boundary, in braces. Braces that do not begin with a letter or a dash belong
to what follows. -/
def boundaryEscape (m : Mode) (cs : List Char) : Option (Escape × List Char) :=
  let isNameChar (c : Char) : Bool := c.isAlpha || c = '-'
  let plain : Escape × List Char := (.assertion (.wordBoundary m.wordKind .either), cs)
  match cs with
  | '\x7b' :: rest =>
    match m.skip rest with
    | [] => none
    | c :: rest =>
      if !isNameChar c then some plain
      else
        match m.spaced isNameChar (c :: rest) with
        | (name, '\x7d' :: rest) =>
          (boundaryNames.lookup (String.ofList name)).map fun b =>
            (.assertion (.wordBoundary m.wordKind b), rest)
        | _ => none
  | _ => some plain

/-- What follows a backslash. -/
def escape (m : Mode) : List Char → Option (Escape × List Char)
  | [] => none
  | c :: rest =>
    match c with
    | 'x' => hexEscape m 2 rest
    | 'u' => hexEscape m 4 rest
    | 'U' => hexEscape m 8 rest
    | 'p' => propertyEscape m false rest
    | 'P' => propertyEscape m true rest
    | 'd' | 's' | 'w' | 'D' | 'S' | 'W' => (classEscape m c).map fun e => (e, rest)
    | 'a' => some (.literal '\x07' false, rest)
    | 'f' => some (.literal '\x0c' false, rest)
    | 't' => some (.literal '\t' false, rest)
    | 'n' => some (.literal '\n' false, rest)
    | 'r' => some (.literal '\r' false, rest)
    | 'v' => some (.literal '\x0b' false, rest)
    | 'A' => some (.assertion .textStart, rest)
    | 'z' => some (.assertion .textEnd, rest)
    | 'b' => boundaryEscape m rest
    | 'B' => some (.assertion (.wordBoundary m.wordKind .neither), rest)
    | '<' => some (.assertion (.wordBoundary m.wordKind .start), rest)
    | '>' => some (.assertion (.wordBoundary m.wordKind .finish), rest)
    | c => if isEscapable c then some (.literal c false, rest) else none

/-- Without Unicode a byte beyond ASCII is no character. -/
def refusesByte (m : Mode) (c : Char) (byte : Bool) : Bool :=
  !m.unicode && byte && 0x80 ≤ c.toNat

/-- A set of characters read between brackets, and how deeply sets nest in it. -/
structure SetPart where
  set : CharSet
  depth : Nat

namespace SetPart

/-- Parts side by side; more than one of them nest once. -/
def union (parts : List SetPart) : SetPart :=
  match parts with
  | [] => ⟨.none, 0⟩
  | [p] => p
  | parts => ⟨.union (parts.map (·.set)), parts.foldl (fun n p => max n p.depth) 0 + 1⟩

end SetPart

inductive SetOperation where
  | both
  | less
  | oneOf

namespace SetOperation

def apply : SetOperation → CharSet → CharSet → CharSet
  | both => .both
  | less => .less
  | oneOf => .oneOf

end SetOperation

/-- A left side that waits for its right side. -/
abbrev Pending := Option (SetPart × SetOperation)

/-- The left side so far, joined with what has been read since. -/
def settle (m : Mode) (pending : Pending) (parts : List SetPart) : SetPart :=
  let right := SetPart.union parts
  match pending with
  | none => right
  | some (left, op) =>
    ⟨op.apply (m.fold left.set) (m.fold right.set), max left.depth right.depth + 1⟩

def namedSets : List (String × CharSet) := [
  ("alnum", asciiRanges "30-39 41-5A 61-7A"),
  ("alpha", asciiRanges "41-5A 61-7A"),
  ("ascii", asciiRanges "0-7F"),
  ("blank", asciiRanges "9 20"),
  ("cntrl", asciiRanges "0-1F 7F"),
  ("digit", asciiRanges "30-39"),
  ("graph", asciiRanges "21-7E"),
  ("lower", asciiRanges "61-7A"),
  ("print", asciiRanges "20-7E"),
  ("punct", asciiRanges "21-2F 3A-40 5B-60 7B-7E"),
  ("space", asciiRanges "9-D 20"),
  ("upper", asciiRanges "41-5A"),
  ("word", asciiRanges "30-39 41-5A 5F 61-7A"),
  ("xdigit", asciiRanges "30-39 41-46 61-66")]

/-- A set by name such as `[:alpha:]` or `[:^alpha:]`, after its bracket. -/
def namedSet? : List Char → Option (Bool × CharSet × List Char)
  | ':' :: rest =>
    let (negated, rest) :=
      match rest with
      | '^' :: rest => (true, rest)
      | rest => (false, rest)
    match rest.dropWhile (· ≠ ':') with
    | ':' :: ']' :: after =>
      (namedSets.lookup (String.ofList (rest.takeWhile (· ≠ ':')))).map fun s =>
        (negated, s, after)
    | _ => none
  | _ => none

/-- An item of a set, as an escape or as it stands. -/
def setAtom (m : Mode) : List Char → Option (Escape × List Char)
  | '\\' :: rest => escape m rest
  | c :: rest => some (.literal c false, rest)
  | [] => none

/-- A character that may be an item or an end of a range. -/
def setLiteral? (m : Mode) : Escape → Option Char
  | .literal c _ => if !m.unicode && 0x80 ≤ c.toNat then none else some c
  | _ => none

/-- One character, a range of characters or a set that an escape stands for. -/
def setItem (m : Mode) (cs : List Char) : Option (SetPart × List Char) := do
  let (first, rest) ← setAtom m cs
  let rest := m.skip rest
  let alone : Option (SetPart × List Char) :=
    match first with
    | .set s => some (⟨s, 0⟩, rest)
    | .assertion _ => none
    | e => (setLiteral? m e).map fun c => (⟨.single c, 0⟩, rest)
  match rest with
  | [] => none
  | '-' :: tail =>
    match m.skip tail with
    | ']' :: _ => alone
    | '-' :: _ => alone
    | [] => none
    | tail =>
      let (last, rest) ← setAtom m tail
      let a ← setLiteral? m first
      let b ← setLiteral? m last
      if a ≤ b then some (⟨.ranges [⟨a.toNat, b.toNat⟩], 0⟩, rest) else none
  | _ => alone

/-- The beginning of a set after its bracket: whether it is negated, and the dashes or the closing
bracket that stand for themselves there. -/
def setOpening (m : Mode) (cs : List Char) : Bool × List SetPart × List Char :=
  let cs := m.skip cs
  let (negated, cs) :=
    match cs with
    | '^' :: rest => (true, m.skip rest)
    | cs => (false, cs)
  let (dashes, cs) := m.spaced (· = '-') cs
  match dashes, cs with
  | [], ']' :: rest => (negated, [⟨.single ']', 0⟩], m.skip rest)
  | dashes, cs => (negated, dashes.map fun c => ⟨.single c, 0⟩, cs)

/-- A set up to its closing bracket. -/
def setBody (m : Mode) (negated : Bool) :
    Nat → Pending → List SetPart → List Char → Option (SetPart × List Char)
  | 0, _, _, _ => none
  | fuel + 1, pending, parts, cs =>
    let operation (op : SetOperation) (rest : List Char) : Option (SetPart × List Char) :=
      setBody m negated fuel (some (settle m pending parts, op)) [] rest
    match m.skip cs with
    | [] => none
    | ']' :: rest => do
      let whole := settle m pending parts
      let set ← m.negate? negated (m.fold whole.set)
      some (⟨set, whole.depth + 1⟩, rest)
    | '&' :: '&' :: rest => operation .both rest
    | '-' :: '-' :: rest => operation .less rest
    | '~' :: '~' :: rest => operation .oneOf rest
    | '[' :: rest =>
      match namedSet? rest with
      | some (negated', s, rest) => do
        let set ← m.negate? negated' (m.fold s)
        setBody m negated fuel pending (⟨set, 0⟩ :: parts) rest
      | none => do
        let (negated', first, rest) := setOpening m rest
        let (part, rest) ← setBody m negated' fuel none first rest
        setBody m negated fuel pending (part :: parts) rest
    | cs => do
      let (part, rest) ← setItem m cs
      setBody m negated fuel pending (part :: parts) rest

/-- A whole number of 32 bits, with blanks around it. -/
def decimal (m : Mode) (cs : List Char) : Option (Nat × List Char) :=
  let (digits, rest) := m.spaced Char.isDigit (cs.dropWhile isBlank)
  let n := DecimalNumeral.valueOf digits
  if digits.isEmpty || WordSize.maxUnsigned 32 < n then none
  else some (n, (m.spaced isBlank rest).2)

/-- The bounds of a repetition, after the opening brace. -/
def bounds (m : Mode) (cs : List Char) : Option (Nat × Option Nat × List Char) := do
  let (least, cs) ← decimal m (m.skip cs)
  match cs with
  | '\x7d' :: rest => some (least, some least, rest)
  | ',' :: rest =>
    match m.skip rest with
    | '\x7d' :: rest => some (least, none, rest)
    | cs =>
      let (most, cs) ← decimal m cs
      match cs with
      | '\x7d' :: rest => if least ≤ most then some (least, some most, rest) else none
      | _ => none
  | _ => none

/-- How a repetition is to be preferred does not matter for whether there is a match. -/
def dropLazyMark : List Char → List Char
  | '?' :: rest => rest
  | cs => cs

def isNameChar (first : Bool) (c : Char) : Bool :=
  if first then c = '_' || CharProperty.alphabetic.contains c.toNat
  else c = '_' || c = '.' || c = '[' || c = ']' || CharProperty.alphanumeric.contains c.toNat

/-- The name of a group, up to its closing mark. -/
def groupName (cs : List Char) : Option (List Char × List Char) := do
  let (name, rest) ← cutOnce? '>' cs
  match name with
  | [] => none
  | c :: more =>
    if isNameChar true c && more.all (isNameChar false) then some (name, rest) else none

/-- How a group begins, after its parenthesis. -/
inductive GroupOpening where
  | capturing (rest : List Char)
  | named (name rest : List Char)
  | scoped (mode : Mode) (rest : List Char)
  | switch (mode : Mode) (rest : List Char)

def groupOpening (m : Mode) (cs : List Char) : Option GroupOpening :=
  match m.skip cs with
  | '?' :: '=' :: _ => none
  | '?' :: '!' :: _ => none
  | '?' :: '<' :: '=' :: _ => none
  | '?' :: '<' :: '!' :: _ => none
  | '?' :: 'P' :: '<' :: rest => (groupName rest).map fun (name, rest) => .named name rest
  | '?' :: '<' :: rest => (groupName rest).map fun (name, rest) => .named name rest
  | '?' :: rest =>
    match m.flags? [] rest with
    | some (mode, any, c, rest) =>
      if c = ':' then some (.scoped mode rest)
      else if any then some (.switch mode rest)
      else none
    | none => none
  | cs => some (.capturing cs)

/-- A part of a sequence: a switch of flags, or a pattern with its nesting. -/
inductive Piece where
  | switch
  | part (p : Pattern) (depth : Nat)

namespace Piece

def depth : Piece → Nat
  | switch => 0
  | part _ d => d

end Piece

/-- A pattern and how deeply it nests. -/
structure Nested where
  pattern : Pattern
  depth : Nat

namespace Nested

/-- A sequence of pieces, the last one first; more than one of them nest once. -/
def sequence (pieces : List Piece) : Nested :=
  let pattern := pieces.foldl
    (fun p piece =>
      match piece with
      | .switch => p
      | .part q _ => if p = .empty then q else .seq q p)
    Pattern.empty
  let deepest := pieces.foldl (fun n piece => max n piece.depth) 0
  ⟨pattern, if pieces.length ≤ 1 then deepest else deepest + 1⟩

/-- Alternatives, the last one first. -/
def alternatives (last : Nested) (earlier : List Nested) : Nested :=
  if earlier.isEmpty then last
  else
    ⟨earlier.foldl (fun p q => .alt q.pattern p) last.pattern,
      earlier.foldl (fun n q => max n q.depth) last.depth + 1⟩

end Nested

/-- What was read up to the end of a group: the names in use and the rest. -/
structure Body where
  nested : Nested
  names : List (List Char)
  rest : List Char

/-- The alternatives of a group, up to its closing parenthesis or the end of the text. `pieces`
are those of the current sequence and `earlier` the finished sequences, both last first. -/
def body : Nat → Mode → List (List Char) → List Piece → List Nested → List Char → Option Body
  | 0, _, _, _, _, _ => none
  | fuel + 1, m, names, pieces, earlier, cs =>
    let add (p : Pattern) (depth : Nat) (rest : List Char) : Option Body :=
      body fuel m names (.part p depth :: pieces) earlier rest
    let finish (rest : List Char) : Option Body :=
      some ⟨Nested.alternatives (Nested.sequence pieces) earlier, names, rest⟩
    let repeated (least : Nat) (most : Option Nat) (rest : List Char) : Option Body :=
      match pieces with
      | .part p depth :: pieces =>
        body fuel m names (.part (.repeated p least most) (depth + 1) :: pieces) earlier rest
      | _ => none
    let group (mode : Mode) (names : List (List Char)) (rest : List Char) : Option Body := do
      let inner ← body fuel mode names [] [] rest
      match inner.rest with
      | ')' :: rest =>
        body fuel m inner.names
          (.part inner.nested.pattern (inner.nested.depth + 1) :: pieces) earlier rest
      | _ => none
    match m.skip cs with
    | [] => finish []
    | ')' :: rest => finish (')' :: rest)
    | '|' :: rest => body fuel m names [] (Nested.sequence pieces :: earlier) rest
    | '(' :: rest =>
      match groupOpening m rest with
      | some (.capturing rest) => group m names rest
      | some (.named name rest) => if names.contains name then none else group m (name :: names) rest
      | some (.scoped mode rest) => group mode names rest
      | some (.switch mode rest) => body fuel mode names (.switch :: pieces) earlier rest
      | none => none
    | '[' :: rest => do
      let (negated, first, rest) := setOpening m rest
      let (part, rest) ← setBody m negated fuel none first rest
      add (.set part.set) part.depth rest
    | '?' :: rest => repeated 0 (some 1) (dropLazyMark rest)
    | '*' :: rest => repeated 0 none (dropLazyMark rest)
    | '+' :: rest => repeated 1 none (dropLazyMark rest)
    | '\x7b' :: rest => do
      let (least, most, rest) ← bounds m rest
      repeated least most (dropLazyMark (m.skip rest))
    | '.' :: rest => do
      let set ← m.dot?
      add (.set set) 0 rest
    | '^' :: rest => add (.assertion m.start) 0 rest
    | '$' :: rest => add (.assertion m.finish) 0 rest
    | '\\' :: rest => do
      let (e, rest) ← escape m rest
      match e with
      | .literal c byte =>
        if refusesByte m c byte then none else add (.set (m.literal c)) 0 rest
      | .set s => add (.set s) 0 rest
      | .assertion a => add (.assertion a) 0 rest
    | c :: rest => add (.set (m.literal c)) 0 rest

end CloudThreat.PatternParser

namespace CloudThreat.CharSet

def isAscii : CharSet → Bool
  | ranges rs => rs.all fun r => r.last < 0x80
  | either a b | oneOf a b => a.isAscii && b.isAscii
  | both a b => a.isAscii || b.isAscii
  | less a _ => a.isAscii
  | negated _ => false
  | caseless a => a.isAscii
  | asciiCaseless a => a.isAscii

/-- An estimate of the bytes that the set takes in a compiled pattern. -/
def compiledSize (s : CharSet) : Nat :=
  if s.isAscii then 24 + 8 * s.rangeCount else 400 + 60 * s.rangeCount

end CloudThreat.CharSet

namespace CloudThreat.Pattern

/-- Does the pattern match the empty text only, if anything? -/
def isHollow : Pattern → Bool
  | empty => true
  | set _ => false
  | assertion _ => true
  | seq p q | alt p q => p.isHollow && q.isHollow
  | repeated p _ most => p.isHollow || most = some 0

/-- An estimate of the bytes that the compiled pattern takes: a repetition copies its pattern. The
engine measures the program it builds, so that it may take a pattern near the limit that is refused
here, and refuse one that is taken. -/
def compiledSize : Pattern → Nat
  | empty => 32
  | set (.ranges [r]) =>
    if r.first = r.last then 32 * (Char.ofNat r.first).utf8Size else (CharSet.ranges [r]).compiledSize
  | set s => s.compiledSize
  | assertion _ => 32
  | seq p q => p.compiledSize + q.compiledSize
  | alt p q => p.compiledSize + q.compiledSize + 40
  | repeated p least most =>
    let copies := max (most.getD least) 1
    (if p.isHollow then 1 else copies) * (p.compiledSize + 8) + 32

/-- How deeply a pattern may nest. -/
def depthLimit : Nat := 250

/-- How large a compiled pattern may be, by the estimate. -/
def sizeLimit : Nat := 10 * 1024 * 1024

/-- The pattern that a text spells. -/
def ofText? (cs : List Char) : Option Pattern :=
  match PatternParser.body (cs.length + 1) .plain [] [] [] cs with
  | some ⟨⟨pattern, depth⟩, _, []⟩ =>
    if depth ≤ depthLimit && pattern.compiledSize ≤ sizeLimit then some pattern else none
  | _ => none

/-- Does the pattern match at the beginning of the text? The pattern's text is put into a group, so
one that closes this group and opens another may match elsewhere. -/
def matchesStart (pattern text : String) : Bool :=
  match ofText? ("^(?:".toList ++ pattern.toList ++ [')']) with
  | some p => p.matchesIn text
  | none => false

end CloudThreat.Pattern
