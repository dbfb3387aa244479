namespace CloudThreat

structure YamlCursor where
  rest : List Char
  index : Nat
  line : Nat
  column : Nat
deriving Repr

namespace YamlCursor

/-- May the character stand in a YAML text at all? -/
def isAllowed (c : Char) : Bool :=
  let n := c.toNat
  n = 0x9 || n = 0xA || n = 0xD || (0x20 ≤ n && n ≤ 0x7E) || n = 0x85
    || (0xA0 ≤ n && n ≤ 0xFFFD) || 0x10000 ≤ n

def isBreak (c : Char) : Bool :=
  c = '\n' || c = '\r' || c = '\x85' || c = '\u2028' || c = '\u2029'

def isGap (c : Char) : Bool :=
  c = ' ' || c = '\t'

/-- Characters of names: letters and digits of ASCII, dashes and underscores. -/
def isName (c : Char) : Bool :=
  c.isAlphanum || c = '-' || c = '_'

def start (cs : List Char) : YamlCursor :=
  ⟨cs, 0, 0, 0⟩

def peek (c : YamlCursor) (n : Nat) : Option Char :=
  c.rest[n]?

/-- Does a character of the kind come next? -/
def sees (c : YamlCursor) (p : Char → Bool) : Bool :=
  c.rest.head?.any p

def isAt (c : YamlCursor) (x : Char) : Bool :=
  c.sees (· = x)

/-- Is there a gap, a break or the end after `n` characters? -/
def endsAt (c : YamlCursor) (n : Nat) : Bool :=
  match c.peek n with
  | some x => isGap x || isBreak x
  | none => true

/-- Is there a break or the end? -/
def atLineEnd (c : YamlCursor) : Bool :=
  match c.rest with
  | x :: _ => isBreak x
  | [] => true

/-- Pass over a number of characters in the line. -/
def skip (c : YamlCursor) (n : Nat) : YamlCursor :=
  { c with rest := c.rest.drop n, index := c.index + n, column := c.column + n }

def skipWhile (c : YamlCursor) (p : Char → Bool) : YamlCursor :=
  c.skip (c.rest.takeWhile p).length

/-- The characters of the kind that come next, and the place after them. -/
def takeWhile (c : YamlCursor) (p : Char → Bool) : List Char × YamlCursor :=
  (c.rest.takeWhile p, c.skipWhile p)

/-- A break as it counts in a value, and the next line. All breaks count as line feeds but the
separators of lines and paragraphs. -/
def takeBreak (c : YamlCursor) : List Char × YamlCursor :=
  let next (n : Nat) (rest : List Char) : YamlCursor := ⟨rest, c.index + n, c.line + 1, 0⟩
  match c.rest with
  | '\r' :: '\n' :: rest => (['\n'], next 2 rest)
  | x :: rest =>
    if isBreak x then
      ([if x = '\u2028' || x = '\u2029' then x else '\n'], next 1 rest)
    else ([], c)
  | [] => ([], c)

/-- Pass over a comment, up to the end of the line. -/
def skipComment (c : YamlCursor) : YamlCursor :=
  if c.isAt '#' then c.skipWhile fun x => !isBreak x else c

/-- Nothing but a comment may follow in the line; the next line. -/
def finishLine (c : YamlCursor) : Option YamlCursor :=
  let c := (c.skipWhile isGap).skipComment
  if c.atLineEnd then some c.takeBreak.2 else none

/-- Does the line begin with three of the character and a gap? -/
def marks (c : YamlCursor) (x : Char) : Bool :=
  c.column = 0 && c.peek 0 = some x && c.peek 1 = some x && c.peek 2 = some x && c.endsAt 3

/-- Does the line begin or end a document? -/
def marksDocument (c : YamlCursor) : Bool :=
  c.marks '-' || c.marks '.'

end YamlCursor

end CloudThreat
