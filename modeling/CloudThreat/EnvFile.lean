import CloudThreat.Blank
import CloudThreat.CharProperty
import CloudThreat.Utf8

namespace CloudThreat

/-- Names with their values; of several values of one name the first counts. -/
abbrev Variables := List (String × String)

namespace Variables

def get? (vars : Variables) (name : String) : Option String :=
  vars.lookup name

/-- Give a value to a name that has none. -/
def define (vars : Variables) (name value : String) : Variables :=
  if (vars.get? name).isSome then vars else vars ++ [(name, value)]

/-- The value of a name; nothing stands for a name without one. -/
def textOf (vars : Variables) (name : List Char) : List Char :=
  ((vars.get? (String.ofList name)).getD "").toList

end Variables

namespace EnvFile

/-- Where in a value the next character stands. Outside single quotes `quoted` says whether double
quotes are open; after a dollar sign the name read so far is kept. -/
inductive Place where
  | text (quoted : Bool)
  | escaped (quoted : Bool)
  | verbatim
  | name (quoted : Bool) (read : List Char)
  | braces (quoted : Bool) (read : List Char)
  | ended
  | comment
deriving Repr, DecidableEq

def escape? : Char → Option Char
  | '\\' => some '\\'
  | '\'' => some '\''
  | '"' => some '"'
  | '$' => some '$'
  | ' ' => some ' '
  | 'n' => some '\n'
  | _ => none

/-- The text that a character adds and the next place; nothing if it may not stand here. What ends
the name of a variable stands for itself, a quote too. -/
def step (vars : Variables) (place : Place) (c : Char) : Option (List Char × Place) :=
  match place with
  | .text quoted =>
    if c = '$' then some ([], .name quoted [])
    else if c = '\\' then some ([], .escaped quoted)
    else if c = '"' then some ([], .text (!quoted))
    else if quoted then some ([c], place)
    else if c = '\'' then some ([], .verbatim)
    else if c = ' ' || c = '\t' then some ([], .ended)
    else some ([c], place)
  | .escaped quoted => (escape? c).map fun image => ([image], .text quoted)
  | .verbatim => if c = '\'' then some ([], .text false) else some ([c], place)
  | .name quoted read =>
    if CharProperty.alphanumeric.contains c.toNat then some ([], .name quoted (read ++ [c]))
    else if c = '\x7b' && read.isEmpty then some ([], .braces quoted [])
    else if c = '$' then some (vars.textOf read, .name quoted [])
    else some (vars.textOf read ++ [c], .text quoted)
  | .braces quoted read =>
    if c = '\x7d' then some (vars.textOf read, .text quoted)
    else some ([], .braces quoted (read ++ [c]))
  | .ended =>
    if c = ' ' || c = '\t' then some ([], .ended)
    else if c = '#' then some ([], .comment)
    else none
  | .comment => some ([], .comment)

/-- What the end of the line adds; quotes and braces must be closed by then. -/
def atEnd (vars : Variables) : Place → Option (List Char)
  | .text false => some []
  | .escaped false => some []
  | .name false read => some (vars.textOf read)
  | .ended => some []
  | .comment => some []
  | _ => none

def valueFrom (vars : Variables) (place : Place) : List Char → Option (List Char)
  | [] => atEnd vars place
  | c :: rest =>
    match step vars place c with
    | some (added, next) => (valueFrom vars next rest).map (added ++ ·)
    | none => none

/-- The value that the rest of a line spells. -/
def value? (vars : Variables) (cs : List Char) : Option String :=
  (valueFrom vars (if cs.head? = some '#' then .comment else .text false) cs).map String.ofList

def isNameStart (c : Char) : Bool := c.isAlpha || c = '_'

def isNameChar (c : Char) : Bool := c.isAlphanum || c = '_' || c = '.'

/-- A name and what follows it and blanks. -/
def name? (cs : List Char) : Option (String × List Char) :=
  match cs with
  | c :: _ =>
    if isNameStart c then
      some (String.ofList (cs.takeWhile isNameChar),
        Blank.trimStartChars (cs.dropWhile isNameChar))
    else none
  | [] => none

/-- What follows the equals sign and blanks. -/
def afterEquals? : List Char → Option (List Char)
  | '=' :: rest => some (Blank.trimStartChars rest)
  | _ => none

/-- The name of an assignment and its spelled value. The word `export` may stand in front; it is a
name itself if an equals sign follows. -/
def assignment? (cs : List Char) : Option (String × List Char) := do
  let (name, rest) ← name? cs
  match afterEquals? rest with
  | some value => return (name, value)
  | none =>
    guard (name = "export")
    let (name, rest) ← name? rest
    return (name, ← afterEquals? rest)

/-- The variables after a line; nothing if it is no line of such a file. -/
def afterLine? (vars : Variables) (line : List Char) : Option Variables :=
  match Blank.trimChars line with
  | [] => some vars
  | '#' :: _ => some vars
  | cs => do
    let (name, spelled) ← assignment? cs
    return vars.define name (← value? vars spelled)

/-- The variables after the lines up to the first that is none. -/
def afterLines (vars : Variables) : List (List Nat) → Variables
  | [] => vars
  | bytes :: rest =>
    match (Utf8.decode? bytes).bind fun s => afterLine? vars s.toList with
    | some vars => afterLines vars rest
    | none => vars

/-- The variables after the file with the given bytes. -/
def load (vars : Variables) (bytes : List Nat) : Variables :=
  afterLines vars (cut '\n'.toNat bytes)

end EnvFile

end CloudThreat
