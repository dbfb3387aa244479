namespace CloudThreat

/-- The second half of a type, parted at the last plus sign in it. Letters are small. -/
structure MediaType where
  subtype : List Char
  suffix : Option (List Char)
deriving Repr, DecidableEq

namespace MediaType

def isToken (c : Char) : Bool :=
  c.isAlphanum || "!#$%&'*+-.^_`|~".toList.contains c

/-- What may stand between quotes. -/
def isQuotable (c : Char) : Bool :=
  ' ' ≤ c && c.toNat < 0x7F

/-- Where in the parameters the next character stands. -/
inductive Place where
  | start
  | name
  | valueStart
  | value
  | quotedStart
  | quoted
  | afterQuotes
deriving Repr, DecidableEq

/-- The place after a character; nothing if it may not stand here. Quotes with nothing between them
are still open. -/
def step : Place → Char → Option Place
  | .start, c => if c = ' ' then some .start else if isToken c then some .name else none
  | .name, c => if c = '=' then some .valueStart else if isToken c then some .name else none
  | .valueStart, c =>
    if c = '"' then some .quotedStart else if isToken c then some .value else none
  | .value, c => if c = ';' then some .start else if isToken c then some .value else none
  | .quotedStart, c => if isQuotable c then some .quoted else none
  | .quoted, c =>
    if c = '"' then some .afterQuotes else if isQuotable c then some .quoted else none
  | .afterQuotes, c => if c = ';' then some .start else if c = ' ' then some .afterQuotes else none

def mayEnd : Place → Bool
  | .start => true
  | .valueStart => true
  | .value => true
  | .afterQuotes => true
  | _ => false

/-- Are these parameters, as they follow the first semicolon? -/
def areParameters (cs : List Char) : Bool :=
  match cs.foldlM step .start with
  | some place => mayEnd place
  | none => false

/-- Part a subtype at its last plus sign that does not begin it. -/
def partAtPlus (cs : List Char) : MediaType :=
  let tail := cs.reverse.takeWhile (· ≠ '+')
  let front := cs.take (cs.length - tail.length - 1)
  if front.isEmpty then ⟨cs, none⟩ else ⟨front, some tail.reverse⟩

/-- The media type that a text spells. -/
def ofText? (s : String) : Option MediaType :=
  let cs := s.toList.map Char.toLower
  match cs.dropWhile isToken with
  | '/' :: rest =>
    let subtype := rest.takeWhile isToken
    let valid :=
      match rest.dropWhile isToken with
      | [] => true
      | ';' :: parameters => !subtype.isEmpty && areParameters parameters
      | _ => false
    if (cs.takeWhile isToken).isEmpty || !valid then none else some (partAtPlus subtype)
  | _ => none

def isJson (m : MediaType) : Bool :=
  m.subtype = "json".toList || m.suffix = some "json".toList

end MediaType

end CloudThreat
