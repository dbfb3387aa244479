import CloudThreat.CharProperty

namespace CloudThreat

/-- A point between two characters of a text: the character before it and all that follows. -/
structure Place where
  before : Option Char
  rest : List Char
deriving Repr, DecidableEq

namespace Place

/-- All points of a text, from its beginning on. -/
def allFrom (before : Option Char) : List Char → List Place
  | [] => [⟨before, []⟩]
  | c :: rest => ⟨before, c :: rest⟩ :: allFrom (some c) rest

def all (cs : List Char) : List Place :=
  allFrom none cs

def next (p : Place) : Option Char :=
  p.rest.head?

/-- Points of one text are told apart by how much follows. -/
def addNew (places : List Place) (p : Place) : List Place :=
  if places.any fun q => q.rest.length == p.rest.length then places else p :: places

def merge (a b : List Place) : List Place :=
  b.foldl addNew a

end Place

/-- Which characters count as parts of words. -/
inductive WordKind where
  | unicode
  | ascii
deriving Repr, DecidableEq

/-- The condition on the two sides of a point that a word boundary puts. -/
inductive Boundary where
  | either
  | neither
  | start
  | finish
  | startHalf
  | finishHalf
deriving Repr, DecidableEq

inductive Assertion where
  | textStart
  | textEnd
  | lineStart
  | lineEnd
  /-- Lines that end in a carriage return, a line feed or both. -/
  | returnLineStart
  | returnLineEnd
  | wordBoundary (kind : WordKind) (boundary : Boundary)
deriving Repr, DecidableEq

namespace WordKind

def contains (k : WordKind) (c : Char) : Bool :=
  match k with
  | unicode => CharProperty.word.contains c.toNat
  | ascii => c.isAlphanum || c = '_'

end WordKind

namespace Boundary

def holds (b : Boundary) (before after : Bool) : Bool :=
  match b with
  | either => before != after
  | neither => before == after
  | start => !before && after
  | finish => before && !after
  | startHalf => !before
  | finishHalf => !after

end Boundary

namespace Assertion

def holds (a : Assertion) (p : Place) : Bool :=
  match a with
  | textStart => p.before.isNone
  | textEnd => p.rest.isEmpty
  | lineStart => p.before.isNone || p.before = some '\n'
  | lineEnd => p.rest.isEmpty || p.next = some '\n'
  | returnLineStart =>
    p.before.isNone || p.before = some '\n' || (p.before = some '\r' && p.next ≠ some '\n')
  | returnLineEnd =>
    p.rest.isEmpty || p.next = some '\r' || (p.next = some '\n' && p.before ≠ some '\r')
  | wordBoundary kind boundary =>
    boundary.holds (p.before.any kind.contains) (p.next.any kind.contains)

end Assertion

inductive Pattern where
  | empty
  | set (s : CharSet)
  | assertion (a : Assertion)
  | seq (p q : Pattern)
  | alt (p q : Pattern)
  /-- From `least` to `most` times; without a bound when there is no `most`. -/
  | repeated (p : Pattern) (least : Nat) (most : Option Nat)
deriving Repr, DecidableEq, Inhabited

namespace Pattern

/-- Apply a step a number of times, giving up when nothing is left. -/
def iterate (step : List Place → List Place) : Nat → List Place → List Place
  | 0, places => places
  | n + 1, places => if places.isEmpty then [] else iterate step n (step places)

/-- All places reached in at most a number of steps; `fresh` are those just reached. -/
def spread (step : List Place → List Place) : Nat → List Place → List Place → List Place
  | 0, reached, _ => reached
  | n + 1, reached, fresh =>
    let new := (step fresh).filter fun p =>
      !reached.any fun q => q.rest.length == p.rest.length
    if new.isEmpty then reached else spread step n (new ++ reached) new

/-- More steps than this reach nothing new. -/
def stepBound (places : List Place) : Nat :=
  places.foldl (fun n p => max n p.rest.length) 0 + 1

/-- The places where a match ends that began at one of the given ones. -/
def ends : Pattern → List Place → List Place
  | empty, places => places
  | set s, places =>
    places.filterMap fun p =>
      match p.rest with
      | c :: rest => if s.contains c.toNat then some ⟨some c, rest⟩ else none
      | [] => none
  | assertion a, places => places.filter a.holds
  | seq p q, places => ends q (ends p places)
  | alt p q, places => Place.merge (ends p places) (ends q places)
  | repeated p least most, places =>
    let start := iterate (ends p) least places
    let bound := stepBound start
    spread (ends p) (match most with | some m => min bound (m - least) | none => bound) start start

/-- Does the pattern match some part of the text? -/
def matchesIn (p : Pattern) (text : String) : Bool :=
  !(p.ends (Place.all text.toList)).isEmpty

end Pattern

end CloudThreat
