import CloudThreat.LetterCase

namespace CloudThreat

inductive CharSet where
  | ranges (rs : List CodeRange)
  | either (a b : CharSet)
  | both (a b : CharSet)
  | less (a b : CharSet)
  | oneOf (a b : CharSet)
  | negated (a : CharSet)
  /-- With all characters that differ in case only from one of the set. -/
  | caseless (a : CharSet)
  /-- The same for ASCII letters alone. -/
  | asciiCaseless (a : CharSet)
deriving Repr, DecidableEq, Inhabited

namespace CharSet

def none : CharSet := ranges []

def any : CharSet := negated none

def single (c : Char) : CharSet := ranges [⟨c.toNat, c.toNat⟩]

/-- The ASCII letters among the variants of a code point. -/
def asciiVariants (code : Nat) : List Nat :=
  let c := Char.ofNat code
  if c.isAlpha then [c.toLower.toNat, c.toUpper.toNat] else [code]

def contains : CharSet → Nat → Bool
  | ranges rs, code => inRanges rs code
  | either a b, code => a.contains code || b.contains code
  | both a b, code => a.contains code && b.contains code
  | less a b, code => a.contains code && !b.contains code
  | oneOf a b, code => a.contains code != b.contains code
  | negated a, code => !a.contains code
  | caseless a, code => (LetterCase.caseVariants code).any fun v => a.contains v
  | asciiCaseless a, code => (asciiVariants code).any fun v => a.contains v

def union (sets : List CharSet) : CharSet :=
  sets.foldr either none

/-- An upper estimate of the number of ranges of the set. -/
def rangeCount : CharSet → Nat
  | ranges rs => rs.length
  | either a b | both a b | less a b | oneOf a b => a.rangeCount + b.rangeCount
  | negated a => a.rangeCount + 1
  | caseless a => 2 * a.rangeCount
  | asciiCaseless a => 2 * a.rangeCount

end CharSet

end CloudThreat
