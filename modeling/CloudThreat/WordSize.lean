namespace CloudThreat.WordSize

/-- The largest number of so many bits. -/
def maxUnsigned (bits : Nat) : Nat :=
  Nat.pow 2 bits - 1

def isUnsigned (bits : Nat) (i : Int) : Bool :=
  0 ≤ i && i ≤ (maxUnsigned bits : Int)

/-- One bit is for the sign, and there is one more number below zero than above. -/
def isSigned (bits : Nat) (i : Int) : Bool :=
  -(maxUnsigned (bits - 1) : Int) - 1 ≤ i && i ≤ (maxUnsigned (bits - 1) : Int)

/-- The sum of two words, unless it overflows. -/
def add? (a b : UInt64) : Option UInt64 :=
  if a.toNat + b.toNat ≤ maxUnsigned 64 then some (a + b) else none

/-- The sum of words, unless it overflows on the way. -/
def sum? (words : List UInt64) : Option UInt64 :=
  words.foldlM add? 0

end CloudThreat.WordSize
