namespace CloudThreat.Utf8

/-- A character begun: how many bytes it still takes, its value so far, and the range of the next
byte. Nothing is begun when it takes none. -/
structure Begun where
  missing : Nat
  value : Nat
  low : Nat
  high : Nat

def Begun.nothing : Begun := ⟨0, 0, 0, 0⟩

/-- What a byte says where a character may begin. Overlong forms, surrogates and code points beyond
the last plane are ruled out by the range of the second byte. -/
inductive Opening where
  | whole (c : Char)
  | lead (begun : Begun)
  | fault

def opening (b : Nat) : Opening :=
  if b < 0x80 then .whole (Char.ofNat b)
  else if b < 0xC2 then .fault
  else if b < 0xE0 then .lead ⟨1, b - 0xC0, 0x80, 0xBF⟩
  else if b < 0xF0 then
    .lead ⟨2, b - 0xE0, if b = 0xE0 then 0xA0 else 0x80, if b = 0xED then 0x9F else 0xBF⟩
  else if b < 0xF5 then
    .lead ⟨3, b - 0xF0, if b = 0xF0 then 0x90 else 0x80, if b = 0xF4 then 0x8F else 0xBF⟩
  else .fault

/-- Each character in turn, nothing standing for each fault. -/
def decodeFrom (begun : Begun) : List Nat → List (Option Char)
  | [] => if begun.missing = 0 then [] else [none]
  | b :: rest =>
    if begun.missing ≠ 0 && begun.low ≤ b && b ≤ begun.high then
      let value := begun.value * 0x40 + (b - 0x80)
      if begun.missing = 1 then some (Char.ofNat value) :: decodeFrom .nothing rest
      else decodeFrom ⟨begun.missing - 1, value, 0x80, 0xBF⟩ rest
    else
      let next :=
        match opening b with
        | .whole c => some c :: decodeFrom .nothing rest
        | .lead p => decodeFrom p rest
        | .fault => none :: decodeFrom .nothing rest
      if begun.missing = 0 then next else none :: next

/-- The text of the bytes, if they are all characters. -/
def decode? (bytes : List Nat) : Option String :=
  ((decodeFrom .nothing bytes).mapM id).map String.ofList

/-- The text of the bytes with the replacement character for each fault. -/
def decodeReplacing (bytes : List Nat) : String :=
  String.ofList ((decodeFrom .nothing bytes).map (·.getD '\uFFFD'))

/-- The bytes of a text. -/
def encode (s : String) : List Nat :=
  s.toUTF8.toList.map UInt8.toNat

end CloudThreat.Utf8
