import CloudThreat.CharProperty

namespace CloudThreat.Quoted

def hexDigits (n : Nat) : List Char :=
  Nat.toDigits 16 n

/-- Would the character be invisible, or join with what stands before it? -/
def isHidden (c : Char) : Bool :=
  CharProperty.graphemeExtend.contains c.toNat || CharProperty.unprintable.contains c.toNat

def escape (c : Char) : List Char :=
  match c with
  | '\x00' => ['\\', '0']
  | '\t' => ['\\', 't']
  | '\n' => ['\\', 'n']
  | '\r' => ['\\', 'r']
  | '"' => ['\\', '"']
  | '\\' => ['\\', '\\']
  | c =>
    if 0x20 ≤ c.toNat && c.toNat < 0x7F then [c]
    else if isHidden c then '\\' :: 'u' :: '\x7b' :: hexDigits c.toNat ++ ['\x7d']
    else [c]

def quote (s : String) : String :=
  String.ofList ('"' :: s.toList.flatMap escape ++ ['"'])

end CloudThreat.Quoted
