import CloudThreat.Cut
import CloudThreat.Hexadecimal
import CloudThreat.Utf8

namespace CloudThreat

namespace Percent

/-- The byte that three bytes stand for, if they are an escape of a byte that is not kept. -/
def escaped? (kept : List Char) (b h l : Nat) : Option Nat :=
  if b = '%'.toNat then
    (Hexadecimal.number? [Char.ofNat h, Char.ofNat l]).filter fun v =>
      !kept.any fun c => c.toNat = v
  else none

/-- Bytes with the escapes replaced, but for escapes of the kept ones. -/
def decodeBytes (kept : List Char) : List Nat → List Nat
  | [] => []
  | b :: h :: l :: after =>
    match escaped? kept b h l with
    | some v => v :: decodeBytes kept after
    | none => b :: decodeBytes kept (h :: l :: after)
  | b :: rest => b :: decodeBytes kept rest

/-- Bytes that are no characters become the replacement character. -/
def decode (kept : List Char) (s : String) : String :=
  Utf8.decodeReplacing (decodeBytes kept (Utf8.encode s))

end Percent

namespace Uri

/-- A target without the fragment that may follow it. -/
def withoutFragment (uri : String) : List Char :=
  uri.toList.takeWhile (· ≠ '#')

/-- The path for routing: an escaped slash, percent sign or plus sign is still escaped in it. -/
def path (uri : String) : String :=
  Percent.decode ['%', '/', '+'] (String.ofList ((withoutFragment uri).takeWhile (· ≠ '?')))

/-- A segment of the path as it is meant. -/
def segment (s : String) : String :=
  Percent.decode [] s

def query (uri : String) : List Char :=
  ((cutOnce? '?' (withoutFragment uri)).map (·.2)).getD []

/-- A part of a query as it is meant; a plus sign is a blank. -/
def queryPart (cs : List Char) : String :=
  Percent.decode [] (String.ofList (cs.map fun c => if c = '+' then ' ' else c))

/-- One field of a query; without an equals sign it is empty. -/
def queryField (cs : List Char) : String × String :=
  match cutOnce? '=' cs with
  | some (name, value) => (queryPart name, queryPart value)
  | none => (queryPart cs, "")

/-- The fields of the query, in order. -/
def queryFields (uri : String) : List (String × String) :=
  ((cut '&' (query uri)).filter fun cs => !cs.isEmpty).map queryField

end Uri

end CloudThreat
