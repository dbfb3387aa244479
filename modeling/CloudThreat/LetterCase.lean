import CloudThreat.CodeRange
import CloudThreat.LetterCaseData

namespace CloudThreat.LetterCase

/-- Every `stride`-th code point from `first` to `last` has its image at a fixed distance. -/
structure Run where
  first : Nat
  last : Nat
  stride : Nat
  up : Bool
  distance : Nat
deriving Repr

namespace Run

def contains (r : Run) (code : Nat) : Bool :=
  r.first ≤ code && code ≤ r.last && (code - r.first) % r.stride = 0

def apply (r : Run) (code : Nat) : Nat :=
  if r.up then code + r.distance else code - r.distance

/-- A word such as `100-12E/2+1`. -/
def ofWord (w : List Char) : Run :=
  let up := w.contains '+'
  let mark := if up then '+' else '~'
  let codes := w.takeWhile (· ≠ mark)
  let distance := CodeRange.hexNumber ((w.dropWhile (· ≠ mark)).drop 1)
  let range := CodeRange.ofWord (codes.takeWhile (· ≠ '/'))
  ⟨range.first, range.last, if codes.contains '/' then 2 else 1, up, distance⟩

def ofLines (lines : List String) : List Run :=
  lines.flatMap fun s => (cut ' ' s.toList).map ofWord

end Run

/-- Code points between points, as in `69.307`. -/
def codes (w : List Char) : List Nat :=
  (cut '.' w).map CodeRange.hexNumber

/-- Words such as `130=69.307`: a code point and what it becomes. -/
def sequences (lines : List String) : List (Nat × List Nat) :=
  lines.flatMap fun s => (cut ' ' s.toList).map fun w =>
    (CodeRange.hexNumber (w.takeWhile (· ≠ '=')), codes ((w.dropWhile (· ≠ '=')).drop 1))

/-- One direction of case mapping. -/
structure Mapping where
  runs : List Run
  sequences : List (Nat × List Nat)

def lowerMapping : Mapping :=
  ⟨Run.ofLines LetterCaseData.lowerRuns, sequences LetterCaseData.lowerSequences⟩

def upperMapping : Mapping :=
  ⟨Run.ofLines LetterCaseData.upperRuns, sequences LetterCaseData.upperSequences⟩

def Mapping.apply (m : Mapping) (c : Char) : List Char :=
  match m.sequences.lookup c.toNat with
  | some image => image.map Char.ofNat
  | none =>
    match m.runs.find? (·.contains c.toNat) with
    | some r => [Char.ofNat (r.apply c.toNat)]
    | none => [c]

/-- The lower case of one character on its own. -/
def lowerOf (c : Char) : List Char :=
  if c.toNat < 0x80 then [c.toLower] else lowerMapping.apply c

def upperOf (c : Char) : List Char :=
  if c.toNat < 0x80 then [c.toUpper] else upperMapping.apply c

def casedRanges : List CodeRange := CodeRange.ofLines LetterCaseData.cased

def ignorableRanges : List CodeRange := CodeRange.ofLines LetterCaseData.caseIgnorable

/-- Does a cased letter come next, after characters that case ignores? -/
def casedNext (cs : List Char) : Bool :=
  match cs.dropWhile fun c => inRanges ignorableRanges c.toNat with
  | c :: _ => inRanges casedRanges c.toNat
  | [] => false

/-- Lower case of the rest of a text; `before` is what precedes it, last character first. -/
def lowerFrom (before : List Char) : List Char → List Char
  | [] => []
  | c :: rest =>
    let image :=
      if c = 'Σ' then if casedNext before && !casedNext rest then ['ς'] else ['σ']
      else lowerOf c
    image ++ lowerFrom (c :: before) rest

def lower (s : String) : String :=
  String.ofList (lowerFrom [] s.toList)

def upper (s : String) : String :=
  String.ofList (s.toList.flatMap upperOf)

/-- Equality of texts up to the case of ASCII letters. -/
def equalAscii (s t : String) : Bool :=
  s.toList.map Char.toLower == t.toList.map Char.toLower

def foldPairs : List Run := Run.ofLines LetterCaseData.foldPairs

def foldGroups : List (List Nat) :=
  LetterCaseData.foldGroups.flatMap fun s => (cut ' ' s.toList).map codes

/-- The code points that differ from one in case only, itself among them. -/
def caseVariants (code : Nat) : List Nat :=
  match foldGroups.find? (·.contains code) with
  | some group => group
  | none =>
    match foldPairs.find? (·.contains code) with
    | some r => [code, r.apply code]
    | none =>
      match foldPairs.find? fun r => r.distance ≤ code && r.contains (code - r.distance) with
      | some r => [code, code - r.distance]
      | none => [code]

end CloudThreat.LetterCase
