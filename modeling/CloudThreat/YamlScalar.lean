import CloudThreat.Hexadecimal
import CloudThreat.YamlCursor

namespace CloudThreat.YamlScalar

/-- What lies between two words of a scalar. -/
structure Gap where
  /-- Was there a line break? -/
  broken : Bool
  blanks : List Char
  firstBreak : List Char
  moreBreaks : List Char

namespace Gap

def none : Gap := ⟨false, [], [], []⟩

/-- The gap after an escaped line break, which counts as no break of its own. -/
def escaped : Gap := ⟨true, [], [], []⟩

/-- What the gap adds to the value. -/
def text (g : Gap) : List Char :=
  if !g.broken then g.blanks
  else if g.firstBreak = ['\n'] then
    if g.moreBreaks.isEmpty then [' '] else g.moreBreaks
  else g.firstBreak ++ g.moreBreaks

/-- Extend a gap as far as it goes. In lines after the first no tab may stand left of `indent`. -/
def extend (indent : Nat) : Nat → Gap → YamlCursor → Option (Gap × YamlCursor)
  | 0, g, c => some (g, c)
  | fuel + 1, g, c =>
    match c.rest with
    | x :: _ =>
      if YamlCursor.isGap x then
        if g.broken && x = '\t' && c.column < indent then Option.none
        else
          let g := if g.broken then g else { g with blanks := g.blanks ++ [x] }
          extend indent fuel g (c.skip 1)
      else if YamlCursor.isBreak x then
        let (b, c) := c.takeBreak
        if g.broken then extend indent fuel { g with moreBreaks := g.moreBreaks ++ b } c
        else extend indent fuel ⟨true, [], b, []⟩ c
      else some (g, c)
    | [] => some (g, c)

end Gap

def gapFrom (indent : Nat) (g : Gap) (c : YamlCursor) : Option (Gap × YamlCursor) :=
  g.extend indent c.rest.length c

def isFlowMark (x : Char) : Bool :=
  x = ',' || x = '[' || x = ']' || x = '\x7b' || x = '\x7d'

/-- The characters of a plain scalar up to a gap or a mark that ends it. Inside brackets a colon
must not stand before a mark. -/
def plainWord (inFlow : Bool) : List Char → Option (List Char)
  | [] => some []
  | x :: rest =>
    let next := rest.head?
    if YamlCursor.isGap x || YamlCursor.isBreak x then some []
    else if inFlow && x = ':' && next.any (fun y => y = '?' || isFlowMark y) then none
    else if x = ':' && (next.all fun y => YamlCursor.isGap y || YamlCursor.isBreak y) then some []
    else if inFlow && isFlowMark x then some []
    else (plainWord inFlow rest).map (x :: ·)

/-- A plain scalar: its value, whether a line break follows it, and the place where it ends. `text`
is the value so far and `gap` what lies after it. -/
def plainFrom (inFlow : Bool) (indent : Nat) :
    Nat → List Char → Gap → YamlCursor → Option (List Char × Bool × YamlCursor)
  | 0, text, gap, c => some (text, gap.broken, c)
  | fuel + 1, text, gap, c =>
    if c.marksDocument || c.isAt '#' then some (text, gap.broken, c)
    else
      match plainWord inFlow c.rest with
      | none => none
      | some word =>
        let c := c.skip word.length
        let (text, gap) := if word.isEmpty then (text, gap) else (text ++ gap.text ++ word, .none)
        if c.sees fun x => YamlCursor.isGap x || YamlCursor.isBreak x then
          match gapFrom indent .none c with
          | none => none
          | some (gap, c) =>
            if !inFlow && c.column < indent then some (text, gap.broken, c)
            else plainFrom inFlow indent fuel text gap c
        else some (text, gap.broken, c)

def plain (inFlow : Bool) (indent : Nat) (c : YamlCursor) :
    Option (List Char × Bool × YamlCursor) :=
  plainFrom inFlow indent (c.rest.length + 1) [] .none c

/-- Escapes of one letter in double quotes. -/
def escapes : List (Char × Char) := [
  ('0', '\x00'), ('a', '\x07'), ('b', '\x08'), ('t', '\t'), ('\t', '\t'), ('n', '\n'),
  ('v', '\x0b'), ('f', '\x0c'), ('r', '\r'), ('e', '\x1b'), (' ', ' '), ('"', '"'), ('/', '/'),
  ('\\', '\\'), ('N', '\x85'), ('_', '\xa0'), ('L', '\u2028'), ('P', '\u2029')]

/-- The character of a code with a number of hexadecimal digits. -/
def codeEscape (width : Nat) (cs : List Char) : Option Char := do
  let digits := cs.take width
  if digits.length < width then none
  else
    let code ← Hexadecimal.number? digits
    if code.isValidChar then some (Char.ofNat code) else none

def escapeWidth (c : Char) : Option Nat :=
  match c with
  | 'x' => some 2
  | 'u' => some 4
  | 'U' => some 8
  | _ => none

/-- The characters of a quoted scalar up to a gap or its closing quote, last one first, and whether
a line break was escaped at their end. -/
def quotedWord (single : Bool) :
    Nat → List Char → YamlCursor → Option (List Char × Bool × YamlCursor)
  | 0, text, c => some (text, false, c)
  | fuel + 1, text, c =>
    match c.rest with
    | [] => some (text, false, c)
    | x :: rest =>
      if YamlCursor.isGap x || YamlCursor.isBreak x then some (text, false, c)
      else if single then
        if x = '\'' then
          if rest.head? = some '\'' then quotedWord single fuel ('\'' :: text) (c.skip 2)
          else some (text, false, c)
        else quotedWord single fuel (x :: text) (c.skip 1)
      else if x = '"' then some (text, false, c)
      else if x = '\\' then
        match rest with
        | [] => none
        | y :: after =>
          if YamlCursor.isBreak y then some (text, true, (c.skip 1).takeBreak.2)
          else
            match escapeWidth y with
            | some width =>
              match codeEscape width after with
              | some z => quotedWord single fuel (z :: text) (c.skip (2 + width))
              | none => none
            | none =>
              match escapes.lookup y with
              | some z => quotedWord single fuel (z :: text) (c.skip 2)
              | none => none
      else quotedWord single fuel (x :: text) (c.skip 1)

/-- A quoted scalar after its opening quote; `text` is the value so far. -/
def quotedFrom (single : Bool) : Nat → List Char → YamlCursor → Option (List Char × YamlCursor)
  | 0, _, _ => none
  | fuel + 1, text, c =>
    if c.marksDocument || c.rest.isEmpty then none
    else
      match quotedWord single c.rest.length [] c with
      | none => none
      | some (word, escaped, c) =>
        let text := text ++ word.reverse
        if c.isAt (if single then '\'' else '"') then some (text, c.skip 1)
        else
          match gapFrom 0 (if escaped then .escaped else .none) c with
          | none => none
          | some (gap, c) => quotedFrom single fuel (text ++ gap.text) c

def quoted (single : Bool) (c : YamlCursor) : Option (List Char × YamlCursor) :=
  quotedFrom single (c.rest.length + 1) [] (c.skip 1)

/-- What becomes of the line breaks at the end of a block scalar. -/
inductive Chomping where
  | strip
  | clip
  | keep

/-- The signs after the mark of a block scalar: its chomping and its indentation, in either order. -/
def blockHeader (c : YamlCursor) : Option (Chomping × Option Nat × YamlCursor) :=
  let chomping (c : YamlCursor) : Option (Chomping × YamlCursor) :=
    if c.isAt '+' then some (.keep, c.skip 1)
    else if c.isAt '-' then some (.strip, c.skip 1)
    else none
  let increment (c : YamlCursor) : Option (Option Nat × YamlCursor) :=
    match c.rest with
    | x :: _ =>
      if x = '0' then none
      else if x.isDigit then some (some (x.toNat - '0'.toNat), c.skip 1)
      else some (none, c)
    | [] => some (none, c)
  match chomping c with
  | some (chomp, c) => (increment c).map fun (n, c) => (chomp, n, c)
  | none =>
    match increment c with
    | none => none
    | some (none, c) => some (.clip, none, c)
    | some (n, c) =>
      match chomping c with
      | some (chomp, c) => some (chomp, n, c)
      | none => some (.clip, n, c)

/-- The breaks of empty lines, up to a line with text: these breaks, and the widest indentation. A
known indentation is not passed, and no tab stands in it. -/
def blockBreaks (indent : Option Nat) :
    Nat → List Char → Nat → YamlCursor → Option (List Char × Nat × YamlCursor)
  | 0, breaks, widest, c => some (breaks, widest, c)
  | fuel + 1, breaks, widest, c =>
    let blanks := (c.rest.takeWhile (· = ' ')).length
    let c := c.skip (match indent with | some n => min blanks (n - c.column) | none => blanks)
    let widest := max widest c.column
    if c.isAt '\t' && indent.all (c.column < ·) then none
    else if c.sees YamlCursor.isBreak then
      let (b, c) := c.takeBreak
      blockBreaks indent fuel (breaks ++ b) widest c
    else some (breaks, widest, c)

/-- The lines of a block scalar. `lineBreak` ends the line before, `breaks` are the empty lines
since, and `wasIndented` tells whether that line began with a gap. -/
def blockLines (literal : Bool) (indent : Nat) :
    Nat → List Char → List Char → List Char → Bool → YamlCursor →
      Option (List Char × List Char × List Char × YamlCursor)
  | 0, text, lineBreak, breaks, _, c => some (text, lineBreak, breaks, c)
  | fuel + 1, text, lineBreak, breaks, wasIndented, c =>
    if c.column ≠ indent || c.rest.isEmpty then some (text, lineBreak, breaks, c)
    else
      let isIndented := c.sees YamlCursor.isGap
      let joint :=
        if !literal && lineBreak = ['\n'] && !wasIndented && !isIndented then
          if breaks.isEmpty then [' '] else []
        else lineBreak
      let (line, c) := c.takeWhile fun x => !YamlCursor.isBreak x
      let (lineBreak, c) := c.takeBreak
      match blockBreaks (some indent) (c.rest.length + 1) [] 0 c with
      | none => none
      | some (next, _, c) =>
        blockLines literal indent fuel (text ++ joint ++ breaks ++ line) lineBreak next isIndented c

/-- A block scalar; `outer` is the indentation around it, one more than its column. -/
def block (literal : Bool) (outer : Nat) (c : YamlCursor) : Option (List Char × YamlCursor) := do
  let (chomp, increment, c) ← blockHeader (c.skip 1)
  let c ← c.finishLine
  let known := increment.map fun n => (outer - 1) + n
  let (breaks, widest, c) ← blockBreaks known (c.rest.length + 1) [] 0 c
  let indent := known.getD (max (max widest outer) 1)
  let (text, lineBreak, breaks, c) ←
    blockLines literal indent (c.rest.length + 1) [] [] breaks false c
  match chomp with
  | .strip => some (text, c)
  | .clip => some (text ++ lineBreak, c)
  | .keep => some (text ++ lineBreak ++ breaks, c)

end CloudThreat.YamlScalar
