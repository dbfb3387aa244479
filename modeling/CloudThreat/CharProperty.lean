import CloudThreat.Blank
import CloudThreat.CharPropertyData
import CloudThreat.CharSet
import CloudThreat.ScriptData

namespace CloudThreat.CharProperty

def ofData (lines : List String) : CharSet :=
  .ranges (CodeRange.ofLines lines)

/-- The general categories by their short names; the unassigned code points are all others. -/
def categoryData : List (String × String × CharSet) := [
  ("lu", "uppercaseletter", ofData CharPropertyData.categoryLu),
  ("ll", "lowercaseletter", ofData CharPropertyData.categoryLl),
  ("lt", "titlecaseletter", ofData CharPropertyData.categoryLt),
  ("lm", "modifierletter", ofData CharPropertyData.categoryLm),
  ("lo", "otherletter", ofData CharPropertyData.categoryLo),
  ("mn", "nonspacingmark", ofData CharPropertyData.categoryMn),
  ("mc", "spacingmark", ofData CharPropertyData.categoryMc),
  ("me", "enclosingmark", ofData CharPropertyData.categoryMe),
  ("nd", "decimalnumber", ofData CharPropertyData.categoryNd),
  ("nl", "letternumber", ofData CharPropertyData.categoryNl),
  ("no", "othernumber", ofData CharPropertyData.categoryNo),
  ("pc", "connectorpunctuation", ofData CharPropertyData.categoryPc),
  ("pd", "dashpunctuation", ofData CharPropertyData.categoryPd),
  ("ps", "openpunctuation", ofData CharPropertyData.categoryPs),
  ("pe", "closepunctuation", ofData CharPropertyData.categoryPe),
  ("pi", "initialpunctuation", ofData CharPropertyData.categoryPi),
  ("pf", "finalpunctuation", ofData CharPropertyData.categoryPf),
  ("po", "otherpunctuation", ofData CharPropertyData.categoryPo),
  ("sm", "mathsymbol", ofData CharPropertyData.categorySm),
  ("sc", "currencysymbol", ofData CharPropertyData.categorySc),
  ("sk", "modifiersymbol", ofData CharPropertyData.categorySk),
  ("so", "othersymbol", ofData CharPropertyData.categorySo),
  ("zs", "spaceseparator", ofData CharPropertyData.categoryZs),
  ("zl", "lineseparator", ofData CharPropertyData.categoryZl),
  ("zp", "paragraphseparator", ofData CharPropertyData.categoryZp),
  ("cc", "control", ofData CharPropertyData.categoryCc),
  ("cf", "format", ofData CharPropertyData.categoryCf),
  ("co", "privateuse", ofData CharPropertyData.categoryCo),
  ("cs", "surrogate", .none)]

def assigned : CharSet :=
  .union (categoryData.map (·.2.2))

def unassigned : CharSet :=
  .negated assigned

/-- The categories that have a further name. -/
def categoryAliases : List (String × String) := [
  ("digit", "nd"), ("cntrl", "cc"), ("punct", "p"), ("combiningmark", "m"),
  ("cn", "unassigned")]

/-- Groups of categories: both names and the short names of the members. -/
def categoryGroups : List (String × String × List String) := [
  ("l", "letter", ["lu", "ll", "lt", "lm", "lo"]),
  ("lc", "casedletter", ["lu", "ll", "lt"]),
  ("m", "mark", ["mn", "mc", "me"]),
  ("n", "number", ["nd", "nl", "no"]),
  ("p", "punctuation", ["pc", "pd", "ps", "pe", "pi", "pf", "po"]),
  ("s", "symbol", ["sm", "sc", "sk", "so"]),
  ("z", "separator", ["zs", "zl", "zp"])]

/-- The union of some categories, given by their short names. -/
def ofCategories (names : List String) : CharSet :=
  .union ((categoryData.filter fun c => names.contains c.1).map (·.2.2))

def category? (name : String) : Option CharSet :=
  let name := (categoryAliases.lookup name).getD name
  match categoryData.find? fun c => c.1 == name || c.2.1 == name with
  | some c => some c.2.2
  | none =>
    match categoryGroups.find? fun g => g.1 == name || g.2.1 == name with
    | some g => some (ofCategories g.2.2)
    | none =>
      match name with
      | "unassigned" => some unassigned
      | "c" | "other" => some (.either (ofCategories ["cc", "cf", "co"]) unassigned)
      | "any" => some .any
      | "assigned" => some assigned
      | "ascii" => some (.ranges [⟨0, 0x7F⟩])
      | _ => none

def script? (name : String) : Option CharSet :=
  (ScriptData.scripts.find? fun s => s.1.contains name).map fun s => ofData s.2

def alphabetic : CharSet := ofData CharPropertyData.alphabetic

def lowercase : CharSet := ofData CharPropertyData.lowercase

def uppercase : CharSet := ofData CharPropertyData.uppercase

def whiteSpace : CharSet := .ranges blankRanges

def decimal : CharSet := ofData CharPropertyData.categoryNd

def alphanumeric : CharSet := .either alphabetic (ofCategories ["nd", "nl", "no"])

/-- Alphabetic characters, marks, decimal digits, connectors and the two join controls. -/
def word : CharSet :=
  .union [alphabetic, ofCategories ["mn", "mc", "me", "nd", "pc"], .ranges [⟨0x200C, 0x200D⟩]]

def graphemeExtend : CharSet := ofData CharPropertyData.graphemeExtend

/-- Controls, formats, private and unassigned code points, and separators other than the blank. -/
def unprintable : CharSet :=
  .less (.either (ofCategories ["cc", "cf", "co", "zs", "zl", "zp"]) unassigned) (.single ' ')

/-- The binary properties that can be asked for by name. -/
def properties : List (List String × CharSet) := [
  (["alpha", "alphabetic"], alphabetic),
  (["lower", "lowercase"], lowercase),
  (["upper", "uppercase"], uppercase),
  (["wspace", "space", "whitespace"], whiteSpace),
  (["hex", "hexdigit"], ofData CharPropertyData.hexDigit),
  (["ahex", "asciihexdigit"], ofData CharPropertyData.asciiHexDigit),
  (["dash"], ofData CharPropertyData.dash),
  (["math"], ofData CharPropertyData.math),
  (["ideo", "ideographic"], ofData CharPropertyData.ideographic),
  (["emoji"], ofData CharPropertyData.emoji),
  (["grext", "graphemeextend"], graphemeExtend)]

def property? (name : String) : Option CharSet :=
  (properties.find? fun p => p.1.contains name).map (·.2)

/-- A name without what does not tell names apart. -/
def simplified (cs : List Char) : String :=
  let plain := (cs.map Char.toLower).filter fun c =>
    c.toNat < 0x80 && c ≠ ' ' && c ≠ '_' && c ≠ '-'
  match cs.map Char.toLower with
  | 'i' :: 's' :: _ =>
    if plain = ['i', 's', 'c'] then "isc" else String.ofList (plain.drop 2)
  | _ => String.ofList plain

/-- A property, a category or a script, whichever has the name. -/
def named? (cs : List Char) : Option CharSet :=
  let name := simplified cs
  match property? name with
  | some set => some set
  | none =>
    match category? name with
    | some set => some set
    | none => script? name

/-- A value of one of the properties that have named values. -/
def valued? (property value : List Char) : Option CharSet :=
  match simplified property with
  | "gc" | "generalcategory" => category? (simplified value)
  | "sc" | "script" => script? (simplified value)
  | _ => none

end CloudThreat.CharProperty
