import DocQuery.Unicode.Age
import DocQuery.Unicode.BinaryProperty
import DocQuery.Unicode.Division
import DocQuery.Unicode.GeneralCategory
import DocQuery.Unicode.Script
import DocQuery.Unicode.WhiteSpace
/-!
Properties of characters that have a name. A property is named alone, as a category, a script or a
property that a character either has or lacks, or it is a value of the general category, the
script, the script extensions, the age or a part in the division of texts. Names match loosely: a
leading `is`, blanks, hyphens, underscores and the case of letters do not count, and neither do
characters beyond ASCII.
-/
namespace DocQuery.Unicode

inductive Property where
  | any
  | ascii
  | assigned
  | category (among : List GeneralCategory)
  | script (number : Nat)
  | usedWith (script : Nat)
  | assignedBy (version : Nat)
  | binary (property : BinaryProperty)
  | playsPart (division : Division) (part : Nat)
deriving DecidableEq

namespace Property

def holds : Property → Char → Bool
  | any, _ => true
  | ascii, c => decide (c.toNat < 128)
  | assigned, c => GeneralCategory.of c != .cn
  | category among, c => among.contains (GeneralCategory.of c)
  | script number, c => Unicode.script c == number
  | usedWith number, c => (scriptExtensions c).contains number
  | assignedBy version, c => decide (age c ≤ version)
  | binary property, c => property.holds c
  | playsPart division part, c => division.part c == part

/-- The number of runs that the tables of the property have. -/
def runs : Property → Nat
  | any | ascii => 1
  | assigned | category _ => GeneralCategory.partition.starts.size / 5
  | script _ | usedWith _ => 16
  | assignedBy _ => agePartition.starts.size / 4
  | binary property => property.partition.starts.size / 2
  | playsPart division _ => division.partition.starts.size / 8

/-- What loose matching leaves of a name. The abbreviation of one property, `isc`, keeps its `is`. -/
def looseName (name : List Char) : String :=
  let headed := (name.take 2).map Char.toLower == ['i', 's']
  let body := if headed then name.drop 2 else name
  let kept := (body.filter fun c =>
    c != ' ' && c != '_' && c != '-' && decide (c.toNat < 128)).map Char.toLower
  String.ofList (if headed && kept == ['c'] then ['i', 's', 'c'] else kept)

def generalCategory? (name : String) : Option Property :=
  if name = "any" then some any
  else if name = "ascii" then some ascii
  else if name = "assigned" then some assigned
  else (GeneralCategory.named? name).map category

/-- The names that are a category or a group of categories although some property has them too. -/
def ambiguousNames : List String := ["cf", "sc", "lc"]

def ofName? (name : List Char) : Option Property :=
  let name := looseName name
  let asBinary := if ambiguousNames.contains name then none else BinaryProperty.named? name
  match asBinary with
  | some property => some (binary property)
  | none =>
    match generalCategory? name with
    | some property => some property
    | none => (script? name).map script

def ofValue? (name value : List Char) : Option Property :=
  let name := looseName name
  let value := looseName value
  if name = "gc" ∨ name = "generalcategory" then generalCategory? value
  else if name = "sc" ∨ name = "script" then (script? value).map script
  else if name = "scx" ∨ name = "scriptextensions" then (script? value).map usedWith
  else if name = "age" then (age? value).map assignedBy
  else do
    let division ← Division.ofName? name
    (division.part? value).map (playsPart division)

end Property

def isDecimalDigit (c : Char) : Bool := GeneralCategory.of c == .nd

def isAlphabetic (c : Char) : Bool := BinaryProperty.alphabetic.holds c

def isAlphanumeric (c : Char) : Bool :=
  isAlphabetic c || [.nd, .nl, .no].contains (GeneralCategory.of c)

def isWordCharacter (c : Char) : Bool :=
  isAlphabetic c || BinaryProperty.joinControl.holds c ||
    [.mn, .mc, .me, .nd, .pc].contains (GeneralCategory.of c)

end DocQuery.Unicode
