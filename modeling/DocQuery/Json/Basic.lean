import DocQuery.Number.Text
import DocQuery.Json.Quoted
/-!
JSON documents and their text, compact or indented by two blanks. Whole numbers are kept apart from
those that are written with a point or an exponent.
-/
namespace DocQuery

inductive Json where
  | null
  | bool (b : Bool)
  | integer (n : Int)
  | float (n : Number)
  | string (s : String)
  | array (items : List Json)
  | object (fields : List (String × Json))

instance : Inhabited Json := ⟨.null⟩

namespace Json

/-- The text of a number with a point or an exponent; what is not finite is null. -/
def floatText (n : Number) : List Char :=
  if n.isFinite then n.text .json else "null".toList


mutual

def compact : Json → List Char
  | .null => "null".toList
  | .bool b => (if b then "true" else "false").toList
  | .integer n => Numeral.integer n
  | .float n => floatText n
  | .string s => quoted controlLetter? s.toList
  | .array items => '[' :: compactItems true items
  | .object fields => '\x7b' :: compactFields true fields

/-- The rest of an array; `first` if no element has been written. -/
def compactItems (first : Bool) : List Json → List Char
  | [] => [']']
  | item :: rest =>
    (if first then [] else [',']) ++ (compact item ++ compactItems false rest)

def compactFields (first : Bool) : List (String × Json) → List Char
  | [] => ['\x7d']
  | (key, item) :: rest =>
    (if first then [] else [',']) ++ (quoted controlLetter? key.toList ++ ':' ::
      (compact item ++ compactFields false rest))

end

/-- A new line, indented by two blanks for each level. -/
def newLine (level : Nat) : List Char := '\n' :: List.replicate (2 * level) ' '

mutual

/-- The text with each part of a container on a line of its own. -/
def pretty (level : Nat) : Json → List Char
  | .array [] => ['[', ']']
  | .array items => '[' :: prettyItems true (level + 1) items
  | .object [] => ['\x7b', '\x7d']
  | .object fields => '\x7b' :: prettyFields true (level + 1) fields
  | .null => "null".toList
  | .bool b => (if b then "true" else "false").toList
  | .integer n => Numeral.integer n
  | .float n => floatText n
  | .string s => quoted controlLetter? s.toList

def prettyItems (first : Bool) (level : Nat) : List Json → List Char
  | [] => newLine (level - 1) ++ [']']
  | item :: rest =>
    (if first then [] else [',']) ++ (newLine level ++ (pretty level item ++ prettyItems false level rest))

def prettyFields (first : Bool) (level : Nat) : List (String × Json) → List Char
  | [] => newLine (level - 1) ++ ['\x7d']
  | (key, item) :: rest =>
    (if first then [] else [',']) ++ (newLine level ++ (quoted controlLetter? key.toList ++ ':' :: ' ' ::
      (pretty level item ++ prettyFields false level rest)))

end

end Json
end DocQuery
