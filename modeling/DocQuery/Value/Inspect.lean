import DocQuery.Instant.Text
import DocQuery.Number.Text
import DocQuery.Unicode.BinaryProperty
import DocQuery.Unicode.GeneralCategory
import DocQuery.Value.Basic
/-!
The structure of a value as text: every part with the name of its kind. Characters that would not be
seen are written by their code point.
-/
namespace DocQuery

namespace Inspect

/-- The character shows by itself: it is no control, format, private or unassigned character, and no
separator other than a blank. -/
def isVisible (c : Char) : Bool :=
  c == ' ' || !([.cc, .cf, .cs, .co, .cn, .zl, .zp, .zs].contains (Unicode.GeneralCategory.of c))

def escaped (c : Char) : List Char :=
  match c with
  | '\u0000' => ['\\', '0']
  | '\t' => ['\\', 't']
  | '\r' => ['\\', 'r']
  | '\n' => ['\\', 'n']
  | '\\' => ['\\', '\\']
  | '"' => ['\\', '"']
  | c =>
    if isVisible c && !Unicode.BinaryProperty.graphemeExtend.holds c then [c]
    else '\\' :: 'u' :: '\x7b' :: (Numeral.hexadecimal c.toNat ++ ['\x7d'])

def quoted (text : String) : List Char := '"' :: (text.toList.flatMap escaped ++ ['"'])

/-- A kind with what it holds in parentheses. -/
def named (kind : String) (content : List Char) : List Char := kind.toList ++ '(' :: (content ++ [')'])

end Inspect

namespace Value

open Inspect

mutual

def inspected : Value → List Char
  | .null => "Null".toList
  | .undefined => "Undefined".toList
  | .bool b => named "Bool" (if b then "true" else "false").toList
  | .number n => named "Number" (n.text .explicit)
  | .string s => named "String" (quoted s)
  | .array items => named "Array" ('[' :: inspectedItems true items)
  | .object fields => named "Object" ('\x7b' :: inspectedFields true fields)
  | .date t => named "Date" t.zuluText
  | .regex p => named "Regex" p.literalText.toList
  | .predicate _ => named "Predicate" "Predicate(..)".toList

def inspectedItems (first : Bool) : List Value → List Char
  | [] => [']']
  | v :: rest => (if first then [] else [',', ' ']) ++ (inspected v ++ inspectedItems false rest)

def inspectedFields (first : Bool) : List (String × Value) → List Char
  | [] => ['\x7d']
  | (key, v) :: rest =>
    (if first then [] else [',', ' ']) ++ (quoted key ++ ':' :: ' ' ::
      (inspected v ++ inspectedFields false rest))

end

def inspect (v : Value) : String := String.ofList v.inspected

end Value
end DocQuery
