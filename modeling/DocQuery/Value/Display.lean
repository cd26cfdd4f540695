import DocQuery.Instant.Text
import DocQuery.Json.Quoted
import DocQuery.Number.Text
import DocQuery.Value.Basic
/-!
How a value is shown in a line of text. It looks like JSON without white space: whole numbers below
9·10^15 have no point, all others no exponent, what is not finite is null, and what JSON cannot say is
put between quotes.
-/
namespace DocQuery.Value

def shownLetter? (c : Char) : Option Char :=
  match c with
  | '\n' => some 'n'
  | '\r' => some 'r'
  | '\t' => some 't'
  | _ => none

/-- Whole numbers from here on are shown by their shortest decimal. -/
def wholeLimit : Nat := 9 * Nat.pow 10 15

def shownNumber (n : Number) : List Char :=
  if n.isFinite then
    match n.integer? with
    | some i => if i.natAbs < wholeLimit then Numeral.integer i else n.text .plain
    | none => n.text .plain
  else "null".toList

mutual

def shown : Value → List Char
  | .null => "null".toList
  | .undefined => "undefined".toList
  | .bool b => (if b then "true" else "false").toList
  | .number n => shownNumber n
  | .string s => Json.quoted shownLetter? s.toList
  | .array items => '[' :: shownItems true items
  | .object fields => '\x7b' :: shownFields true fields
  | .date t => '"' :: (t.text ++ ['"'])
  | .regex p => '"' :: '/' :: (Json.escape shownLetter? p.source.toList ++ '/' :: (p.flags.toList ++ ['"']))
  | .predicate _ => "\"<predicate>\"".toList

def shownItems (first : Bool) : List Value → List Char
  | [] => [']']
  | v :: rest => (if first then [] else [',']) ++ (shown v ++ shownItems false rest)

def shownFields (first : Bool) : List (String × Value) → List Char
  | [] => ['\x7d']
  | (key, v) :: rest =>
    (if first then [] else [',']) ++ (Json.quoted shownLetter? key.toList ++ ':' ::
      (shown v ++ shownFields false rest))

end

def display (v : Value) : String := String.ofList v.shown

end DocQuery.Value
