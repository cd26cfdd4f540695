import DocQuery.Numeral
/-!
Text between double quotes. Quotes, backslashes and control characters are escaped; which control
characters have a letter of their own is left to the caller, and the others are written by their code
point.
-/
namespace DocQuery.Json

/-- The letters after a backslash that stand for control characters. -/
def controlLetter? (c : Char) : Option Char :=
  match c with
  | '\u0008' => some 'b'
  | '\u000c' => some 'f'
  | '\n' => some 'n'
  | '\r' => some 'r'
  | '\t' => some 't'
  | _ => none

def escaped (letter? : Char → Option Char) (c : Char) : List Char :=
  if c = '"' ∨ c = '\\' then ['\\', c]
  else match letter? c with
    | some letter => ['\\', letter]
    | none =>
      if c.toNat < 32 then '\\' :: 'u' :: Numeral.padded 4 (Numeral.hexadecimal c.toNat) else [c]

def escape (letter? : Char → Option Char) (text : List Char) : List Char :=
  text.flatMap (escaped letter?)

def quoted (letter? : Char → Option Char) (text : List Char) : List Char :=
  '"' :: (escape letter? text ++ ['"'])

end DocQuery.Json
