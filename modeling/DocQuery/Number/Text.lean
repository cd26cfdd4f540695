import DocQuery.Number.Shortest
import DocQuery.Numeral
/-!
The text of a binary64 number: its shortest decimal, laid out by a style. A style says which
exponents of the leading digit are written positionally, whether a whole number keeps a `.0`,
how an exponent is signed, and which of two equally near decimals is written.
-/
namespace DocQuery

structure DecimalStyle where
  /-- The leading exponents written positionally, from the first up to but not with the second;
  `none` for all of them. -/
  positional : Option (Int × Int)
  /-- Whole numbers end in `.0`. -/
  pointZero : Bool
  exponentPlus : Bool
  /-- Of two equally near decimals the larger is written, else the even one. -/
  tiesUp : Bool

namespace DecimalStyle

/-- Never an exponent, and no point in a whole number. -/
def plain : DecimalStyle := ⟨none, false, false, true⟩

/-- Always a point or an exponent; exponents below -4 and from 16 on. -/
def explicit : DecimalStyle := ⟨some (-4, 16), true, false, true⟩

/-- Numbers in JSON text: always a point or an exponent; exponents below -5 and from 16 on. -/
def json : DecimalStyle := ⟨some (-5, 16), true, true, false⟩

end DecimalStyle

namespace Decimal

def positionalText (style : DecimalStyle) (digits : List Char) (exponent : Int) : List Char :=
  if 0 ≤ exponent then
    digits ++ List.replicate exponent.toNat '0' ++ (if style.pointZero then ['.', '0'] else [])
  else
    let places := (-exponent).toNat
    if places < digits.length then
      digits.take (digits.length - places) ++ '.' :: digits.drop (digits.length - places)
    else '0' :: '.' :: (List.replicate (places - digits.length) '0' ++ digits)

def exponentText (style : DecimalStyle) (digits : List Char) (leading : Int) : List Char :=
  let significand := match digits with
    | first :: second :: rest => first :: '.' :: second :: rest
    | short => short
  let sign := if style.exponentPlus && decide (0 ≤ leading) then ['+'] else []
  significand ++ 'e' :: (sign ++ Numeral.integer leading)

def text (style : DecimalStyle) (d : Decimal) : List Char :=
  let digits := Numeral.decimal d.digits
  let leading := d.exponent + digits.length - 1
  match style.positional with
  | none => positionalText style digits d.exponent
  | some (low, high) =>
    if d.digits = 0 ∨ (low ≤ leading ∧ leading < high) then positionalText style digits d.exponent
    else exponentText style digits leading

end Decimal

namespace Number

def text (style : DecimalStyle) : Number → List Char
  | .nan => ['N', 'a', 'N']
  | .infinite negative => if negative then ['-', 'i', 'n', 'f'] else ['i', 'n', 'f']
  | .finite negative units _ =>
    let digits := (Decimal.shortest style.tiesUp units).text style
    if negative then '-' :: digits else digits

end Number
end DocQuery
