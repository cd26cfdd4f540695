import DocQuery.Number.Rounding
import DocQuery.Numeral
/-!
Reading a binary64 number from its text: an optional sign, then digits with at most one point and
an optional exponent, or the name of an infinity or of NaN in any case. The decimal is rounded
once.
-/
namespace DocQuery.Number

def spanDigits (text : List Char) : List Char × List Char :=
  (text.takeWhile Numeral.isDigit, text.dropWhile Numeral.isDigit)

/-- Leading decimal exponents from which on every decimal is beyond the finite numbers. -/
private def hugeExponent : Int := 310

/-- Leading decimal exponents up to which every decimal rounds to zero. -/
private def tinyExponent : Int := -330

def ofDigits (negative : Bool) (digits : List Char) (exponent : Int) : Number :=
  let significant := digits.dropWhile (· == '0')
  let leading := exponent + significant.length
  if significant.isEmpty ∨ leading < tinyExponent then .finite negative 0 representable_zero
  else if hugeExponent < leading then .infinite negative
  else ofDecimal negative (Numeral.value significant) exponent

private def exponentPart? : List Char → Option Int
  | [] => some 0
  | mark :: rest =>
    if mark = 'e' ∨ mark = 'E' then
      let (negative, digits) := match rest with
        | '-' :: r => (true, r)
        | '+' :: r => (false, r)
        | r => (false, r)
      if digits.isEmpty ∨ !digits.all Numeral.isDigit then none
      else some (signed negative (Numeral.value digits))
    else none

private def unsigned? (negative : Bool) (text : List Char) : Option Number :=
  let (whole, rest) := spanDigits text
  let (places, rest) := match rest with
    | '.' :: r => spanDigits r
    | r => ([], r)
  if whole.isEmpty ∧ places.isEmpty then none
  else (exponentPart? rest).map fun exponent =>
    ofDigits negative (whole ++ places) (exponent - places.length)

private def named? (negative : Bool) (text : List Char) : Option Number :=
  let name := text.map Char.toLower
  if name = ['n', 'a', 'n'] then some .nan
  else if name = ['i', 'n', 'f'] ∨ name = ['i', 'n', 'f', 'i', 'n', 'i', 't', 'y'] then
    some (.infinite negative)
  else none

def ofText? (text : List Char) : Option Number :=
  let (negative, body) := match text with
    | '-' :: r => (true, r)
    | '+' :: r => (false, r)
    | r => (false, r)
  (named? negative body).orElse fun _ => unsigned? negative body

end DocQuery.Number
