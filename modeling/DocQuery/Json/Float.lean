import DocQuery.Number.Arithmetic
/-!
How the decimal numbers of JSON text become binary64 numbers. The significand is rounded first, and is
then multiplied or divided by a power of ten, each step rounded by itself. So the result is not always
the nearest number, but it is for significands below 2^53 and powers of ten up to 10^22.
-/
namespace DocQuery.Json

/-- The largest power of ten that is multiplied or divided by in one step. -/
def powerLimit : Nat := 308

def power (exponent : Nat) : Number := Number.ofDecimal false 1 exponent

/-- Divides by a power of ten, by the largest one first for as long as the quotient is not zero. The
number of steps is bounded by `fuel`. -/
def divideByPower : Nat → Number → Nat → Number
  | 0, n, _ => n
  | fuel + 1, n, exponent =>
    if exponent ≤ powerLimit then n.div (power exponent)
    else if n.isZero then n
    else divideByPower fuel (n.div (power powerLimit)) (exponent - powerLimit)

/-- The number for `significand * 10 ^ exponent`, without its sign; `none` if it is too large. Three
divisions by the largest power turn every significand into zero. -/
def scale (significand : Nat) (exponent : Int) : Option Number :=
  let n := Number.ofNat significand
  if exponent < 0 then some (divideByPower 5 n exponent.natAbs)
  else if exponent.natAbs ≤ powerLimit then
    let product := n.mul (power exponent.natAbs)
    if product.isFinite then some product else none
  else if n.isZero then some n
  else none

end DocQuery.Json
