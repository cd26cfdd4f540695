import DocQuery.Number.Rounding
/-!
The shortest decimal of a binary64 magnitude. The reals that round to a magnitude form an
interval, whose ends belong to it when the significand is even. Grids of one, two, three and more
decimal digits are tried in turn; on each, only the two neighbours of the magnitude can lie in the
interval, and the nearer one that does is the shortest decimal. Which of two equally near ones is
taken is left to the caller.
-/
namespace DocQuery

structure Decimal where
  digits : Nat
  exponent : Int
deriving DecidableEq

namespace Decimal

/-- Compares a decimal with a number of quarter units. -/
def compareQuarters (d : Decimal) (quarters : Nat) : Ordering :=
  compare (d.digits * Nat.pow 10 d.exponent.toNat * (4 * unitsPerOne))
    (quarters * Nat.pow 10 (-d.exponent).toNat)

/-- The magnitude below is half as far away as the magnitude above. -/
def narrowBelow (units : Nat) : Bool := decide (52 < units.log2) && units == Nat.pow 2 units.log2

/-- The decimal lies among the reals that round to the magnitude. -/
def roundsTo (d : Decimal) (units : Nat) : Bool :=
  let step := spacing units
  let low := 4 * units - (if narrowBelow units then step else 2 * step)
  let high := 4 * units + 2 * step
  let closed := units / step % 2 == 0
  let aboveLow := d.compareQuarters low
  let belowHigh := d.compareQuarters high
  (aboveLow == .gt || (closed && aboveLow == .eq)) && (belowHigh == .lt || (closed && belowHigh == .eq))

/-- The exponent of the leading decimal digit. It is estimated from the binary length and then
corrected by exact comparison. -/
def leadingExponent (units : Nat) : Int :=
  let estimate := ((units.log2 : Int) - binaryPlaces) * 30103 / 100000
  if (Decimal.mk 1 (estimate + 1)).compareQuarters (4 * units) != .gt then estimate + 1
  else if (Decimal.mk 1 estimate).compareQuarters (4 * units) != .gt then estimate
  else estimate - 1

/-- The nearer neighbour on the grid `10 ^ exponent` that rounds to the magnitude. -/
def onGrid (tiesUp : Bool) (units : Nat) (exponent : Int) : Option Decimal :=
  let below := units * Nat.pow 10 (-exponent).toNat / (unitsPerOne * Nat.pow 10 exponent.toNat)
  let lower : Decimal := ⟨below, exponent⟩
  let upper : Decimal := ⟨below + 1, exponent⟩
  if lower.roundsTo units then
    if upper.roundsTo units then
      match (Decimal.mk (2 * below + 1) exponent).compareQuarters (8 * units) with
      | .gt => some lower
      | .lt => some upper
      | .eq => some (if !tiesUp && below % 2 == 0 then lower else upper)
    else some lower
  else if upper.roundsTo units then some upper
  else none

def dropZeros : Nat → Decimal → Decimal
  | 0, d => d
  | count + 1, d =>
    if d.digits % 10 = 0 then dropZeros count ⟨d.digits / 10, d.exponent + 1⟩ else d

/-- Tries the grids from `exponent` downwards; `onGrid` gives the decimal on a grid. -/
def firstOnGrids (onGrid : Int → Option Decimal) : Nat → Int → Option Decimal
  | 0, _ => none
  | count + 1, exponent =>
    match onGrid exponent with
    | some d => some d
    | none => firstOnGrids onGrid count (exponent - 1)

/-- The decimal with the fewest digits that rounds to the magnitude. Seventeen digits always
suffice; the exact decimal stands in for the case that they do not. -/
def shortest (tiesUp : Bool) (units : Nat) : Decimal :=
  if units = 0 then ⟨0, 0⟩
  else match firstOnGrids (onGrid tiesUp units) 17 (leadingExponent units) with
    | some d => dropZeros 17 d
    | none => ⟨units * Nat.pow 5 binaryPlaces, -binaryPlaces⟩

end Decimal
end DocQuery
