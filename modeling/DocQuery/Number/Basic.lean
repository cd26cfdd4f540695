/-!
Binary64 numbers as exact quantities. Every finite binary64 number is a whole multiple of the
least positive one, which is 1/2^1074, so its magnitude is a natural number of such units. Which
naturals occur is `Representable`. Comparison and equality are those of integers, through the
position of a number on the line of units; NaN has no position, and both zeros have position 0.
Powers are written with `Nat.pow`, so that they do not depend on the instances in scope.
-/
namespace DocQuery

/-- The binary places below the point that a finite number can have. -/
def binaryPlaces : Nat := 1074

/-- The bits of the largest finite magnitude, in units. -/
def magnitudeBits : Nat := 2098

private theorem two_pow_pos (n : Nat) : 0 < Nat.pow 2 n := Nat.two_pow_pos n

def unitsPerOne : Nat := Nat.pow 2 binaryPlaces

theorem unitsPerOne_pos : 0 < unitsPerOne := by
  unfold unitsPerOne
  exact two_pow_pos _

/-- The first power of two beyond every finite number, in units. -/
def unitsBeyond : Nat := Nat.pow 2 magnitudeBits

/-- The distance between the magnitudes that occur near this many units. -/
def spacing (units : Nat) : Nat := Nat.pow 2 (units.log2 - 52)

theorem spacing_pos (units : Nat) : 0 < spacing units := two_pow_pos _

/-- A magnitude that a finite number can have: at most 53 significant bits, and in range. -/
def Representable (units : Nat) : Prop := units < unitsBeyond ∧ spacing units ∣ units

instance : DecidablePred Representable :=
  fun units => inferInstanceAs (Decidable (units < unitsBeyond ∧ spacing units ∣ units))

theorem representable_zero : Representable 0 := by
  refine ⟨?_, Nat.dvd_zero _⟩
  unfold unitsBeyond
  exact two_pow_pos _

/-- A binary64 number. There is one NaN, and there are two zeros. -/
inductive Number where
  | nan
  | infinite (negative : Bool)
  | finite (negative : Bool) (units : Nat) (representable : Representable units)
deriving DecidableEq

namespace Number

def zero : Number := .finite false 0 representable_zero

instance : Inhabited Number := ⟨zero⟩

def signed (negative : Bool) (magnitude : Nat) : Int :=
  if negative then -(magnitude : Int) else magnitude

/-- Where the number lies on the line of units; the infinities lie one step beyond the finite
numbers. -/
def position : Number → Option Int
  | .nan => none
  | .infinite negative => some (signed negative unitsBeyond)
  | .finite negative units _ => some (signed negative units)

/-- Numeric equality: zeros are equal whatever their sign, and NaN equals nothing. -/
def equal (a b : Number) : Bool :=
  match a.position, b.position with
  | some x, some y => x == y
  | _, _ => false

instance : BEq Number := ⟨equal⟩

/-- Numeric order; NaN compares with nothing. -/
def compare? (a b : Number) : Option Ordering :=
  match a.position, b.position with
  | some x, some y => some (compare x y)
  | _, _ => none

def isNaN : Number → Bool
  | .nan => true
  | _ => false

def isFinite : Number → Bool
  | .finite .. => true
  | _ => false

def isZero (n : Number) : Bool := n.position == some 0

def isNegative : Number → Bool
  | .nan => false
  | .infinite negative => negative
  | .finite negative _ _ => negative

def negate : Number → Number
  | .nan => .nan
  | .infinite negative => .infinite (!negative)
  | .finite negative units h => .finite (!negative) units h

def integer? : Number → Option Int
  | .finite negative units _ =>
    if units % unitsPerOne = 0 then some (signed negative (units / unitsPerOne)) else none
  | _ => none

/-- The whole part of the magnitude, and `limit` where that is larger; NaN has none. -/
def wholeMagnitude (limit : Nat) (n : Number) : Nat :=
  match n.position with
  | none => 0
  | some p => min (p.natAbs / unitsPerOne) limit

theorem equal_iff {a b : Number} : a.equal b = true ↔ ∃ p, a.position = some p ∧ b.position = some p := by
  unfold equal
  split
  · rename_i x y hx hy
    simp only [hx, hy, beq_iff_eq, Option.some.injEq]
    exact ⟨fun h => ⟨x, rfl, h.symm⟩, fun ⟨p, h₁, h₂⟩ => h₁.trans h₂.symm⟩
  · rename_i h
    constructor
    · simp
    · rintro ⟨p, h₁, h₂⟩
      exact absurd h₂ (h p p h₁)

theorem equal_self_iff {a : Number} : a.equal a = true ↔ a.isNaN = false := by
  rw [equal_iff]
  cases a <;> simp [position, isNaN]

end Number
end DocQuery
