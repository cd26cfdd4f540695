/-!
Whole numbers as digits. `decimal` writes a natural number in base ten with no leading zero, and
`value` reads digits back (`value_decimal`).
-/
namespace DocQuery.Numeral

/-- The digit characters, for bases up to sixteen. -/
def digit (d : Nat) : Char :=
  if d < 10 then Char.ofNat (48 + d) else Char.ofNat (87 + d)

def isDigit (c : Char) : Bool := decide ('0' ≤ c ∧ c ≤ '9')

/-- The digits of a natural number in a base of two or more, the leading one first. -/
def inBase (base : Nat) (h : 1 < base) (n : Nat) : List Char :=
  if n < base then [digit n] else inBase base h (n / base) ++ [digit (n % base)]
termination_by n
decreasing_by exact Nat.div_lt_self (by omega) h

def decimal (n : Nat) : List Char := inBase 10 (by decide) n

def hexadecimal (n : Nat) : List Char := inBase 16 (by decide) n

/-- An integer in base ten, with a sign only if it is negative. -/
def integer (n : Int) : List Char :=
  if n < 0 then '-' :: decimal n.natAbs else decimal n.natAbs

/-- At least `width` digits, zeros in front. -/
def padded (width : Nat) (digits : List Char) : List Char :=
  List.replicate (width - digits.length) '0' ++ digits

/-- The value of decimal digits, the leading one first. -/
def value (digits : List Char) : Nat :=
  digits.foldl (fun n c => n * 10 + (c.toNat - 48)) 0

theorem value_append_digit (digits : List Char) (c : Char) :
    value (digits ++ [c]) = value digits * 10 + (c.toNat - 48) := by
  simp [value]

theorem toNat_digit {d : Nat} (h : d < 10) : (digit d).toNat = 48 + d := by
  have : d = 0 ∨ d = 1 ∨ d = 2 ∨ d = 3 ∨ d = 4 ∨ d = 5 ∨ d = 6 ∨ d = 7 ∨ d = 8 ∨ d = 9 := by omega
  rcases this with h | h | h | h | h | h | h | h | h | h <;> subst h <;> decide

theorem value_decimal (n : Nat) : value (decimal n) = n := by
  unfold decimal
  fun_induction inBase 10 (by decide) n with
  | case1 n h => simp [value, toNat_digit h]
  | case2 n h ih =>
    rw [value_append_digit, ih, toNat_digit (Nat.mod_lt n (by decide))]
    omega

end DocQuery.Numeral
