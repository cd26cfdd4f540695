import DocQuery.Number.Arithmetic
import DocQuery.Proofs.Number

/-!
Remainders of whole numbers. The units of a whole number are so many times those of one, and
a common factor of dividend and divisor is one of the remainder. So what is left of an integer
is an integer again, namely the one that the quotient leaves if it is cut off towards zero; it
has the sign of the dividend, while the sign of the divisor does not matter.
-/

namespace DocQuery.Number

variable {a b x y : Number} {i j n d : Int}

/-- A number that is an integer has as many units as its magnitude says, and its sign. -/
theorem Is.exists_units (h : x.Is n) :
    ∃ negative hrep, x = .finite negative (n.natAbs * unitsPerOne) hrep ∧
      signed negative n.natAbs = n := by
  obtain ⟨negative, units, hrep, rfl⟩ := exists_finite h.1
  obtain ⟨hunits, hsign⟩ := units_of_integer? (integer?_eq_some_iff.mpr h)
  subst hunits
  exact ⟨negative, hrep, rfl, hsign⟩

theorem Is.beq_iff (ha : a.Is i) (hb : b.Is j) : (a == b) = true ↔ i = j := by
  have hpositions : (a == b) = true ↔ ∃ p, a.position = some p ∧ b.position = some p := equal_iff
  rw [hpositions, ha.2, hb.2]
  constructor
  · intro h
    obtain ⟨p, hi, hj⟩ := h
    exact Int.eq_of_mul_eq_mul_right unitsPerOne_ne_zero (Option.some.inj (hi.trans hj.symm))
  · intro h
    exact ⟨i * unitsPerOne, rfl, by rw [h]⟩

/-- The remainder of the magnitudes, with the sign of the dividend. -/
theorem signed_mod (negative : Bool) (m : Nat) (d : Int) :
    signed negative (m % d.natAbs : Nat) = (signed negative m).tmod d := by
  have hpositive : ((m % d.natAbs : Nat) : Int) = (m : Int).tmod d := by
    cases d with
    | ofNat k => rfl
    | negSucc k => rfl
  cases negative with
  | false => exact hpositive
  | true =>
    change -((m % d.natAbs : Nat) : Int) = (-(m : Int)).tmod d
    rw [hpositive, Int.neg_tmod]

theorem Is.remainder (hx : x.Is n) (hy : y.Is d) (hd : d ≠ 0) : (x.remainder y).Is (n.tmod d) := by
  obtain ⟨s, hn, rfl, hsign⟩ := hx.exists_units
  obtain ⟨t, hm, rfl, -⟩ := hy.exists_units
  have hdivisor : d.natAbs * unitsPerOne ≠ 0 :=
    Nat.mul_ne_zero (Int.natAbs_ne_zero.mpr hd) (Nat.ne_of_gt unitsPerOne_pos)
  rw [Number.remainder, if_neg hdivisor]
  refine ⟨rfl, ?_⟩
  have hleft : signed s (n.natAbs % d.natAbs) = n.tmod d := by
    rw [signed_mod, hsign]
  rw [position, Nat.mul_mod_mul_right, signed_mul, hleft]

theorem sign_tmod (n d : Int) : n.tmod d = 0 ∨ (n.tmod d).sign = n.sign := by
  by_cases hzero : n.tmod d = 0
  · exact Or.inl hzero
  · apply Or.inr
    rcases Int.lt_trichotomy n 0 with hneg | rfl | hpos
    · have hle : n.tmod d ≤ 0 := by
        have hnonneg := Int.tmod_nonneg d (a := -n) (by omega)
        rw [Int.neg_tmod] at hnonneg
        omega
      rw [Int.sign_eq_neg_one_of_neg hneg, Int.sign_eq_neg_one_of_neg (by omega)]
    · exact absurd (Int.zero_tmod d) hzero
    · have hle := Int.tmod_nonneg d (a := n) (by omega)
      rw [Int.sign_eq_one_of_pos hpos, Int.sign_eq_one_of_pos (by omega)]

end DocQuery.Number
