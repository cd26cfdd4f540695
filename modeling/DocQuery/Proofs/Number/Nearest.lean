import DocQuery.Number.Arithmetic
import Mathlib.Algebra.Order.Field.Basic
import Mathlib.Algebra.Order.Ring.Rat
import Mathlib.Data.Nat.Cast.Order.Field
import Mathlib.Tactic.FieldSimp
import Mathlib.Tactic.Linarith
import Mathlib.Tactic.LinearCombination

/-!
How far rounding moves a ratio: by half the spacing at its size, which is at most one part in 2^53
of the ratio, or half a unit where the spacing is one unit. A representable magnitude whose distance
from the ratio is less than half of this spacing is the nearest one, and so is one at half of it if
its multiple is even.
-/

namespace DocQuery

theorem roundQuotient_bounds (num : Nat) {den : Nat} (hden : 0 < den) :
    2 * num ≤ 2 * (roundQuotient num den * den) + den ∧
      2 * (roundQuotient num den * den) ≤ 2 * num + den := by
  have hdiv := Nat.div_add_mod' num den
  have hmod := Nat.mod_lt num hden
  unfold roundQuotient
  simp only
  split
  · omega
  · split
    · rw [Nat.add_one_mul (num / den)]
      omega
    · rcases Nat.mod_two_eq_zero_or_one (num / den) with heven | hodd
      · rw [heven, Nat.add_zero]
        omega
      · rw [hodd, Nat.add_one_mul (num / den)]
        omega

/-- The quotient is rounded to a natural number that is nearer than half of one, or that far away
and even. -/
theorem roundQuotient_eq {num den q : Nat} (hden : 0 < den)
    (hlow : 2 * (q * den) < 2 * num + den ∨ (2 * (q * den) = 2 * num + den ∧ q % 2 = 0))
    (hhigh : 2 * num < 2 * (q * den) + den ∨ (2 * num = 2 * (q * den) + den ∧ q % 2 = 0)) :
    roundQuotient num den = q := by
  have hdiv := Nat.div_add_mod' num den
  have hmod := Nat.mod_lt num hden
  have hle : num / den ≤ q := by
    apply Nat.le_of_lt_succ
    apply Nat.lt_of_mul_lt_mul_right (a := den)
    rw [Nat.add_one_mul]
    omega
  have hge : q ≤ num / den + 1 := by
    apply Nat.le_of_lt_succ
    apply Nat.lt_of_mul_lt_mul_right (a := den)
    rw [Nat.add_one_mul, Nat.add_one_mul]
    omega
  unfold roundQuotient
  simp only
  rcases Nat.lt_or_eq_of_le hle with hlt | rfl
  · have hq : q = num / den + 1 := by omega
    rw [hq, Nat.add_one_mul (num / den)] at hlow hhigh
    rw [hq]
    split
    · omega
    · split <;> omega
  · split
    · rfl
    · split <;> omega

section Error

variable {den : Nat} (hden : 0 < den)
include hden

theorem abs_roundQuotient_sub (num : Nat) : |(roundQuotient num den : ℚ) - num / den| ≤ 1 / 2 := by
  have hpos : (0 : ℚ) < den := by exact_mod_cast hden
  obtain ⟨hlow, hhigh⟩ := roundQuotient_bounds num hden
  have hlow' : 2 * (num : ℚ) ≤ 2 * (roundQuotient num den * den) + den := by exact_mod_cast hlow
  have hhigh' : 2 * (roundQuotient num den * den : ℚ) ≤ 2 * num + den := by exact_mod_cast hhigh
  have hnum : (num : ℚ) = num / den * den := (div_mul_cancel₀ _ (ne_of_gt hpos)).symm
  generalize (num : ℚ) / den = ratio at hnum ⊢
  rw [hnum] at hlow' hhigh'
  rw [abs_le]
  constructor
  · nlinarith
  · nlinarith

/-- A ratio is rounded by half the spacing at its size. -/
theorem abs_nearest_sub (num : Nat) : |(nearest num den : ℚ) - num / den| ≤ spacing (num / den) / 2 := by
  have hstep := spacing_pos (num / den)
  have hquotient := abs_roundQuotient_sub (Nat.mul_pos hden hstep) num
  unfold nearest
  simp only
  generalize spacing (num / den) = step at hstep hquotient ⊢
  have hstep' : (0 : ℚ) < step := by exact_mod_cast hstep
  have hratio : (num : ℚ) / den = num / ((den * step : Nat) : ℚ) * step := by
    rw [Nat.cast_mul]
    field_simp
  rw [hratio, Nat.cast_mul, ← sub_mul, abs_mul, abs_of_pos hstep']
  have hmul := mul_le_mul_of_nonneg_right hquotient hstep'.le
  linarith

section Ratio

variable {num : Nat} {ratio : ℚ} (hratio : (num : ℚ) = ratio * den)
include hratio

theorem le_div_iff_le_ratio {n : Nat} : n ≤ num / den ↔ (n : ℚ) ≤ ratio := by
  have hpos : (0 : ℚ) < den := by exact_mod_cast hden
  rw [Nat.le_div_iff_mul_le hden, ← mul_le_mul_iff_of_pos_right hpos, ← hratio]
  exact_mod_cast Iff.rfl

theorem div_lt_iff_ratio_lt {n : Nat} : num / den < n ↔ ratio < n := by
  rw [← Nat.not_le, le_div_iff_le_ratio hden hratio, not_le]

/-- A multiple of the spacing that is nearer to the ratio than half of it is what the ratio is
rounded to, and so is an even multiple that is half of it away. -/
theorem nearest_eq {units step : Nat} (hstep : spacing (num / den) = step) (hdvd : step ∣ units)
    (hlow : 2 * (units : ℚ) < 2 * ratio + step ∨
      (units / step % 2 = 0 ∧ 2 * (units : ℚ) = 2 * ratio + step))
    (hhigh : 2 * ratio < 2 * units + step ∨
      (units / step % 2 = 0 ∧ 2 * ratio = 2 * units + step)) : nearest num den = units := by
  have hpos : (0 : ℚ) < den := by exact_mod_cast hden
  have hsteppos : 0 < step := hstep ▸ spacing_pos _
  unfold nearest
  simp only
  rw [hstep]
  obtain ⟨q, rfl⟩ := hdvd
  rw [Nat.mul_div_cancel_left q hsteppos, Nat.cast_mul] at hlow hhigh
  have hround : roundQuotient num (den * step) = q := by
    apply roundQuotient_eq (Nat.mul_pos hden hsteppos)
    · refine hlow.imp (fun h => ?_) fun ⟨heven, h⟩ => ⟨?_, heven⟩
      · have hmul := mul_lt_mul_of_pos_right h hpos
        have hcast : (2 * (q * (den * step)) : ℚ) < 2 * num + den * step := by
          rw [hratio]
          linarith
        exact_mod_cast hcast
      · have hcast : (2 * (q * (den * step)) : ℚ) = 2 * num + den * step := by
          rw [hratio]
          linear_combination (den : ℚ) * h
        exact_mod_cast hcast
    · refine hhigh.imp (fun h => ?_) fun ⟨heven, h⟩ => ⟨?_, heven⟩
      · have hmul := mul_lt_mul_of_pos_right h hpos
        have hcast : (2 * num : ℚ) < 2 * (q * (den * step)) + den * step := by
          rw [hratio]
          linarith
        exact_mod_cast hcast
      · have hcast : (2 * num : ℚ) = 2 * (q * (den * step)) + den * step := by
          rw [hratio]
          linear_combination (den : ℚ) * h
        exact_mod_cast hcast
  rw [hround, Nat.mul_comm]

end Ratio

end Error

/-! Spacing. -/

theorem spacing_of_lt {units : Nat} (h : units < 2 ^ 53) : spacing units = 1 := by
  have hlog : units.log2 - 52 = 0 := by
    by_cases hzero : units = 0
    · rw [hzero]
      rfl
    · have hlt := (Nat.log2_lt hzero).mpr h
      omega
  rw [spacing, hlog]

theorem spacing_of_between {units k : Nat} (hlow : 2 ^ (52 + k) ≤ units)
    (hhigh : units < 2 ^ (53 + k)) : spacing units = 2 ^ k := by
  have hzero : units ≠ 0 := by
    have hpos := Nat.two_pow_pos (52 + k)
    omega
  have hle := (Nat.le_log2 hzero).mpr hlow
  have hlt := (Nat.log2_lt hzero).mpr hhigh
  rw [spacing, Nat.pow_eq]
  congr 1
  omega

/-- The spacing is one unit, or else one part in 2^52 of the power of two below. -/
theorem spacing_cases (units : Nat) :
    (units < 2 ^ 53 ∧ spacing units = 1) ∨
      ∃ k, spacing units = 2 ^ (k + 1) ∧ 2 ^ (53 + k) ≤ units ∧ units < 2 ^ (54 + k) := by
  by_cases hsmall : units < 2 ^ 53
  · exact Or.inl ⟨hsmall, spacing_of_lt hsmall⟩
  · have hzero : units ≠ 0 := by omega
    have hlog : 53 ≤ units.log2 := (Nat.le_log2 hzero).mpr (by omega)
    refine Or.inr ⟨units.log2 - 53, ?_, ?_, ?_⟩
    · rw [spacing, Nat.pow_eq]
      congr 1
      omega
    · rw [show 53 + (units.log2 - 53) = units.log2 by omega]
      exact Nat.log2_self_le hzero
    · rw [show 54 + (units.log2 - 53) = units.log2 + 1 by omega]
      exact Nat.lt_log2_self

theorem spacing_le_or (units : Nat) : spacing units = 1 ∨ spacing units * 2 ^ 52 ≤ units := by
  rcases spacing_cases units with ⟨-, hone⟩ | ⟨k, hspacing, hle, -⟩
  · exact Or.inl hone
  · refine Or.inr ?_
    rw [hspacing, ← Nat.pow_add]
    exact Nat.le_trans (Nat.pow_le_pow_right (by decide) (by omega)) hle

theorem lt_spacing_mul (units : Nat) : units < spacing units * 2 ^ 53 := by
  rw [spacing, Nat.pow_eq, ← Nat.pow_add]
  exact Nat.lt_of_lt_of_le Nat.lt_log2_self (Nat.pow_le_pow_right (by decide) (by omega))

theorem log2_lt_magnitudeBits {units : Nat} (hpos : 0 < units) (hlt : units < unitsBeyond) :
    units.log2 < magnitudeBits := by
  unfold unitsBeyond at hlt
  generalize magnitudeBits = bits at hlt
  exact (Nat.log2_lt (by omega)).mpr hlt

/-- The spacing of what is less than twice as large is at most twice the spacing. -/
theorem spacing_le_double {units m : Nat} (h : m < spacing units * 2 ^ 54) :
    spacing m ≤ 2 * spacing units := by
  rw [spacing, Nat.pow_eq, ← Nat.pow_add] at h
  rw [spacing, spacing, Nat.pow_eq, Nat.pow_eq, Nat.mul_comm, ← Nat.pow_succ]
  apply Nat.pow_le_pow_right (by decide)
  by_cases hzero : m = 0
  · rw [hzero, Nat.log2_zero]
    omega
  · have hlog := (Nat.log2_lt hzero).mpr h
    omega

/-- A representable magnitude lies one spacing below 2^53 times the spacing, or deeper. -/
theorem Representable.add_spacing_le {units : Nat} (h : Representable units) :
    units + spacing units ≤ spacing units * 2 ^ 53 := by
  have hlt := lt_spacing_mul units
  obtain ⟨q, hq⟩ := h.2
  generalize spacing units = step at hlt hq ⊢
  rw [hq] at hlt ⊢
  rw [← Nat.mul_add_one]
  exact Nat.mul_le_mul_left step (Nat.lt_of_mul_lt_mul_left hlt)

theorem spacing_mul_le_unitsBeyond {units : Nat} (hpos : 0 < units) (hlt : units < unitsBeyond) :
    spacing units * 2 ^ 53 ≤ unitsBeyond := by
  have hlog := log2_lt_magnitudeBits hpos hlt
  have hbits : 53 ≤ magnitudeBits := by decide
  unfold unitsBeyond
  generalize magnitudeBits = bits at hlog hbits
  rw [spacing, Nat.pow_eq, Nat.pow_eq, ← Nat.pow_add]
  exact Nat.pow_le_pow_right (by decide) (by omega)

end DocQuery
