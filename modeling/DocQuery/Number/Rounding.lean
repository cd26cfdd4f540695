import DocQuery.Number.Basic
/-!
Rounding a non-negative ratio to the nearest binary64 magnitude. The ratio is rounded once, to a
multiple of the spacing at its size, and a tie goes to the even multiple. What comes out is
representable unless it lies beyond the finite numbers (`spacing_dvd_nearest`), and a magnitude
that is representable already is its own nearest one (`nearest_of_representable`).
-/
namespace DocQuery

/-- The quotient rounded to the nearest natural number, a tie to the even one. -/
def roundQuotient (num den : Nat) : Nat :=
  let q := num / den
  let r := num % den
  if 2 * r < den then q else if den < 2 * r then q + 1 else q + q % 2

/-- The units of the magnitude nearest to `num / den` units. -/
def nearest (num den : Nat) : Nat :=
  let step := spacing (num / den)
  roundQuotient num (den * step) * step

theorem roundQuotient_le {num den bound : Nat} (h : num < den * bound) :
    roundQuotient num den ≤ bound := by
  have hq : num / den < bound := Nat.div_lt_of_lt_mul h
  unfold roundQuotient
  simp only
  split
  · omega
  · split <;> omega

theorem roundQuotient_mul_self {q den : Nat} (h : 0 < den) : roundQuotient (q * den) den = q := by
  simp [roundQuotient, Nat.mul_div_cancel q h, h]

/-- At most 53 significant bits, however far they are shifted, fit the spacing. -/
theorem spacing_dvd_mul_pow {q : Nat} (k : Nat) (h : q ≤ Nat.pow 2 53) :
    spacing (q * Nat.pow 2 k) ∣ q * Nat.pow 2 k := by
  simp only [Nat.pow_eq] at h ⊢
  by_cases hz : q = 0
  · simp [hz]
  · have hlog : (q * 2 ^ k).log2 = q.log2 + k := by
      have hpos := Nat.two_pow_pos k
      rw [Nat.log2_eq_iff (Nat.mul_ne_zero hz (Nat.ne_of_gt hpos))]
      constructor
      · rw [Nat.pow_add]
        exact Nat.mul_le_mul_right _ (Nat.log2_self_le hz)
      · rw [show q.log2 + k + 1 = q.log2 + 1 + k by omega, Nat.pow_add]
        exact Nat.mul_lt_mul_of_pos_right Nat.lt_log2_self hpos
    have hle : q.log2 ≤ 53 := by
      rcases Nat.lt_or_ge 53 q.log2 with hlt | hge
      · have := (Nat.le_log2 hz).1 hlt
        omega
      · exact hge
    rw [spacing, hlog, Nat.pow_eq]
    rcases Nat.lt_or_eq_of_le hle with hlt | heq
    · exact Nat.dvd_trans (Nat.pow_dvd_pow 2 (by omega)) (Nat.dvd_mul_left _ _)
    · have hq : q = 2 ^ 53 := by
        have := (Nat.le_log2 hz).1 (Nat.le_of_eq heq.symm)
        omega
      rw [hq, Nat.log2_two_pow, ← Nat.pow_add]
      exact Nat.pow_dvd_pow 2 (by omega)

private theorem num_lt_spacing {num den : Nat} (h : 0 < den) :
    num < den * spacing (num / den) * Nat.pow 2 53 := by
  rw [Nat.pow_eq]
  have hpow : num / den < spacing (num / den) * 2 ^ 53 := by
    rw [spacing, Nat.pow_eq, ← Nat.pow_add]
    exact Nat.lt_of_lt_of_le Nat.lt_log2_self (Nat.pow_le_pow_right (by decide) (by omega))
  calc num < den * (num / den + 1) := Nat.lt_mul_div_succ num h
    _ ≤ den * (spacing (num / den) * 2 ^ 53) := Nat.mul_le_mul_left _ hpow
    _ = den * spacing (num / den) * 2 ^ 53 := (Nat.mul_assoc ..).symm

theorem spacing_dvd_nearest (num : Nat) {den : Nat} (h : 0 < den) :
    spacing (nearest num den) ∣ nearest num den :=
  spacing_dvd_mul_pow _ (roundQuotient_le (num_lt_spacing h))

theorem nearest_of_representable {units : Nat} (h : Representable units) : nearest units 1 = units := by
  obtain ⟨q, hq⟩ := h.2
  have hs := spacing_pos units
  unfold nearest
  simp only [Nat.div_one, Nat.one_mul]
  have : roundQuotient units (spacing units) = q := by
    conv => lhs; arg 1; rw [hq]
    rw [Nat.mul_comm]
    exact roundQuotient_mul_self hs
  rw [this, Nat.mul_comm]
  exact hq.symm

theorem nearest_mul_right (num den : Nat) {k : Nat} (h : 0 < k) :
    nearest (num * k) (den * k) = nearest num den := by
  unfold nearest
  rw [Nat.mul_div_mul_right _ _ h]
  simp only
  congr 1
  unfold roundQuotient
  simp only
  rw [show den * k * spacing (num / den) = den * spacing (num / den) * k from by
    rw [Nat.mul_assoc, Nat.mul_comm k, Nat.mul_assoc]]
  rw [Nat.mul_div_mul_right _ _ h, Nat.mul_mod_mul_right]
  simp only [← Nat.mul_assoc, Nat.mul_lt_mul_right h]

namespace Number

/-- The number nearest to `num / den` units, with the given sign. -/
def ofUnits (negative : Bool) (num den : Nat) : Number :=
  if h : 0 < den ∧ nearest num den < unitsBeyond then
    .finite negative (nearest num den) ⟨h.2, spacing_dvd_nearest num h.1⟩
  else .infinite negative

def ofRatio (negative : Bool) (num den : Nat) : Number := ofUnits negative (num * unitsPerOne) den

/-- The number nearest to an integer; zero is positive. -/
def ofInt (n : Int) : Number := ofRatio (decide (n < 0)) n.natAbs 1

def ofNat (n : Nat) : Number := ofRatio false n 1

def ofDecimal (negative : Bool) (significand : Nat) (exponent : Int) : Number :=
  ofRatio negative (significand * Nat.pow 10 exponent.toNat) (Nat.pow 10 (-exponent).toNat)

theorem ofUnits_of_representable (negative : Bool) {units : Nat} (h : Representable units) :
    ofUnits negative units 1 = .finite negative units h := by
  have hn := nearest_of_representable h
  unfold ofUnits
  rw [dif_pos ⟨Nat.one_pos, by rw [hn]; exact h.1⟩]
  congr

end Number
end DocQuery
