import DocQuery.Json.Reader

/-!
The numbers of JSON text are finite. Rounding does not pass a magnitude that is
representable, so the quotient of a finite number by a number of at least one is finite
again. A power of ten is at least one, however it is rounded. What is left is a product
that is too large, and this is refused.
-/

namespace DocQuery

theorem roundQuotient_le_of_le {num den bound : Nat} (hden : 0 < den) (h : num ≤ den * bound) :
    roundQuotient num den ≤ bound := by
  rcases Nat.lt_or_eq_of_le h with hlt | rfl
  · exact roundQuotient_le hlt
  · rw [Nat.mul_comm]
    exact Nat.le_of_eq (roundQuotient_mul_self hden)

theorem div_le_roundQuotient (num den : Nat) : num / den ≤ roundQuotient num den := by
  unfold roundQuotient
  simp only
  split
  · exact Nat.le_refl _
  · split <;> omega

section Nearest

variable {num den bound : Nat} (hden : 0 < den)

include hden

/-- A ratio up to a multiple of its spacing is not rounded beyond it. -/
theorem nearest_le (hdvd : spacing (num / den) ∣ bound) (hle : num ≤ bound * den) :
    nearest num den ≤ bound := by
  obtain ⟨q, rfl⟩ := hdvd
  have hquotient : num ≤ den * spacing (num / den) * q := by
    rwa [Nat.mul_assoc, Nat.mul_comm]
  have hround := roundQuotient_le_of_le (Nat.mul_pos hden (spacing_pos _)) hquotient
  rw [Nat.mul_comm (spacing (num / den))]
  exact Nat.mul_le_mul_right _ hround

/-- A ratio from a multiple of its spacing on is not rounded below it. -/
theorem le_nearest (hdvd : spacing (num / den) ∣ bound) (hle : bound * den ≤ num) :
    bound ≤ nearest num den := by
  obtain ⟨q, rfl⟩ := hdvd
  have hquotient : q ≤ num / (den * spacing (num / den)) := by
    rw [Nat.le_div_iff_mul_le (Nat.mul_pos hden (spacing_pos _)), Nat.mul_comm, Nat.mul_assoc,
      Nat.mul_comm]
    exact hle
  rw [Nat.mul_comm (spacing (num / den))]
  exact Nat.mul_le_mul_right _ (Nat.le_trans hquotient (div_le_roundQuotient _ _))

theorem nearest_le_of_representable (h : Representable bound) (hle : num ≤ bound * den) :
    nearest num den ≤ bound := by
  have hratio : num / den ≤ bound := Nat.div_le_of_le_mul (by rwa [Nat.mul_comm])
  exact nearest_le hden (Nat.dvd_trans (spacing_dvd_spacing hratio) h.2) hle

theorem two_pow_le_nearest {k : Nat} (hle : Nat.pow 2 k * den ≤ num) :
    Nat.pow 2 k ≤ nearest num den := by
  have hratio : 2 ^ k ≤ num / den := (Nat.le_div_iff_mul_le hden).2 hle
  have hne : num / den ≠ 0 := fun hzero => by
    rw [hzero] at hratio
    exact absurd hratio (Nat.not_le.2 (Nat.two_pow_pos k))
  have hlog : k ≤ (num / den).log2 := (Nat.le_log2 hne).2 hratio
  have hbelow : 2 ^ (num / den).log2 * den ≤ num :=
    (Nat.le_div_iff_mul_le hden).1 (Nat.log2_self_le hne)
  have hdvd : spacing (num / den) ∣ 2 ^ (num / den).log2 :=
    Nat.pow_dvd_pow 2 (Nat.sub_le _ _)
  exact Nat.le_trans (Nat.pow_le_pow_right Nat.zero_lt_two hlog) (le_nearest hden hdvd hbelow)

end Nearest

theorem representable_two_pow {k : Nat} (h : k < magnitudeBits) : Representable (Nat.pow 2 k) := by
  constructor
  · unfold unitsBeyond
    simp only [Nat.pow_eq]
    exact Nat.pow_lt_pow_right Nat.one_lt_two h
  · have hdvd := spacing_dvd_mul_pow k (Nat.one_le_two_pow : 1 ≤ 2 ^ 53)
    rwa [Nat.one_mul] at hdvd

namespace Number

theorem isFinite_negate (n : Number) : n.negate.isFinite = n.isFinite := by
  cases n <;> rfl

theorem isFinite_ofUnits {num den : Nat} (hden : 0 < den) (h : nearest num den < unitsBeyond)
    (negative : Bool) : (ofUnits negative num den).isFinite = true := by
  rw [ofUnits, dif_pos ⟨hden, h⟩]
  rfl

/-- The magnitude is one or more; it may be infinite. -/
inductive AtLeastOne : Number → Prop
  | infinite (negative : Bool) : AtLeastOne (.infinite negative)
  | finite (negative : Bool) {units : Nat} (h : Representable units) (hle : unitsPerOne ≤ units) :
    AtLeastOne (.finite negative units h)

theorem atLeastOne_ofUnits {num den : Nat} (hden : 0 < den) (h : unitsPerOne * den ≤ num)
    (negative : Bool) : (ofUnits negative num den).AtLeastOne := by
  have hone : unitsPerOne ≤ nearest num den := by
    unfold unitsPerOne at h ⊢
    exact two_pow_le_nearest hden h
  rw [ofUnits]
  split
  · exact .finite _ _ hone
  · exact .infinite _

theorem isFinite_div {n m : Number} (hn : n.isFinite = true) (hm : m.AtLeastOne) :
    (n.div m).isFinite = true := by
  cases n with
  | nan | infinite negative => cases hn
  | finite negative units h =>
    cases hm with
    | infinite below => rfl
    | @finite below others h' hone =>
      have hpos : 0 < others := Nat.lt_of_lt_of_le unitsPerOne_pos hone
      have hle : nearest (units * unitsPerOne) others ≤ units :=
        nearest_le_of_representable hpos h (Nat.mul_le_mul_left _ hone)
      rw [div, if_neg (Nat.ne_of_gt hpos)]
      exact isFinite_ofUnits hpos (Nat.lt_of_le_of_lt hle h.1) _

end Number

namespace Json

open Number

theorem atLeastOne_power (exponent : Nat) : (power exponent).AtLeastOne := by
  have hden : Nat.pow 10 (-(exponent : Int)).toNat = 1 := by
    rw [Int.toNat_neg_natCast]
  have hpos : 0 < Nat.pow 10 (exponent : Int).toNat := Nat.pow_pos (by decide)
  have hle : unitsPerOne * 1 ≤ Nat.pow 10 (exponent : Int).toNat * unitsPerOne := by
    rw [Nat.mul_one]
    exact Nat.le_mul_of_pos_left unitsPerOne hpos
  rw [power, ofDecimal, ofRatio, hden, Nat.one_mul]
  exact atLeastOne_ofUnits Nat.one_pos hle false

theorem isFinite_divideByPower {n : Number} (hn : n.isFinite = true) (fuel exponent : Nat) :
    (divideByPower fuel n exponent).isFinite = true := by
  induction fuel generalizing n exponent with
  | zero => exact hn
  | succ fuel ih =>
    rw [divideByPower]
    split
    · exact isFinite_div hn (atLeastOne_power exponent)
    · split
      · exact hn
      · exact ih (isFinite_div hn (atLeastOne_power _)) _

theorem isFinite_ofNat {significand : Nat} (h : significand < Reading.significandLimit) :
    (Number.ofNat significand).isFinite = true := by
  have hbound : Representable (Nat.pow 2 (64 + binaryPlaces)) := representable_two_pow (by decide)
  have hle : significand * unitsPerOne ≤ Nat.pow 2 (64 + binaryPlaces) * 1 := by
    unfold unitsPerOne
    rw [Nat.mul_one, Nat.pow_eq, Nat.pow_eq, Nat.pow_add]
    exact Nat.mul_le_mul_right _ (Nat.le_of_lt h)
  have hnearest := nearest_le_of_representable Nat.one_pos hbound hle
  exact isFinite_ofUnits Nat.one_pos (Nat.lt_of_le_of_lt hnearest hbound.1) false

theorem isFinite_of_scale {significand : Nat} (h : significand < Reading.significandLimit)
    {exponent : Int} {n : Number} (hn : scale significand exponent = some n) : n.isFinite = true := by
  have hfinite := isFinite_ofNat h
  rw [scale] at hn
  simp only at hn
  split at hn
  · rw [← Option.some.inj hn]
    exact isFinite_divideByPower hfinite _ _
  · split at hn
    · split at hn
      · rename_i hproduct
        rw [← Option.some.inj hn]
        exact hproduct
      · cases hn
    · split at hn
      · rw [← Option.some.inj hn]
        exact hfinite
      · cases hn

end Json
end DocQuery
