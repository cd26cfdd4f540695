import DocQuery.Proofs.Json.Float
import DocQuery.Proofs.Number
import DocQuery.Proofs.Number.Shortest

/-!
How far the scaling of a significand goes wrong. The significand, the power of ten and the result
are rounded, each by itself, and a small result is divided for twice. Up to the last rounding this
changes the decimal by little more than two parts in 2^53, so what a decimal that rounds to a
magnitude is scaled to lies less than four times the spacing away from the magnitude. Where
significand and power are numbers themselves nothing is lost, and the result is the magnitude.
-/

namespace DocQuery

/-- One part in 2^53, which is what one rounding changes at most. -/
def roundoff : ℚ := 1 / 2 ^ 53

/-- The first number is off the second one by at most so large a part of it. -/
def Within (part a b : ℚ) : Prop := |a - b| ≤ part * b

theorem abs_cross_le {a b c d : ℚ} (hb : 0 ≤ b) (hc : 0 ≤ c) :
    |a * c - b * d| ≤ |a - b| * c + b * |c - d| := by
  calc |a * c - b * d| = |(a - b) * c + b * (c - d)| := by ring_nf
    _ ≤ |a - b| * c + b * |c - d| := by
      refine (abs_add_le _ _).trans_eq ?_
      rw [abs_mul, abs_mul, abs_of_nonneg hc, abs_of_nonneg hb]

namespace Within

variable {p q a b c d : ℚ}

theorem mono (h : Within p a b) (hle : p ≤ q) (hb : 0 ≤ b) : Within q a b :=
  h.trans (mul_le_mul_of_nonneg_right hle hb)

theorem pos (h : Within p a b) (hp : p < 1) (hb : 0 < b) : 0 < a := by
  have hlow := (abs_le.mp h).1
  have hpart : 0 < (1 - p) * b := mul_pos (sub_pos.mpr hp) hb
  linarith

theorem mul (hab : Within p a b) (hcd : Within q c d) (hb : 0 ≤ b) (hc : 0 ≤ c) :
    Within (p + q + p * q) (a * c) (b * d) := by
  have hpb : 0 ≤ p * b := (abs_nonneg _).trans hab
  have hcd' : c ≤ d + q * d := by linarith [(abs_le.mp hcd).2]
  unfold Within
  calc |a * c - b * d| ≤ |a - b| * c + b * |c - d| := abs_cross_le hb hc
    _ ≤ p * b * (d + q * d) + b * (q * d) :=
      add_le_add (mul_le_mul hab hcd' hc hpb) (mul_le_mul_of_nonneg_left hcd hb)
    _ = (p + q + p * q) * (b * d) := by ring

theorem div (hab : Within p a b) (hcd : Within q c d) (hb : 0 ≤ b) (hd : 0 < d) (hq : q < 1) :
    Within ((p + q) / (1 - q)) (a / c) (b / d) := by
  have hpart : 0 < 1 - q := sub_pos.mpr hq
  have hc : (1 - q) * d ≤ c := by linarith [(abs_le.mp hcd).1]
  have hcpos : 0 < c := (mul_pos hpart hd).trans_le hc
  have hpb : 0 ≤ p * b := (abs_nonneg _).trans hab
  have hqd : 0 ≤ q * d := (abs_nonneg _).trans hcd
  have hqpos : 0 ≤ q := nonneg_of_mul_nonneg_left hqd hd
  have hcross : |a * d - b * c| ≤ (p + q) * b * d := by
    calc |a * d - b * c| ≤ |a - b| * d + b * |d - c| := abs_cross_le hb hd.le
      _ ≤ p * b * d + b * (q * d) := by
        rw [abs_sub_comm d c]
        exact add_le_add (mul_le_mul_of_nonneg_right hab hd.le) (mul_le_mul_of_nonneg_left hcd hb)
      _ = (p + q) * b * d := by ring
  unfold Within
  rw [div_sub_div _ _ hcpos.ne' hd.ne', abs_div, abs_of_pos (mul_pos hcpos hd), div_le_iff₀
    (mul_pos hcpos hd), mul_comm c b]
  have hnonneg : 0 ≤ (p + q) * b := by
    rw [add_mul]
    exact add_nonneg hpb (mul_nonneg hqpos hb)
  calc |a * d - b * c| ≤ (p + q) * b * d := hcross
    _ ≤ (p + q) * b * (c / (1 - q)) := by
      apply mul_le_mul_of_nonneg_left _ hnonneg
      rw [le_div_iff₀ hpart]
      linarith
    _ = (p + q) / (1 - q) * (b / d) * (c * d) := by field_simp

theorem mul_right (h : Within p a b) (hc : 0 ≤ c) : Within p (a * c) (b * c) := by
  unfold Within
  rw [← sub_mul, abs_mul, abs_of_nonneg hc, ← mul_assoc]
  exact mul_le_mul_of_nonneg_right h hc

theorem div_right (h : Within p a b) (hc : 0 < c) : Within p (a / c) (b / c) := by
  unfold Within
  rw [← sub_div, abs_div, abs_of_pos hc, ← mul_div_assoc]
  exact div_le_div_of_nonneg_right h hc.le

end Within

section Rounding

variable {den : Nat} (hden : 0 < den)
include hden

theorem within_nearest_or (num : Nat) :
    |(nearest num den : ℚ) - num / den| ≤ 1 / 2 ∨ Within roundoff (nearest num den) (num / den) := by
  have herror := abs_nearest_sub hden num
  rcases spacing_le_or (num / den) with hone | hle
  · left
    rwa [hone, Nat.cast_one] at herror
  · right
    have hfloor : ((num / den : Nat) : ℚ) ≤ num / den := Nat.cast_div_le
    have hle' : (spacing (num / den) : ℚ) * 2 ^ 52 ≤ (num / den : Nat) := by exact_mod_cast hle
    unfold Within roundoff
    linarith

theorem within_nearest {num : Nat} (hle : 2 ^ 52 * den ≤ num) :
    Within roundoff (nearest num den) (num / den) := by
  rcases within_nearest_or hden num with hhalf | hwithin
  · have hpos : (0 : ℚ) < den := by exact_mod_cast hden
    have hratio : (2 : ℚ) ^ 52 ≤ num / den := by
      rw [le_div_iff₀ hpos]
      exact_mod_cast hle
    unfold Within roundoff
    linarith
  · exact hwithin

end Rounding

theorem exists_ofUnits_eq {negative : Bool} {num den : Nat}
    (h : (Number.ofUnits negative num den).isFinite = true) :
    ∃ hrep, Number.ofUnits negative num den = .finite negative (nearest num den) hrep := by
  rw [Number.ofUnits] at h ⊢
  split at h
  · rename_i hlt
    exact ⟨_, dif_pos hlt⟩
  · cases h

namespace Json

open Number Reading

/-! Significands and powers of ten in units. -/

def significandUnits (significand : Nat) : Nat := nearest (significand * unitsPerOne) 1

def powerUnits (exponent : Nat) : Nat := nearest (Nat.pow 10 exponent * unitsPerOne) 1

theorem two_pow_le_unitsPerOne : 2 ^ 52 ≤ unitsPerOne := by
  have hplaces : 52 ≤ binaryPlaces := by decide
  unfold unitsPerOne
  generalize binaryPlaces = places at hplaces ⊢
  exact Nat.pow_le_pow_right (by decide) hplaces

theorem within_nearest_one {n : Nat} (hpos : 0 < n) :
    Within roundoff (nearest (n * unitsPerOne) 1) (n * unitsPerOne) := by
  have hle : 2 ^ 52 * 1 ≤ n * unitsPerOne := by
    have hmul := Nat.le_mul_of_pos_left unitsPerOne hpos
    have hunit := two_pow_le_unitsPerOne
    omega
  have hwithin := within_nearest Nat.one_pos hle
  rwa [Nat.cast_one, div_one, Nat.cast_mul] at hwithin

theorem within_powerUnits (exponent : Nat) :
    Within roundoff (powerUnits exponent) (10 ^ exponent * unitsPerOne) := by
  have hwithin := within_nearest_one (Nat.pow_pos (n := exponent) (show 0 < 10 by decide))
  rw [Nat.cast_pow] at hwithin
  exact hwithin

/-- The largest power that is used in one step is off by less than others can be. -/
theorem within_powerUnits_limit :
    Within (roundoff / 8) (powerUnits powerLimit) (10 ^ powerLimit * unitsPerOne) := by
  have hbounds :
      Nat.pow 10 powerLimit * unitsPerOne * (2 ^ 56 - 1) ≤ powerUnits powerLimit * 2 ^ 56 ∧
      powerUnits powerLimit * 2 ^ 56 ≤ Nat.pow 10 powerLimit * unitsPerOne * (2 ^ 56 + 1) := by
    decide +kernel
  -- As literals both numbers would be computed.
  generalize powerUnits powerLimit = units at hbounds ⊢
  generalize powerLimit = limit, unitsPerOne = unit at hbounds ⊢
  obtain ⟨hlow, hhigh⟩ := hbounds
  rw [Nat.pow_eq] at hlow hhigh
  have hlow' : (10 ^ limit * unit * (2 ^ 56 - 1) : ℚ) ≤ units * 2 ^ 56 := by
    have hcast : ((10 ^ limit * unit * (2 ^ 56 - 1) : Nat) : ℚ) ≤ (units * 2 ^ 56 : Nat) := by
      exact_mod_cast hlow
    push_cast at hcast
    linarith
  have hhigh' : (units * 2 ^ 56 : ℚ) ≤ 10 ^ limit * unit * (2 ^ 56 + 1) := by exact_mod_cast hhigh
  unfold Within roundoff
  rw [abs_le]
  constructor <;> linarith

theorem representable_power {exponent : Nat} (h : exponent ≤ 22) :
    Representable (Nat.pow 10 exponent * unitsPerOne) := by
  have hfive : Nat.pow 5 exponent ≤ Nat.pow 2 53 :=
    Nat.le_trans (Nat.pow_le_pow_right (by decide) h) (by decide)
  have hsplit : Nat.pow 10 exponent * unitsPerOne =
      Nat.pow 5 exponent * Nat.pow 2 (exponent + binaryPlaces) := by
    unfold unitsPerOne
    generalize binaryPlaces = places
    rw [Nat.pow_eq, Nat.pow_eq, Nat.pow_eq, Nat.pow_eq, Nat.pow_add, ← Nat.mul_assoc,
      ← Nat.mul_pow]
  have hbits : 53 + (22 + binaryPlaces) < magnitudeBits := by decide
  rw [hsplit]
  refine ⟨?_, spacing_dvd_mul_pow _ hfive⟩
  unfold unitsBeyond
  generalize binaryPlaces = places, magnitudeBits = bits at hbits ⊢
  rw [Nat.pow_eq, Nat.pow_eq] at hfive ⊢
  calc Nat.pow 5 exponent * 2 ^ (exponent + places) ≤ 2 ^ 53 * 2 ^ (exponent + places) :=
        Nat.mul_le_mul_right _ hfive
    _ = 2 ^ (53 + (exponent + places)) := (Nat.pow_add ..).symm
    _ < 2 ^ bits := Nat.pow_lt_pow_right Nat.one_lt_two (by omega)

theorem powerUnits_eq {exponent : Nat} (h : exponent ≤ 22) :
    powerUnits exponent = Nat.pow 10 exponent * unitsPerOne :=
  nearest_of_representable (representable_power h)

theorem powerUnits_lt {exponent : Nat} (h : exponent ≤ powerLimit) :
    powerUnits exponent < unitsBeyond := by
  have hlimit : powerUnits powerLimit < unitsBeyond := by decide +kernel
  have hbelow : Nat.pow 10 (powerLimit - 1) * unitsPerOne ≤ powerUnits powerLimit := by
    decide +kernel
  generalize powerLimit = limit at h hlimit hbelow
  rcases Nat.lt_or_eq_of_le h with hless | rfl
  · have hrep : Representable (powerUnits limit) := ⟨hlimit, spacing_dvd_nearest _ Nat.one_pos⟩
    have hle : Nat.pow 10 exponent ≤ Nat.pow 10 (limit - 1) :=
      Nat.pow_le_pow_right (by decide) (Nat.le_sub_one_of_lt hless)
    refine Nat.lt_of_le_of_lt (nearest_le_of_representable Nat.one_pos hrep ?_) hlimit
    rw [Nat.mul_one]
    exact Nat.le_trans (Nat.mul_le_mul_right _ hle) hbelow
  · exact hlimit

theorem power_eq {exponent : Nat} (h : exponent ≤ powerLimit) :
    ∃ hrep, power exponent = .finite false (powerUnits exponent) hrep := by
  have hratio : power exponent = ofUnits false (Nat.pow 10 exponent * unitsPerOne) 1 := by
    rw [power, ofDecimal, ofRatio, Int.toNat_neg_natCast, Int.toNat_natCast, Nat.one_mul]
  rw [hratio]
  exact exists_ofUnits_eq (isFinite_ofUnits Nat.one_pos (powerUnits_lt h) false)

theorem powerUnits_pos {exponent : Nat} (h : exponent ≤ powerLimit) : 0 < powerUnits exponent := by
  obtain ⟨hrep, hpower⟩ := power_eq h
  have hone := atLeastOne_power exponent
  rw [hpower] at hone
  cases hone with
  | finite _ _ hle => exact Nat.lt_of_lt_of_le unitsPerOne_pos hle

theorem ofNat_eq {significand : Nat} (h : significand < significandLimit) :
    ∃ hrep, Number.ofNat significand = .finite false (significandUnits significand) hrep := by
  have hfinite := isFinite_ofNat h
  rw [Number.ofNat, ofRatio] at hfinite ⊢
  exact exists_ofUnits_eq hfinite

theorem significandUnits_pos {significand : Nat} (h : 0 < significand) :
    0 < significandUnits significand := by
  have hunits : (0 : ℚ) < significand * unitsPerOne := by
    exact_mod_cast Nat.mul_pos h unitsPerOne_pos
  have hpos := (within_nearest_one h).pos (by norm_num [roundoff]) hunits
  exact_mod_cast hpos

theorem mul_finite {units others : Nat} (h : Representable units) (h' : Representable others) :
    (Number.finite false units h).mul (.finite false others h') =
      ofUnits false (units * others) unitsPerOne := rfl

theorem div_power_eq {units exponent : Nat} (hrep : Representable units)
    (h : exponent ≤ powerLimit) : (Number.finite false units hrep).div (power exponent) =
      ofUnits false (units * unitsPerOne) (powerUnits exponent) := by
  obtain ⟨hpower, heq⟩ := power_eq h
  rw [heq, Number.div, if_neg (powerUnits_pos h).ne']
  rfl

theorem isFinite_div_power {units exponent : Nat} (hrep : Representable units)
    (h : exponent ≤ powerLimit) :
    (ofUnits false (units * unitsPerOne) (powerUnits exponent)).isFinite = true := by
  rw [← div_power_eq hrep h]
  exact isFinite_div rfl (atLeastOne_power exponent)

/-! The last rounding. -/

/-- The ratio, in units, that is rounded last when a significand is scaled. -/
def lastRatio (significand : Nat) (exponent : Int) : Nat × Nat :=
  if 0 ≤ exponent then
    (significandUnits significand * powerUnits exponent.natAbs, unitsPerOne)
  else if exponent.natAbs ≤ powerLimit then
    (significandUnits significand * unitsPerOne, powerUnits exponent.natAbs)
  else
    (nearest (significandUnits significand * unitsPerOne) (powerUnits powerLimit) * unitsPerOne,
      powerUnits (exponent.natAbs - powerLimit))

theorem lastRatio_pos (significand : Nat) {exponent : Int}
    (hlow : -(2 * powerLimit : Nat) ≤ exponent) : 0 < (lastRatio significand exponent).2 := by
  rw [lastRatio]
  split
  · dsimp only
    exact unitsPerOne_pos
  · split
    · exact powerUnits_pos (by assumption)
    · exact powerUnits_pos (by omega)

theorem scale_eq {significand : Nat} {exponent : Int} (hpos : 0 < significand)
    (hlt : significand < significandLimit) (hlow : -(2 * powerLimit : Nat) ≤ exponent)
    (hhigh : exponent ≤ powerLimit) :
    scale significand exponent =
      let n := ofUnits false (lastRatio significand exponent).1 (lastRatio significand exponent).2
      if n.isFinite then some n else none := by
  obtain ⟨hrep, hsignificand⟩ := ofNat_eq hlt
  rw [scale, lastRatio, hsignificand]
  simp only
  by_cases hnonneg : 0 ≤ exponent
  · have hlimit : exponent.natAbs ≤ powerLimit := by omega
    obtain ⟨hrep', hpower⟩ := power_eq hlimit
    rw [if_neg (Int.not_lt.mpr hnonneg), if_pos hlimit, if_pos hnonneg, hpower, mul_finite]
  · rw [if_pos (Int.not_le.mp hnonneg), if_neg hnonneg, divideByPower]
    by_cases hlimit : exponent.natAbs ≤ powerLimit
    · rw [if_pos hlimit, if_pos hlimit, div_power_eq hrep hlimit,
        if_pos (isFinite_div_power hrep hlimit)]
    · have hfirst := isFinite_div_power hrep (Nat.le_refl powerLimit)
      obtain ⟨hrep', hquotient⟩ := exists_ofUnits_eq hfirst
      have hrest : exponent.natAbs - powerLimit ≤ powerLimit := by omega
      have hzero : ¬(Number.finite false (significandUnits significand) hrep).isZero = true := by
        intro hzero
        have hnone := natAbs_signed false (significandUnits significand)
        rw [isZero, position, beq_iff_eq, Option.some.injEq] at hzero
        rw [hzero, Int.natAbs_zero] at hnone
        exact absurd hnone (significandUnits_pos hpos).ne
      rw [if_neg hlimit, if_neg hlimit, if_neg hzero, div_power_eq hrep (Nat.le_refl _), hquotient,
        divideByPower, if_pos hrest, div_power_eq hrep' hrest,
        if_pos (isFinite_div_power hrep' hrest)]

variable {d : Decimal}

theorem within_significandUnits (hpos : 0 < d.digits) :
    Within roundoff (significandUnits d.digits) (d.digits * unitsPerOne) := within_nearest_one hpos

theorem inUnits_nonneg (d : Decimal) : 0 ≤ d.inUnits := by
  unfold Decimal.inUnits
  positivity

/-- The exact power takes the place of the one that is rounded. -/
theorem inUnits_of_nonneg (h : 0 ≤ d.exponent) :
    d.inUnits = d.digits * unitsPerOne * (10 ^ d.exponent.natAbs * unitsPerOne) / unitsPerOne := by
  have hunit : (unitsPerOne : ℚ) ≠ 0 := by exact_mod_cast unitsPerOne_pos.ne'
  rw [Decimal.inUnits, ← mul_assoc, mul_div_cancel_right₀ _ hunit, mul_right_comm,
    ← zpow_natCast, Int.natAbs_of_nonneg h]

theorem inUnits_of_neg (h : d.exponent < 0) :
    d.inUnits = d.digits * unitsPerOne * unitsPerOne / (10 ^ d.exponent.natAbs * unitsPerOne) := by
  have hunit : (unitsPerOne : ℚ) ≠ 0 := by exact_mod_cast unitsPerOne_pos.ne'
  have hexp : d.exponent = -(d.exponent.natAbs : Int) := by omega
  rw [mul_div_mul_right _ _ hunit, Decimal.inUnits]
  conv_lhs => rw [hexp, zpow_neg, zpow_natCast]
  ring

theorem unit_pos : (0 : ℚ) < unitsPerOne := by exact_mod_cast unitsPerOne_pos

theorem power_pos (exponent : Nat) : (0 : ℚ) < 10 ^ exponent * unitsPerOne :=
  mul_pos (pow_pos (by norm_num) _) unit_pos

theorem digits_nonneg (d : Decimal) : (0 : ℚ) ≤ d.digits * unitsPerOne :=
  mul_nonneg (Nat.cast_nonneg _) unit_pos.le

theorem lastRatio_of_nonneg (hpos : 0 < d.digits) (h : 0 ≤ d.exponent) :
    Within (9 / 4 * roundoff)
      ((lastRatio d.digits d.exponent).1 / (lastRatio d.digits d.exponent).2) d.inUnits := by
  have hproduct := ((within_significandUnits hpos).mul (within_powerUnits d.exponent.natAbs)
    (digits_nonneg d) (Nat.cast_nonneg _)).div_right unit_pos
  rw [← inUnits_of_nonneg h] at hproduct
  rw [lastRatio, if_pos h]
  dsimp only
  rw [Nat.cast_mul]
  exact hproduct.mono (by norm_num [roundoff]) (inUnits_nonneg d)

theorem lastRatio_of_neg (hpos : 0 < d.digits) (h : d.exponent < 0)
    (hlimit : d.exponent.natAbs ≤ powerLimit) :
    Within (9 / 4 * roundoff)
      ((lastRatio d.digits d.exponent).1 / (lastRatio d.digits d.exponent).2) d.inUnits := by
  have hquotient := ((within_significandUnits hpos).mul_right unit_pos.le).div
    (within_powerUnits d.exponent.natAbs) (mul_nonneg (digits_nonneg d) unit_pos.le)
    (power_pos _) (by norm_num [roundoff])
  rw [← inUnits_of_neg h] at hquotient
  rw [lastRatio, if_neg (Int.not_le.mpr h), if_pos hlimit]
  dsimp only
  rw [Nat.cast_mul]
  exact hquotient.mono (by norm_num [roundoff]) (inUnits_nonneg d)

theorem div_near {num exact den power p q : ℚ} (hexact : 0 ≤ exact) (hp : 0 ≤ p) (hpower : 10 ≤ power)
    (hnum : |num - exact| ≤ 1 / 2 + p * exact) (hden : Within q den power) (hq : 0 ≤ q)
    (hhalf : q ≤ 1 / 2 ^ 10) :
    |num / den - exact / power| ≤ 1 / 16 + (p + q) * (1 + 1 / 2 ^ 9) * (exact / power) := by
  have hpos : 0 < power := by linarith
  have hlow : (1 - q) * power ≤ den := by linarith [(abs_le.mp hden).1]
  have hdenpos : 0 < den := lt_of_lt_of_le (mul_pos (by linarith) hpos) hlow
  have hcross : |num * power - exact * den| ≤ (1 / 2 + (p + q) * exact) * power := by
    calc |num * power - exact * den| ≤ |num - exact| * power + exact * |power - den| :=
          abs_cross_le hexact hpos.le
      _ ≤ (1 / 2 + p * exact) * power + exact * (q * power) := by
        rw [abs_sub_comm power den]
        exact add_le_add (mul_le_mul_of_nonneg_right hnum hpos.le)
          (mul_le_mul_of_nonneg_left hden hexact)
      _ = (1 / 2 + (p + q) * exact) * power := by ring
  rw [div_sub_div _ _ hdenpos.ne' hpos.ne', abs_div, abs_of_pos (mul_pos hdenpos hpos),
    div_le_iff₀ (mul_pos hdenpos hpos), mul_comm den exact, ← mul_assoc]
  refine hcross.trans (mul_le_mul_of_nonneg_right ?_ hpos.le)
  have hlarge : (1 - 1 / 2 ^ 10) * power ≤ den := by
    refine le_trans (mul_le_mul_of_nonneg_right ?_ hpos.le) hlow
    linarith
  have hratio : 0 ≤ (p + q) * (exact / power) := mul_nonneg (add_nonneg hp hq) (div_nonneg hexact hpos.le)
  calc 1 / 2 + (p + q) * exact = 1 / 2 + (p + q) * (exact / power) * power := by field_simp
    _ ≤ 1 / 16 * den + (p + q) * (exact / power) * ((1 + 1 / 2 ^ 9) * den) := by
      refine add_le_add (by linarith) (mul_le_mul_of_nonneg_left ?_ hratio)
      linarith
    _ = (1 / 16 + (p + q) * (1 + 1 / 2 ^ 9) * (exact / power)) * den := by ring

theorem unitsPerOne_le : (unitsPerOne : ℚ) ≤ 10 ^ (324 : Int) := by
  have hunit : (unitsPerOne : ℚ) = 2 ^ (binaryPlaces : Int) := by
    unfold unitsPerOne
    generalize binaryPlaces = places
    rw [Nat.pow_eq, zpow_natCast, Nat.cast_pow, Nat.cast_ofNat]
  have hplaces : (binaryPlaces : Int) = 1074 := rfl
  rw [hunit]
  exact Decimal.two_zpow_le_ten_zpow (by omega) (by omega)

theorem inUnits_le {e : Int} (hdigits : d.digits ≤ 10 ^ 17) (h : d.exponent ≤ e) :
    d.inUnits ≤ 10 ^ (e + 341) := by
  have hdigits' : (d.digits : ℚ) ≤ 10 ^ (17 : Int) := by exact_mod_cast hdigits
  have hpower : (10 : ℚ) ^ d.exponent ≤ 10 ^ e := zpow_le_zpow_right₀ (by norm_num) h
  have hten (e : Int) : (0 : ℚ) ≤ 10 ^ e := zpow_nonneg (by norm_num) e
  calc d.inUnits ≤ 10 ^ (17 : Int) * 10 ^ e * 10 ^ (324 : Int) :=
        mul_le_mul (mul_le_mul hdigits' hpower (hten _) (hten _)) unitsPerOne_le unit_pos.le
          (mul_nonneg (hten _) (hten _))
    _ = 10 ^ (e + 341) := by
      rw [← zpow_add₀ (by norm_num), ← zpow_add₀ (by norm_num)]
      congr 1
      omega

theorem first_division_near (hpos : 0 < d.digits) :
    |(nearest (significandUnits d.digits * unitsPerOne) (powerUnits powerLimit) : ℚ) -
        d.digits * unitsPerOne * unitsPerOne / (10 ^ powerLimit * unitsPerOne)| ≤
      1 / 2 + 69 / 32 * roundoff *
        (d.digits * unitsPerOne * unitsPerOne / (10 ^ powerLimit * unitsPerOne)) := by
  have hquotient := ((within_significandUnits hpos).mul_right unit_pos.le).div
    within_powerUnits_limit (mul_nonneg (digits_nonneg d) unit_pos.le) (power_pos _)
    (by norm_num [roundoff])
  have hexact : 0 ≤ d.digits * unitsPerOne * unitsPerOne / ((10 : ℚ) ^ powerLimit * unitsPerOne) :=
    div_nonneg (mul_nonneg (digits_nonneg d) unit_pos.le) (power_pos _).le
  have hround := within_nearest_or (powerUnits_pos (Nat.le_refl powerLimit))
    (significandUnits d.digits * unitsPerOne)
  rw [Nat.cast_mul] at hround
  generalize d.digits * unitsPerOne * unitsPerOne / ((10 : ℚ) ^ powerLimit * unitsPerOne) = exact
    at hquotient hexact ⊢
  generalize (significandUnits d.digits * unitsPerOne / powerUnits powerLimit : ℚ) = ratio
    at hquotient hround
  have hnear : Within (73 / 64 * roundoff) ratio exact :=
    hquotient.mono (by norm_num [roundoff]) hexact
  generalize (nearest _ _ : ℚ) = quotient at hround ⊢
  unfold Within roundoff at *
  have htriangle := abs_sub_le quotient ratio exact
  have hratio := (abs_le.mp hnear).2
  rcases hround with hhalf | hpart <;> linarith

/-- The second divisor is exact, or else the decimal is so small that it makes no difference. -/
theorem second_divisor_near {k : Nat} (hdigits : d.digits ≤ 10 ^ 17)
    (hk : d.exponent = -(powerLimit + k : Nat)) :
    ∃ part, 0 ≤ part ∧ part ≤ roundoff ∧ Within part (powerUnits k / unitsPerOne) (10 ^ k) ∧
      part * d.inUnits ≤ 1 / 100 := by
  by_cases hsmall : k ≤ 22
  · refine ⟨0, le_refl 0, by norm_num [roundoff], ?_, by norm_num⟩
    rw [powerUnits_eq hsmall, Nat.pow_eq, Nat.cast_mul, mul_div_cancel_right₀ _ unit_pos.ne']
    unfold Within
    push_cast
    rw [sub_self, abs_zero, zero_mul]
  · have hwithin := (within_powerUnits k).div_right unit_pos
    rw [mul_div_cancel_right₀ _ unit_pos.ne'] at hwithin
    have hexp : d.exponent ≤ -331 := by
      rw [hk, powerLimit]
      omega
    have hunits := inUnits_le hdigits hexp
    norm_num at hunits
    refine ⟨roundoff, by norm_num [roundoff], le_refl _, hwithin, ?_⟩
    unfold roundoff
    linarith

theorem lastRatio_small (hpos : 0 < d.digits) (hdigits : d.digits ≤ 10 ^ 17)
    (h : d.exponent < 0) (hlimit : powerLimit < d.exponent.natAbs) :
    |((lastRatio d.digits d.exponent).1 / (lastRatio d.digits d.exponent).2 : ℚ) - d.inUnits| ≤
      9 / 4 * roundoff * d.inUnits + 1 / 8 := by
  obtain ⟨k, hk⟩ : ∃ k, d.exponent.natAbs = powerLimit + (k + 1) :=
    ⟨d.exponent.natAbs - powerLimit - 1, by omega⟩
  have hten : (10 : ℚ) ≤ 10 ^ (k + 1) := le_self_pow₀ (by norm_num) (Nat.succ_ne_zero k)
  have hunits : d.inUnits =
      d.digits * unitsPerOne * unitsPerOne / (10 ^ powerLimit * unitsPerOne) / 10 ^ (k + 1) := by
    rw [inUnits_of_neg h, hk, pow_add, div_div]
    ring_nf
  have hexact : 0 ≤ d.digits * unitsPerOne * unitsPerOne / ((10 : ℚ) ^ powerLimit * unitsPerOne) :=
    div_nonneg (mul_nonneg (digits_nonneg d) unit_pos.le) (power_pos _).le
  obtain ⟨part, hpart, hle, hdivisor, hsmall⟩ :=
    second_divisor_near (k := k + 1) hdigits (by omega)
  have hnear := div_near hexact (by norm_num [roundoff]) hten (first_division_near hpos) hdivisor
    hpart (hle.trans (by norm_num [roundoff]))
  rw [← hunits, div_div_eq_mul_div] at hnear
  rw [lastRatio, if_neg (Int.not_le.mpr h), if_neg (Nat.not_le.mpr hlimit), hk]
  dsimp only
  rw [Nat.cast_mul, Nat.add_sub_cancel_left]
  refine hnear.trans ?_
  have hnonneg : 0 ≤ roundoff * d.inUnits := mul_nonneg (by norm_num [roundoff]) (inUnits_nonneg d)
  calc 1 / 16 + (69 / 32 * roundoff + part) * (1 + 1 / 2 ^ 9) * d.inUnits
      = 1 / 16 + 69 / 32 * (1 + 1 / 2 ^ 9) * (roundoff * d.inUnits) +
          (1 + 1 / 2 ^ 9) * (part * d.inUnits) := by ring
    _ ≤ 9 / 4 * (roundoff * d.inUnits) + 1 / 8 := by linarith
    _ = 9 / 4 * roundoff * d.inUnits + 1 / 8 := by ring

/-- The last ratio is off the decimal by little more than two roundings. -/
theorem lastRatio_near (hpos : 0 < d.digits) (hdigits : d.digits ≤ 10 ^ 17) :
    |((lastRatio d.digits d.exponent).1 / (lastRatio d.digits d.exponent).2 : ℚ) - d.inUnits| ≤
      9 / 4 * roundoff * d.inUnits + 1 / 8 := by
  rcases le_or_gt 0 d.exponent with hnonneg | hneg
  · exact (lastRatio_of_nonneg hpos hnonneg).trans (by norm_num)
  · rcases le_or_gt d.exponent.natAbs powerLimit with hlimit | hlimit
    · exact (lastRatio_of_neg hpos hneg hlimit).trans (by norm_num)
    · exact lastRatio_small hpos hdigits hneg hlimit

section Magnitude

variable {units : Nat} (hrep : Representable units) (hpos : 0 < units)
  (hrounds : d.roundsTo units = true) (hdigits : d.digits ≤ 10 ^ 17)
include hrep hpos hrounds

/-- The decimal of a magnitude is as large as half of it, and smaller than 2^53 times its
spacing. -/
theorem inUnits_bounds : 1 / 2 ≤ d.inUnits ∧ d.inUnits ≤ spacing units * 2 ^ 53 := by
  have hspacing : (spacing units : ℚ) ≤ units := by exact_mod_cast Decimal.spacing_le hpos
  have hone : (1 : ℚ) ≤ units := by exact_mod_cast hpos
  have hdeep : (units + spacing units : ℚ) ≤ spacing units * 2 ^ 53 := by
    exact_mod_cast hrep.add_spacing_le
  obtain ⟨hlow, hhigh⟩ := abs_le.mp (Decimal.abs_inUnits_sub_le hpos hrounds)
  constructor <;> linarith

theorem digits_pos : 0 < d.digits := by
  refine Nat.pos_of_ne_zero fun hzero => ?_
  have hlow := (inUnits_bounds hrep hpos hrounds).1
  rw [Decimal.inUnits, hzero, Nat.cast_zero, zero_mul, zero_mul] at hlow
  norm_num at hlow

theorem exponent_le : d.exponent ≤ powerLimit := by
  refine Int.not_lt.mp fun hmore => ?_
  have hdigits : (1 : ℚ) ≤ d.digits := by exact_mod_cast digits_pos hrep hpos hrounds
  have hbeyond : (units + spacing units : ℚ) ≤ unitsBeyond := by
    exact_mod_cast hrep.add_spacing_le.trans (spacing_mul_le_unitsBeyond hpos hrep.1)
  have hspacing : (0 : ℚ) < spacing units := by exact_mod_cast spacing_pos units
  have hbits : (magnitudeBits : Int) - binaryPlaces = 1024 := rfl
  have hlimit : (powerLimit : Int) = 308 := rfl
  have hpower : (2 : ℚ) ^ ((magnitudeBits : Int) - binaryPlaces) ≤ 10 ^ d.exponent :=
    Decimal.two_zpow_le_ten_zpow (by omega) (by omega)
  have hlarge : (unitsBeyond : ℚ) ≤ d.inUnits := by
    have htwo : (unitsBeyond : ℚ) = 2 ^ magnitudeBits := by
      unfold unitsBeyond
      generalize magnitudeBits = bits
      rw [Nat.pow_eq, Nat.cast_pow, Nat.cast_ofNat]
    rw [htwo, ← Decimal.two_zpow_units, Decimal.inUnits]
    refine mul_le_mul_of_nonneg_right (hpower.trans ?_) unit_pos.le
    exact le_mul_of_one_le_left (zpow_nonneg (by norm_num) _) hdigits
  have hclose := (abs_le.mp (Decimal.abs_inUnits_sub_le hpos hrounds)).2
  linarith

include hdigits

theorem le_exponent : -(2 * powerLimit : Nat) ≤ d.exponent := by
  refine Int.not_lt.mp fun hless => ?_
  have hlow := (inUnits_bounds hrep hpos hrounds).1
  have hsmall := inUnits_le (e := -342) hdigits (by
    have hlimit : powerLimit = 308 := rfl
    omega)
  norm_num at hsmall
  linarith

/-- What the decimal is scaled to lies less than four times the spacing away. -/
theorem abs_nearest_lastRatio_sub_lt :
    |(nearest (lastRatio d.digits d.exponent).1 (lastRatio d.digits d.exponent).2 : ℚ) - units| <
      4 * spacing units := by
  obtain ⟨hhalf, hdeep⟩ := inUnits_bounds hrep hpos hrounds
  have hdigitspos := digits_pos hrep hpos hrounds
  have hden := lastRatio_pos d.digits (le_exponent hrep hpos hrounds hdigits)
  have hnear := lastRatio_near hdigitspos hdigits
  have hclose := Decimal.abs_inUnits_sub_le hpos hrounds
  have hround := abs_nearest_sub hden (lastRatio d.digits d.exponent).1
  have hfloor : (((lastRatio d.digits d.exponent).1 / (lastRatio d.digits d.exponent).2 : Nat) : ℚ) ≤
      (lastRatio d.digits d.exponent).1 / (lastRatio d.digits d.exponent).2 := Nat.cast_div_le
  have hspacing : (1 : ℚ) ≤ spacing units := by exact_mod_cast spacing_pos units
  generalize (lastRatio d.digits d.exponent).1 = num at *
  generalize (lastRatio d.digits d.exponent).2 = den at *
  generalize hratio : (num / den : ℚ) = ratio at *
  have hoff : |ratio - d.inUnits| ≤ 19 / 8 * spacing units := by
    refine hnear.trans ?_
    unfold roundoff
    linarith
  have hstep : (spacing (num / den) : ℚ) ≤ 2 * spacing units := by
    have hless : num / den < spacing units * 2 ^ 54 := by
      have hhigh := (abs_le.mp hoff).2
      have hcast : ((num / den : Nat) : ℚ) < (spacing units * 2 ^ 54 : Nat) := by
        push_cast
        linarith
      exact_mod_cast hcast
    exact_mod_cast spacing_le_double hless
  have htriangle := abs_sub_le (nearest num den : ℚ) ratio units
  have htriangle' := abs_sub_le ratio d.inUnits (units : ℚ)
  linarith

theorem scale_of_roundsTo : scale d.digits d.exponent =
    let n := ofUnits false (lastRatio d.digits d.exponent).1 (lastRatio d.digits d.exponent).2
    if n.isFinite then some n else none :=
  scale_eq (digits_pos hrep hpos hrounds) (Nat.lt_of_le_of_lt hdigits (by decide))
    (le_exponent hrep hpos hrounds hdigits) (exponent_le hrep hpos hrounds)

theorem scale_near (hsome : (scale d.digits d.exponent).isSome = true) :
    ∃ m hm, scale d.digits d.exponent = some (.finite false m hm) ∧
      |(m : ℚ) - units| < 4 * spacing units := by
  have hscale := scale_of_roundsTo hrep hpos hrounds hdigits
  simp only at hscale
  rw [hscale] at hsome ⊢
  split at hsome
  · rename_i hfinite
    obtain ⟨hm, heq⟩ := exists_ofUnits_eq hfinite
    refine ⟨_, hm, ?_, abs_nearest_lastRatio_sub_lt hrep hpos hrounds hdigits⟩
    rw [if_pos hfinite, heq]
  · cases hsome

end Magnitude

/-! Decimals that are scaled exactly. -/

/-- The significand is a number, and so is the power of ten. -/
def ScalesExactly (d : Decimal) : Prop := d.digits ≤ 2 ^ 53 ∧ d.exponent.natAbs ≤ 22

instance : DecidablePred ScalesExactly := fun _ => inferInstanceAs (Decidable (_ ∧ _))

/-- Nothing is rounded before the last ratio, which is the decimal itself. -/
theorem nearest_lastRatio_of_exact (hexact : ScalesExactly d) :
    nearest (lastRatio d.digits d.exponent).1 (lastRatio d.digits d.exponent).2 =
      nearest d.numerator d.denominator := by
  obtain ⟨hdigits, hexponent⟩ := hexact
  have hsignificand : significandUnits d.digits = d.digits * unitsPerOne :=
    nearest_of_representable (representable_mul_unitsPerOne hdigits)
  rw [lastRatio, hsignificand, powerUnits_eq hexponent, Decimal.numerator, Decimal.denominator]
  by_cases hnonneg : 0 ≤ d.exponent
  · have hden : (-d.exponent).toNat = 0 := by omega
    have hnum : d.exponent.toNat = d.exponent.natAbs := by omega
    have hone : Nat.pow 10 0 * unitsPerOne = unitsPerOne := by
      rw [Nat.pow_eq, Nat.pow_zero, Nat.one_mul]
    rw [if_pos hnonneg, hden, hnum]
    dsimp only
    rw [← nearest_mul_right _ (Nat.pow 10 0) unitsPerOne_pos, hone, ← Nat.mul_assoc,
      Nat.mul_right_comm d.digits]
  · have hden : (-d.exponent).toNat = d.exponent.natAbs := by omega
    have hnum : d.exponent.toNat = 0 := by omega
    have hlimit : d.exponent.natAbs ≤ powerLimit := Nat.le_trans hexponent (by decide)
    rw [if_neg hnonneg, if_pos hlimit, hden, hnum]
    have hone : d.digits * Nat.pow 10 0 = d.digits := Nat.mul_one _
    dsimp only
    rw [nearest_mul_right _ _ unitsPerOne_pos, hone]

theorem scale_exact {units : Nat} (hexact : ScalesExactly d) (hrep : Representable units)
    (hpos : 0 < units) (hrounds : d.roundsTo units = true) :
    scale d.digits d.exponent = some (.finite false units hrep) := by
  have hlimit : d.digits < significandLimit := Nat.lt_of_le_of_lt hexact.1 (by decide)
  have hpower : d.exponent.natAbs ≤ powerLimit := Nat.le_trans hexact.2 (by decide)
  have hlow : -((2 * powerLimit : Nat) : Int) ≤ d.exponent := by omega
  have hscale := scale_eq (digits_pos hrep hpos hrounds) hlimit hlow (by omega)
  have hnearest := (nearest_lastRatio_of_exact hexact).trans
    (Decimal.nearest_of_roundsTo hrep hpos hrounds)
  have hless : nearest (lastRatio d.digits d.exponent).1 (lastRatio d.digits d.exponent).2 <
      unitsBeyond := hnearest.symm ▸ hrep.1
  have hfinite := isFinite_ofUnits (lastRatio_pos d.digits hlow) hless false
  obtain ⟨hrep', heq⟩ := exists_ofUnits_eq hfinite
  simp only at hscale
  rw [hscale, if_pos hfinite, heq]
  simp only [hnearest]

/-! The shortest decimal. -/

/-- The distance between the largest magnitudes. -/
def largestSpacing : Nat := Nat.pow 2 (magnitudeBits - 53)

theorem unitsBeyond_eq : unitsBeyond = largestSpacing * 2 ^ 53 := by
  have hbits : magnitudeBits - 53 + 53 = magnitudeBits := rfl
  unfold unitsBeyond largestSpacing
  generalize magnitudeBits = bits at hbits ⊢
  rw [Nat.pow_eq, Nat.pow_eq, ← Nat.pow_add, hbits]

/-- A magnitude has room for four times its spacing unless it is one of the three largest. -/
theorem add_spacing_le_or {units : Nat} (hrep : Representable units) (hpos : 0 < units) :
    units + 4 * spacing units ≤ unitsBeyond ∨
      ∃ k < 3, units = largestSpacing * (2 ^ 53 - 3 + k) := by
  have hdeep := hrep.add_spacing_le
  have hbeyond := spacing_mul_le_unitsBeyond hpos hrep.1
  rw [unitsBeyond_eq] at hbeyond ⊢
  have hle : spacing units ≤ largestSpacing := Nat.le_of_mul_le_mul_right hbeyond (by decide)
  rcases Nat.lt_or_eq_of_le hle with hless | hsame
  · left
    have hhalf : spacing units * 2 ≤ largestSpacing := by
      unfold spacing largestSpacing at hless ⊢
      generalize magnitudeBits - 53 = bits at hless ⊢
      rw [Nat.pow_eq, Nat.pow_eq] at hless ⊢
      rw [← Nat.pow_succ]
      exact Nat.pow_le_pow_right (by decide) ((Nat.pow_lt_pow_iff_right (by decide)).mp hless)
    omega
  · obtain ⟨q, hq⟩ := hrep.2
    rw [hsame] at hq hdeep ⊢
    generalize largestSpacing = step at hq hdeep ⊢
    rw [hq, ← Nat.mul_add_one] at hdeep
    rw [hq]
    by_cases hroom : q + 4 ≤ 2 ^ 53
    · left
      calc step * q + 4 * step = step * (q + 4) := by rw [Nat.mul_add, Nat.mul_comm 4]
        _ ≤ step * 2 ^ 53 := Nat.mul_le_mul_left step hroom
    · have hlast : q + 1 ≤ 2 ^ 53 := by
        refine Nat.le_of_mul_le_mul_left hdeep (Nat.pos_of_ne_zero fun hzero => ?_)
        rw [hzero, Nat.zero_mul] at hq
        omega
      have hq' : q = 2 ^ 53 - 3 + (q - (2 ^ 53 - 3)) := by omega
      exact Or.inr ⟨q - (2 ^ 53 - 3), by omega, congrArg (step * ·) hq'⟩

/-- The three largest magnitudes are not too large once they have been scaled. -/
theorem scale_largest : ∀ k < 3,
    let d := Decimal.shortest false (largestSpacing * (2 ^ 53 - 3 + k))
    (scale d.digits d.exponent).isSome = true := by
  decide +kernel

theorem isSome_scale_shortest {units : Nat} (hrep : Representable units) (hpos : 0 < units) :
    let d := Decimal.shortest false units
    (scale d.digits d.exponent).isSome = true := by
  obtain ⟨hrounds, hdigits⟩ := Decimal.shortest_spec false hrep hpos
  rcases add_spacing_le_or hrep hpos with hroom | ⟨k, hk, hlargest⟩
  · generalize Decimal.shortest false units = d at hrounds hdigits
    simp only
    have hlow := le_exponent hrep hpos hrounds hdigits
    have hscale := scale_of_roundsTo hrep hpos hrounds hdigits
    have hnear := (abs_lt.mp (abs_nearest_lastRatio_sub_lt hrep hpos hrounds hdigits)).2
    have hless : nearest (lastRatio d.digits d.exponent).1 (lastRatio d.digits d.exponent).2 <
        units + 4 * spacing units := by
      have hcast : (nearest (lastRatio d.digits d.exponent).1 (lastRatio d.digits d.exponent).2 : ℚ) <
          (units + 4 * spacing units : Nat) := by
        push_cast
        linarith
      exact_mod_cast hcast
    have hfinite := isFinite_ofUnits (lastRatio_pos d.digits hlow) (hless.trans_le hroom) false
    simp only at hscale
    rw [hscale, if_pos hfinite]
    rfl
  · rw [hlargest]
    exact scale_largest k hk

/-- What the shortest decimal of a magnitude is scaled to lies less than four times the spacing
away from the magnitude. -/
theorem scale_shortest {units : Nat} (hrep : Representable units) (hpos : 0 < units) :
    let d := Decimal.shortest false units
    ∃ m hm, scale d.digits d.exponent = some (.finite false m hm) ∧
      |(m : ℚ) - units| < 4 * spacing units := by
  obtain ⟨hrounds, hdigits⟩ := Decimal.shortest_spec false hrep hpos
  exact scale_near hrep hpos hrounds hdigits (isSome_scale_shortest hrep hpos)

end Json
end DocQuery
