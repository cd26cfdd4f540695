import DocQuery.Number.Shortest
import DocQuery.Proofs.Number.Nearest
import Mathlib.Tactic.NormNum
import Mathlib.Tactic.Positivity
import Mathlib.Tactic.Ring
import Mathlib.Algebra.Order.Field.Power

/-!
The shortest decimal of a magnitude is one that rounds to this magnitude. Grids are tried from that
of the leading digit on, and the seventeenth is so fine that one of the two neighbours of the
magnitude has to lie in its interval. So the decimal that stands in for a search without result is
never taken, and the digits number at most 10^17.
-/

namespace DocQuery

namespace Decimal

/-- The units of the decimal, as a rational number. -/
def inUnits (d : Decimal) : ℚ := d.digits * 10 ^ d.exponent * unitsPerOne

/-- The units of the decimal as a ratio of natural numbers. -/
def numerator (d : Decimal) : Nat := d.digits * Nat.pow 10 d.exponent.toNat * unitsPerOne

def denominator (d : Decimal) : Nat := Nat.pow 10 (-d.exponent).toNat

theorem denominator_pos (d : Decimal) : 0 < d.denominator := Nat.pow_pos (by decide)

theorem ten_zpow_eq (e : Int) : (10 : ℚ) ^ e = 10 ^ e.toNat / 10 ^ (-e).toNat := by
  rcases Int.le_total 0 e with hpos | hneg
  · rw [show (-e).toNat = 0 by omega, pow_zero, div_one, ← zpow_natCast, Int.toNat_of_nonneg hpos]
  · rw [show e.toNat = 0 by omega, pow_zero, one_div, ← zpow_natCast,
      Int.toNat_of_nonneg (by omega), zpow_neg, inv_inv]

theorem inUnits_eq (d : Decimal) : d.inUnits = d.numerator / d.denominator := by
  rw [inUnits, numerator, denominator, ten_zpow_eq]
  simp only [Nat.pow_eq, Nat.cast_mul, Nat.cast_pow, Nat.cast_ofNat]
  ring

theorem compareQuarters_eq_nat (d : Decimal) (quarters : Nat) :
    d.compareQuarters quarters = compare (4 * d.numerator) (quarters * d.denominator) := by
  rw [compareQuarters, numerator, denominator, Nat.mul_left_comm _ 4]

theorem compareQuarters_eq (d : Decimal) (quarters : Nat) :
    d.compareQuarters quarters = compare (4 * d.inUnits) (quarters : ℚ) := by
  have hpos : (0 : ℚ) < d.denominator := by exact_mod_cast d.denominator_pos
  rw [compareQuarters_eq_nat, inUnits_eq]
  have hnum : (4 * (d.numerator / d.denominator) : ℚ) = (4 * d.numerator : Nat) / d.denominator := by
    push_cast
    ring
  rw [hnum]
  rcases Nat.lt_trichotomy (4 * d.numerator) (quarters * d.denominator) with hlt | heq | hgt
  · rw [compare_lt_iff_lt.mpr hlt, eq_comm, compare_lt_iff_lt, div_lt_iff₀ hpos]
    exact_mod_cast hlt
  · rw [compare_eq_iff_eq.mpr heq, eq_comm, compare_eq_iff_eq, div_eq_iff hpos.ne']
    exact_mod_cast heq
  · rw [compare_gt_iff_gt.mpr hgt, eq_comm, compare_gt_iff_gt, lt_div_iff₀ hpos]
    exact_mod_cast hgt

/-! The reals that round to a magnitude. -/

/-- How far they reach below it, in quarter units. -/
def reachBelow (units : Nat) : Nat :=
  if narrowBelow units then spacing units else 2 * spacing units

variable {d : Decimal} {units : Nat}

theorem spacing_le (hpos : 0 < units) : spacing units ≤ units := by
  rcases spacing_le_or units with hone | hle
  · omega
  · omega

theorem roundsTo_iff (hpos : 0 < units) : d.roundsTo units = true ↔
    (4 * (units : ℚ) - reachBelow units < 4 * d.inUnits ∨
      (units / spacing units % 2 = 0 ∧ 4 * d.inUnits = 4 * units - reachBelow units)) ∧
    (4 * d.inUnits < 4 * units + 2 * spacing units ∨
      (units / spacing units % 2 = 0 ∧ 4 * d.inUnits = 4 * units + 2 * spacing units)) := by
  have hreach : reachBelow units ≤ 4 * units := by
    have hle := spacing_le hpos
    unfold reachBelow
    split <;> omega
  have hlow : ((4 * units - reachBelow units : Nat) : ℚ) = 4 * units - reachBelow units := by
    rw [Nat.cast_sub hreach]
    push_cast
    rfl
  have hhigh : ((4 * units + 2 * spacing units : Nat) : ℚ) = 4 * units + 2 * spacing units := by
    push_cast
    rfl
  unfold roundsTo
  simp only
  rw [← reachBelow]
  simp only [compareQuarters_eq, hlow, hhigh, Bool.and_eq_true, Bool.or_eq_true, beq_iff_eq,
    compare_gt_iff_gt, compare_eq_iff_eq, compare_lt_iff_lt]

theorem reachBelow_le (units : Nat) : (reachBelow units : ℚ) ≤ 2 * spacing units := by
  have hle : reachBelow units ≤ 2 * spacing units := by
    unfold reachBelow
    split <;> omega
  exact_mod_cast hle

/-- A decimal that rounds to a magnitude is less than half its spacing away, or it is that far
away and the magnitude is an even multiple. -/
theorem half_of_roundsTo (hpos : 0 < units) (h : d.roundsTo units = true) :
    (2 * (units : ℚ) < 2 * d.inUnits + spacing units ∨
      (units / spacing units % 2 = 0 ∧ 2 * (units : ℚ) = 2 * d.inUnits + spacing units)) ∧
    (2 * d.inUnits < 2 * units + spacing units ∨
      (units / spacing units % 2 = 0 ∧ 2 * d.inUnits = 2 * units + spacing units)) := by
  obtain ⟨hlow, hhigh⟩ := (roundsTo_iff hpos).mp h
  have hreach := reachBelow_le units
  constructor
  · rcases hlow with hlt | ⟨heven, heq⟩
    · left
      linarith
    · rcases hreach.lt_or_eq with hless | hsame
      · left
        linarith
      · exact Or.inr ⟨heven, by linarith⟩
  · rcases hhigh with hlt | ⟨heven, heq⟩
    · left
      linarith
    · exact Or.inr ⟨heven, by linarith⟩

theorem abs_inUnits_sub_le (hpos : 0 < units) (h : d.roundsTo units = true) :
    |d.inUnits - units| ≤ spacing units / 2 := by
  obtain ⟨hlow, hhigh⟩ := half_of_roundsTo hpos h
  rw [abs_le]
  constructor
  · rcases hlow with hlt | ⟨-, heq⟩ <;> linarith
  · rcases hhigh with hlt | ⟨-, heq⟩ <;> linarith

/-- The magnitude below is nearer only to powers of two from 2^53 on. -/
theorem narrowBelow_iff : narrowBelow units = true ↔ ∃ k, units = 2 ^ (53 + k) := by
  unfold narrowBelow
  rw [Bool.and_eq_true, decide_eq_true_eq, beq_iff_eq, Nat.pow_eq]
  constructor
  · rintro ⟨hlog, hpow⟩
    exact ⟨units.log2 - 53, by rw [show 53 + (units.log2 - 53) = units.log2 by omega, ← hpow]⟩
  · rintro ⟨k, rfl⟩
    rw [Nat.log2_two_pow]
    exact ⟨by omega, rfl⟩

theorem numerator_eq (d : Decimal) : (d.numerator : ℚ) = d.inUnits * d.denominator := by
  rw [inUnits_eq, div_mul_cancel₀]
  exact_mod_cast d.denominator_pos.ne'

theorem spacing_two_pow (k : Nat) : spacing (2 ^ (53 + k)) = 2 ^ (k + 1) :=
  spacing_of_between (Nat.pow_le_pow_right (by decide) (by omega))
    (Nat.pow_lt_pow_right (by decide) (by omega))

theorem reachBelow_two_pow (k : Nat) : reachBelow (2 ^ (53 + k)) = 2 ^ (k + 1) := by
  rw [reachBelow, if_pos (narrowBelow_iff.mpr ⟨k, rfl⟩), spacing_two_pow]

/-- Just below a power of two the spacing is half of what it is from there on, and the decimals
that round to the power from below reach half as far. -/
theorem nearest_two_pow {k : Nat} (h : d.roundsTo (2 ^ (53 + k)) = true)
    (hbelow : d.inUnits < 2 ^ (53 + k)) :
    nearest d.numerator d.denominator = 2 ^ (53 + k) := by
  have hlow := ((roundsTo_iff (Nat.two_pow_pos _)).mp h).1
  rw [reachBelow_two_pow] at hlow
  push_cast at hlow
  have hclose : (2 : ℚ) ^ (53 + k) * 4 - 2 ^ k * 2 ≤ 4 * d.inUnits := by
    rcases hlow with hlt | ⟨-, heq⟩ <;> rw [pow_succ] at * <;> linarith
  have hpos : (0 : ℚ) < 2 ^ k := by positivity
  have hstep : spacing (d.numerator / d.denominator) = 2 ^ k := by
    apply spacing_of_between
    · rw [le_div_iff_le_ratio d.denominator_pos d.numerator_eq]
      push_cast
      rw [pow_add] at hclose ⊢
      linarith
    · rw [div_lt_iff_ratio_lt d.denominator_pos d.numerator_eq]
      push_cast
      exact hbelow
  have heven : 2 ^ (53 + k) / 2 ^ k % 2 = 0 := by
    rw [Nat.pow_add, Nat.mul_div_cancel _ (Nat.two_pow_pos k)]
  refine nearest_eq d.denominator_pos d.numerator_eq hstep (Nat.pow_dvd_pow 2 (by omega)) ?_ ?_
  · push_cast
    rcases hlow with hlt | ⟨-, heq⟩
    · left
      rw [pow_succ] at hlt
      linarith
    · refine Or.inr ⟨heven, ?_⟩
      rw [pow_succ] at heq
      linarith
  · left
    push_cast
    linarith

/-- Only a power of two has decimals below it that lie below all magnitudes with its spacing and
round to it. -/
theorem eq_two_pow_of_below {k : Nat} (hdvd : 2 ^ (k + 1) ∣ units) (hfrom : 2 ^ (53 + k) ≤ units)
    (hge : 2 * (units : ℚ) ≤ 2 * d.inUnits + 2 ^ (k + 1)) (hbelow : d.inUnits < 2 ^ (53 + k)) :
    units = 2 ^ (53 + k) := by
  obtain ⟨q, rfl⟩ := hdvd
  have hpow : 2 ^ (53 + k) = 2 ^ (k + 1) * 2 ^ 52 := by
    rw [← Nat.pow_add]
    congr 1
    omega
  rw [hpow] at hfrom ⊢
  rcases Nat.eq_or_lt_of_le (Nat.le_of_mul_le_mul_left hfrom (Nat.two_pow_pos _)) with heq | hlt
  · rw [heq]
  · -- The next magnitude is a whole step away, and only half a step is left.
    have hnext : ((2 ^ (k + 1) * (2 ^ 52 + 1) : Nat) : ℚ) ≤ (2 ^ (k + 1) * q : Nat) := by
      exact_mod_cast Nat.mul_le_mul_left _ hlt
    have hpos : (0 : ℚ) < 2 ^ k := by positivity
    push_cast at hnext hge
    rw [pow_add] at hbelow
    linarith [pow_succ (2 : ℚ) k]

/-- A decimal that rounds to a representable magnitude has this magnitude as its nearest one. -/
theorem nearest_of_roundsTo (hrep : Representable units) (hpos : 0 < units)
    (h : d.roundsTo units = true) : nearest d.numerator d.denominator = units := by
  obtain ⟨hlow, hhigh⟩ := half_of_roundsTo hpos h
  have hdeep : (units + spacing units : ℚ) ≤ spacing units * 2 ^ 53 := by
    exact_mod_cast hrep.add_spacing_le
  have hle : 2 * d.inUnits ≤ 2 * units + spacing units := by
    rcases hhigh with hlt | ⟨-, heq⟩ <;> linarith
  have hge : 2 * (units : ℚ) ≤ 2 * d.inUnits + spacing units := by
    rcases hlow with hlt | ⟨-, heq⟩ <;> linarith
  have hsame (hstep : spacing (d.numerator / d.denominator) = spacing units) :=
    nearest_eq d.denominator_pos d.numerator_eq hstep hrep.2 hlow hhigh
  rcases spacing_cases units with ⟨hsmall, hone⟩ | ⟨k, hspacing, hfrom, hto⟩
  · apply hsame
    rw [hone] at hdeep hle ⊢
    apply spacing_of_lt
    rw [div_lt_iff_ratio_lt d.denominator_pos d.numerator_eq]
    push_cast at hdeep hle ⊢
    linarith
  · rw [hspacing] at hdeep hle hge
    push_cast at hdeep hle hge
    by_cases hbelow : d.inUnits < 2 ^ (53 + k)
    · have hunits := eq_two_pow_of_below (hspacing ▸ hrep.2) hfrom hge hbelow
      subst hunits
      exact nearest_two_pow h hbelow
    · have hpos : (0 : ℚ) < 2 ^ k := by positivity
      apply hsame
      rw [hspacing]
      apply spacing_of_between
      · rw [le_div_iff_le_ratio d.denominator_pos d.numerator_eq]
        push_cast
        rw [show 52 + (k + 1) = 53 + k by omega]
        linarith
      · rw [div_lt_iff_ratio_lt d.denominator_pos d.numerator_eq]
        push_cast
        rw [show 53 + (k + 1) = k + 1 + 53 by omega, pow_add]
        linarith [pow_succ (2 : ℚ) k]

/-! The leading digit. -/

/-- Powers of two and of ten by two fractions near the logarithm, one for each sign. -/
theorem two_zpow_le_ten_zpow {t e : Int} (hpos : 28 * t ≤ 93 * e) (hneg : 59 * t ≤ 196 * e) :
    (2 : ℚ) ^ t ≤ 10 ^ e := by
  have hten : (0 : ℚ) ≤ 10 ^ e := by positivity
  have htwo : (0 : ℚ) ≤ 2 ^ t := by positivity
  rcases Int.le_total 0 t with h | h
  · obtain ⟨n, rfl⟩ := Int.eq_ofNat_of_zero_le h
    rw [← pow_le_pow_iff_left₀ htwo hten (n := 93) (by decide)]
    calc ((2 : ℚ) ^ (n : Int)) ^ 93 = (2 ^ 93) ^ n := by
          rw [zpow_natCast, ← pow_mul, ← pow_mul, Nat.mul_comm]
      _ ≤ (10 ^ 28) ^ n := pow_le_pow_left₀ (by norm_num) (by norm_num) n
      _ = 10 ^ (28 * (n : Int)) := by rw [← pow_mul, ← zpow_natCast]; push_cast; rfl
      _ ≤ 10 ^ (e * (93 : Nat)) := zpow_le_zpow_right₀ (by norm_num) (by omega)
      _ = (10 ^ e) ^ 93 := by rw [zpow_mul, zpow_natCast]
  · obtain ⟨n, hn⟩ := Int.eq_ofNat_of_zero_le (Int.neg_nonneg_of_nonpos h)
    obtain rfl : t = -(n : Int) := by omega
    rw [← pow_le_pow_iff_left₀ htwo hten (n := 196) (by decide)]
    calc ((2 : ℚ) ^ (-(n : Int))) ^ 196 = ((2 ^ 196) ^ n)⁻¹ := by
          rw [zpow_neg, zpow_natCast, inv_pow, ← pow_mul, ← pow_mul, Nat.mul_comm]
      _ ≤ ((10 ^ 59) ^ n)⁻¹ :=
          inv_anti₀ (by positivity) (pow_le_pow_left₀ (by norm_num) (by norm_num) n)
      _ = 10 ^ (59 * -(n : Int)) := by
          rw [← pow_mul, ← zpow_natCast, ← zpow_neg]
          push_cast
          rw [Int.mul_neg]
      _ ≤ 10 ^ (e * (196 : Nat)) := zpow_le_zpow_right₀ (by norm_num) (by omega)
      _ = (10 ^ e) ^ 196 := by rw [zpow_mul, zpow_natCast]

theorem inUnits_one (e : Int) : (Decimal.mk 1 e).inUnits = 10 ^ e * unitsPerOne := by
  rw [inUnits, Nat.cast_one, one_mul]

theorem compareQuarters_one_ne_gt_iff {e : Int} :
    (Decimal.mk 1 e).compareQuarters (4 * units) != .gt ↔ (10 : ℚ) ^ e * unitsPerOne ≤ units := by
  rw [bne_iff_ne, Ne, compareQuarters_eq, compare_gt_iff_gt, inUnits_one, not_lt]
  push_cast
  constructor
  · intro h
    linarith
  · intro h
    linarith

theorem two_zpow_units (k : Nat) : (2 : ℚ) ^ ((k : Int) - binaryPlaces) * unitsPerOne = 2 ^ k := by
  unfold unitsPerOne
  -- As a literal the exponent would be taken for a power to compute.
  generalize binaryPlaces = places
  rw [Nat.pow_eq, Nat.cast_pow, Nat.cast_ofNat, zpow_sub₀ (by norm_num), zpow_natCast,
    zpow_natCast, div_mul_cancel₀]
  positivity

/-- The exponent of the leading digit is that of the largest power of ten which does not exceed the
magnitude. -/
theorem leadingExponent_spec (hpos : 0 < units) (hlt : units < unitsBeyond) :
    (10 : ℚ) ^ leadingExponent units * unitsPerOne ≤ units ∧
      units < (10 : ℚ) ^ (leadingExponent units + 1) * unitsPerOne := by
  have hunit : (0 : ℚ) < unitsPerOne := by exact_mod_cast unitsPerOne_pos
  have hlow : (2 : ℚ) ^ units.log2 ≤ units := by exact_mod_cast Nat.log2_self_le (by omega)
  have hhigh : (units : ℚ) < 2 ^ (units.log2 + 1) := by exact_mod_cast Nat.lt_log2_self
  have hlog := log2_lt_magnitudeBits hpos hlt
  have hbits : (magnitudeBits : Int) = 2098 := rfl
  have hplaces : (binaryPlaces : Int) = 1074 := rfl
  rw [← two_zpow_units] at hlow hhigh
  unfold leadingExponent
  simp only [compareQuarters_one_ne_gt_iff]
  generalize hestimate : ((units.log2 : Int) - binaryPlaces) * 30103 / 100000 = estimate
  have hbelow : (10 : ℚ) ^ (estimate - 1) * unitsPerOne ≤ units := by
    have hpow := two_zpow_le_ten_zpow (t := -((units.log2 : Int) - binaryPlaces))
      (e := -(estimate - 1)) (by omega) (by omega)
    rw [zpow_neg, zpow_neg, inv_le_inv₀ (by positivity) (by positivity)] at hpow
    exact (mul_le_mul_of_nonneg_right hpow hunit.le).trans hlow
  have habove : units < (10 : ℚ) ^ (estimate + 2) * unitsPerOne := by
    have hpow := two_zpow_le_ten_zpow (t := ((units.log2 + 1 : Nat) : Int) - binaryPlaces)
      (e := estimate + 2) (by omega) (by omega)
    exact hhigh.trans_le (mul_le_mul_of_nonneg_right hpow hunit.le)
  split
  · rename_i hfirst
    exact ⟨hfirst, by rwa [add_assoc]⟩
  · rename_i hfirst
    split
    · rename_i hsecond
      exact ⟨hsecond, not_le.mp hfirst⟩
    · rename_i hsecond
      rw [sub_add_cancel]
      exact ⟨hbelow, not_le.mp hsecond⟩

/-! Grids. -/

/-- The digits of the neighbour below, or of the magnitude itself, on a grid. -/
def floorOnGrid (units : Nat) (exponent : Int) : Nat :=
  units * Nat.pow 10 (-exponent).toNat / (unitsPerOne * Nat.pow 10 exponent.toNat)

theorem inUnits_mk (digits : Nat) (e : Int) :
    (Decimal.mk digits e).inUnits = digits * (10 ^ e * unitsPerOne) := mul_assoc _ _ _

theorem floorOnGrid_spec (units : Nat) (e : Int) :
    (Decimal.mk (floorOnGrid units e) e).inUnits ≤ units ∧
      units < (Decimal.mk (floorOnGrid units e + 1) e).inUnits := by
  have hden : (0 : ℚ) < Nat.pow 10 (-e).toNat := by exact_mod_cast Nat.pow_pos (by decide)
  have hstep : 0 < unitsPerOne * Nat.pow 10 e.toNat :=
    Nat.mul_pos unitsPerOne_pos (Nat.pow_pos (by decide))
  have hnumerator (digits : Nat) : (Decimal.mk digits e).numerator =
      digits * (unitsPerOne * Nat.pow 10 e.toNat) := by
    rw [numerator, Nat.mul_assoc, Nat.mul_comm unitsPerOne]
  rw [inUnits_eq, inUnits_eq, hnumerator, hnumerator, denominator, denominator, div_le_iff₀ hden,
    lt_div_iff₀ hden, floorOnGrid]
  constructor
  · exact_mod_cast Nat.div_mul_le_self _ _
  · have hnext := Nat.lt_mul_div_succ (units * Nat.pow 10 (-e).toNat) hstep
    rw [Nat.mul_comm (unitsPerOne * _)] at hnext
    exact_mod_cast hnext

theorem onGrid_cases (tiesUp : Bool) (units : Nat) (e : Int) :
    (∃ d, onGrid tiesUp units e = some d ∧ d.roundsTo units = true ∧
      (d = ⟨floorOnGrid units e, e⟩ ∨ d = ⟨floorOnGrid units e + 1, e⟩)) ∨
    (onGrid tiesUp units e = none ∧
      (Decimal.mk (floorOnGrid units e) e).roundsTo units = false ∧
      (Decimal.mk (floorOnGrid units e + 1) e).roundsTo units = false) := by
  unfold onGrid
  simp only
  rw [← floorOnGrid]
  by_cases hlower : (Decimal.mk (floorOnGrid units e) e).roundsTo units = true
  · left
    rw [if_pos hlower]
    by_cases hupper : (Decimal.mk (floorOnGrid units e + 1) e).roundsTo units = true
    · rw [if_pos hupper]
      split
      · exact ⟨_, rfl, hlower, Or.inl rfl⟩
      · exact ⟨_, rfl, hupper, Or.inr rfl⟩
      · refine ⟨_, rfl, ?_⟩
        split
        · exact ⟨hlower, Or.inl rfl⟩
        · exact ⟨hupper, Or.inr rfl⟩
    · rw [if_neg hupper]
      exact ⟨_, rfl, hlower, Or.inl rfl⟩
  · rw [if_neg hlower]
    by_cases hupper : (Decimal.mk (floorOnGrid units e + 1) e).roundsTo units = true
    · rw [if_pos hupper]
      exact Or.inl ⟨_, rfl, hupper, Or.inr rfl⟩
    · rw [if_neg hupper]
      exact Or.inr ⟨rfl, Bool.eq_false_iff.mpr hlower, Bool.eq_false_iff.mpr hupper⟩

/-- A step of which a magnitude has at least 10^16 is smaller than the interval around it. -/
theorem step_lt_interval {step : ℚ} (hrep : Representable units) (hfine : 10 ^ 16 * step ≤ units) :
    4 * step < reachBelow units + 2 * spacing units := by
  cases hnarrow : narrowBelow units with
  | true =>
    obtain ⟨k, rfl⟩ := narrowBelow_iff.mp hnarrow
    have hpos : (0 : ℚ) < 2 ^ k := by positivity
    rw [reachBelow_two_pow, spacing_two_pow]
    push_cast at hfine ⊢
    rw [pow_add] at hfine ⊢
    linarith
  | false =>
    have hreach : reachBelow units = 2 * spacing units := by
      rw [reachBelow, hnarrow, if_neg Bool.false_ne_true]
    have hspacing : (0 : ℚ) < spacing units := by exact_mod_cast spacing_pos units
    have hdeep : (units + spacing units : ℚ) ≤ spacing units * 2 ^ 53 := by
      exact_mod_cast hrep.add_spacing_le
    rw [hreach]
    push_cast
    linarith

/-- A grid so fine that a magnitude has at least 10^16 steps has a neighbour of it that rounds to
it. -/
theorem onGrid_fine (tiesUp : Bool) {e : Int} (hrep : Representable units) (hpos : 0 < units)
    (hfine : 10 ^ 16 * ((10 : ℚ) ^ e * unitsPerOne) ≤ units) : onGrid tiesUp units e ≠ none := by
  intro hnone
  obtain ⟨hbelow, habove⟩ := floorOnGrid_spec units e
  rcases onGrid_cases tiesUp units e with ⟨d, hsome, -⟩ | ⟨-, hlower, hupper⟩
  · rw [hnone] at hsome
    cases hsome
  · have hspacing : (0 : ℚ) < spacing units := by exact_mod_cast spacing_pos units
    have hreach : (0 : ℚ) ≤ reachBelow units := Nat.cast_nonneg _
    rw [← Bool.not_eq_true, roundsTo_iff hpos, not_and_or, not_or, not_or, not_lt, not_lt] at hlower hupper
    have hfar : 4 * (Decimal.mk (floorOnGrid units e) e).inUnits ≤ 4 * units - reachBelow units := by
      rcases hlower with ⟨hlow, -⟩ | ⟨hhigh, -⟩
      · exact hlow
      · linarith
    have hfar' : 4 * (units : ℚ) + 2 * spacing units ≤
        4 * (Decimal.mk (floorOnGrid units e + 1) e).inUnits := by
      rcases hupper with ⟨hlow, -⟩ | ⟨hhigh, -⟩
      · linarith
      · exact hhigh
    have hinterval := step_lt_interval hrep hfine
    rw [inUnits_mk] at hfar hfar'
    push_cast at hfar'
    generalize floorOnGrid units e = below, (10 : ℚ) ^ e * unitsPerOne = step at hfar hfar' hinterval
    linarith

/-- The search ends on one of its grids if there is a decimal on the last of them. -/
theorem firstOnGrids_spec {grid : Int → Option Decimal} {count : Nat} {e : Int}
    (h : grid (e - count) ≠ none) :
    ∃ d e', firstOnGrids grid (count + 1) e = some d ∧ grid e' = some d ∧ e - count ≤ e' := by
  induction count generalizing e with
  | zero =>
    rw [Int.natCast_zero, Int.sub_zero] at h
    rw [firstOnGrids]
    cases hgrid : grid e with
    | none => exact absurd hgrid h
    | some d => exact ⟨d, e, rfl, hgrid, by omega⟩
  | succ count ih =>
    rw [firstOnGrids]
    cases hgrid : grid e with
    | none =>
      rw [show e - ((count + 1 : Nat) : Int) = e - 1 - count by omega] at h
      obtain ⟨d, e', hfirst, hfound, hle⟩ := ih h
      exact ⟨d, e', hfirst, hfound, by omega⟩
    | some d => exact ⟨d, e, rfl, hgrid, by omega⟩

theorem dropZeros_spec (count : Nat) (d : Decimal) :
    (dropZeros count d).inUnits = d.inUnits ∧ (dropZeros count d).digits ≤ d.digits := by
  fun_induction dropZeros count d with
  | case1 d => exact ⟨rfl, Nat.le_refl _⟩
  | case2 count d hzero ih =>
    obtain ⟨hunits, hdigits⟩ := ih
    refine ⟨hunits.trans ?_, Nat.le_trans hdigits (Nat.div_le_self _ _)⟩
    have hten : (d.digits : ℚ) = (d.digits / 10 : Nat) * 10 := by
      exact_mod_cast (Nat.div_mul_cancel (Nat.dvd_of_mod_eq_zero hzero)).symm
    rw [inUnits, inUnits, hten, zpow_add_one₀ (by norm_num)]
    ring
  | case3 d => exact ⟨rfl, Nat.le_refl _⟩

theorem roundsTo_congr {d' : Decimal} (h : d.inUnits = d'.inUnits) (units : Nat) :
    d.roundsTo units = d'.roundsTo units := by
  simp only [roundsTo, compareQuarters_eq, h]

theorem shortest_eq {tiesUp : Bool} (hpos : 0 < units)
    (h : firstOnGrids (onGrid tiesUp units) 17 (leadingExponent units) = some d) :
    shortest tiesUp units = dropZeros 17 d := by
  unfold shortest
  rw [if_neg (Nat.ne_of_gt hpos), h]

/-- The digits on a grid up to seventeen places below the next power of ten. -/
theorem floorOnGrid_lt {e : Int} (h : (units : ℚ) < 10 ^ (e + 17) * unitsPerOne) :
    floorOnGrid units e < 10 ^ 17 := by
  have hunit : (0 : ℚ) < unitsPerOne := by exact_mod_cast unitsPerOne_pos
  have hstep : (0 : ℚ) < 10 ^ e * unitsPerOne := by positivity
  have hbelow := (floorOnGrid_spec units e).1
  rw [inUnits_mk] at hbelow
  rw [zpow_add₀ (by norm_num)] at h
  have hless : (floorOnGrid units e : ℚ) * (10 ^ e * unitsPerOne) <
      10 ^ 17 * (10 ^ e * unitsPerOne) := by
    refine hbelow.trans_lt (h.trans_eq ?_)
    generalize (unitsPerOne : ℚ) = unit
    norm_num
    ring
  exact_mod_cast lt_of_mul_lt_mul_right hless hstep.le

/-- The shortest decimal of a magnitude rounds to it, and its digits number at most 10^17. -/
theorem shortest_spec (tiesUp : Bool) (hrep : Representable units) (hpos : 0 < units) :
    (shortest tiesUp units).roundsTo units = true ∧ (shortest tiesUp units).digits ≤ 10 ^ 17 := by
  obtain ⟨hleading, hnext⟩ := leadingExponent_spec hpos hrep.1
  have hfine : 10 ^ 16 * ((10 : ℚ) ^ (leadingExponent units - (16 : Nat)) * unitsPerOne) ≤
      units := by
    rw [zpow_sub₀ (by norm_num), zpow_natCast]
    refine le_of_eq_of_le ?_ hleading
    generalize (unitsPerOne : ℚ) = unit
    field_simp
  obtain ⟨d, e, hfirst, hgrid, hle⟩ := firstOnGrids_spec (onGrid_fine tiesUp hrep hpos hfine)
  obtain ⟨hsame, hdigits⟩ := dropZeros_spec 17 d
  rw [shortest_eq hpos hfirst]
  rcases onGrid_cases tiesUp units e with ⟨d', hsome, hrounds, hmk⟩ | ⟨hnone, -⟩
  · obtain rfl : d = d' := Option.some.inj (hgrid.symm.trans hsome)
    refine ⟨(roundsTo_congr hsame units).trans hrounds, hdigits.trans ?_⟩
    have hfloor : floorOnGrid units e < 10 ^ 17 := by
      apply floorOnGrid_lt
      refine hnext.trans_le (mul_le_mul_of_nonneg_right ?_ (Nat.cast_nonneg _))
      exact zpow_le_zpow_right₀ (by norm_num) (by omega)
    rcases hmk with rfl | rfl
    · exact hfloor.le
    · exact hfloor
  · rw [hnone] at hgrid
    cases hgrid

end Decimal
end DocQuery
