import DocQuery.Number.Rounding

/-!
Whole numbers and integers. A whole number is the number nearest to its integer, but for
the sign of zero. Between 2^63 - 1 and 2^63 there is no other number. All numbers but NaN
are ordered by their positions.
-/

namespace DocQuery.Number

theorem natAbs_signed (negative : Bool) (magnitude : Nat) :
    (signed negative magnitude).natAbs = magnitude := by
  cases negative with
  | false => exact Int.natAbs_natCast magnitude
  | true => exact (Int.natAbs_neg _).trans (Int.natAbs_natCast magnitude)

/-- What `integer?` says of a finite number, in units. -/
theorem units_of_integer? {negative : Bool} {units : Nat} {h : Representable units} {i : Int}
    (hi : (Number.finite negative units h).integer? = some i) :
    i.natAbs * unitsPerOne = units ∧ signed negative (i.natAbs : Nat) = i := by
  rw [integer?] at hi
  split at hi
  · rename_i hwhole
    have habs : i.natAbs = units / unitsPerOne := by
      rw [← Option.some.inj hi]
      exact natAbs_signed negative _
    constructor
    · rw [habs]
      exact Nat.div_mul_cancel (Nat.dvd_of_mod_eq_zero hwhole)
    · rw [habs]
      exact Option.some.inj hi
  · cases hi

theorem signed_mul (negative : Bool) (magnitude unit : Nat) :
    signed negative (magnitude * unit) = signed negative magnitude * unit := by
  cases negative with
  | false => exact Int.natCast_mul _ _
  | true =>
    change -((magnitude * unit : Nat) : Int) = -(magnitude : Int) * unit
    rw [Int.natCast_mul, Int.neg_mul]

theorem natAbs_signed_sub (negative : Bool) (m n : Nat) :
    (signed negative m - signed negative n).natAbs = ((m : Int) - n).natAbs := by
  cases negative with
  | false => rfl
  | true =>
    change (-(m : Int) - -(n : Int)).natAbs = _
    omega

theorem signed_natAbs (i : Int) : signed (decide (i < 0)) i.natAbs = i := by
  by_cases hneg : i < 0
  · rw [decide_eq_true hneg]
    change -(i.natAbs : Int) = i
    omega
  · rw [decide_eq_false hneg]
    change (i.natAbs : Int) = i
    omega

theorem signed_eq_signed {a b : Bool} {m n : Nat} (h : signed a m = signed b n) : a = b ∨ n = 0 := by
  cases a <;> cases b
  · exact Or.inl rfl
  · change (m : Int) = -(n : Int) at h
    omega
  · change -(m : Int) = (n : Int) at h
    omega
  · exact Or.inl rfl

theorem unitsPerOne_ne_zero : (unitsPerOne : Int) ≠ 0 :=
  Int.natCast_ne_zero.mpr (Nat.ne_of_gt unitsPerOne_pos)

/-- The number is finite and lies where the integer does. -/
def Is (n : Number) (i : Int) : Prop := n.isFinite = true ∧ n.position = some (i * unitsPerOne)

/-- The integer of a whole number is the one that the number is. -/
theorem integer?_eq_some_iff {n : Number} {i : Int} : n.integer? = some i ↔ n.Is i := by
  cases n with
  | nan => exact iff_of_false nofun nofun
  | infinite negative => exact iff_of_false nofun fun h => absurd h.1 Bool.false_ne_true
  | finite negative units h =>
    constructor
    · intro hi
      obtain ⟨hunits, hsign⟩ := units_of_integer? hi
      refine ⟨rfl, ?_⟩
      rw [position, ← hunits, signed_mul, hsign]
    · rintro ⟨-, hposition⟩
      have hline : signed negative units = i * unitsPerOne := Option.some.inj hposition
      have hunits : units = i.natAbs * unitsPerOne := by
        rw [← natAbs_signed negative units, hline, Int.natAbs_mul, Int.natAbs_natCast]
      have hsign : signed negative i.natAbs = i := by
        rw [hunits, signed_mul] at hline
        exact Int.eq_of_mul_eq_mul_right unitsPerOne_ne_zero hline
      rw [integer?, hunits, Nat.mul_mod_left, if_pos rfl,
        Nat.mul_div_cancel _ unitsPerOne_pos, hsign]

theorem Is.isZero_iff {n : Number} {i : Int} (h : n.Is i) : n.isZero = true ↔ i = 0 := by
  rw [isZero, h.2, beq_iff_eq, Option.some.injEq, Int.mul_eq_zero]
  exact or_iff_left unitsPerOne_ne_zero

theorem ofInt_of_integer? {n : Number} {i : Int} (hi : n.integer? = some i) :
    (ofInt i == n) = true := by
  cases n with
  | finite negative units h =>
    obtain ⟨hunits, hsign⟩ := units_of_integer? hi
    have hnear : ofInt i = .finite (decide (i < 0)) units h := by
      rw [ofInt, ofRatio, hunits, ofUnits_of_representable _ h]
    change equal _ _ = true
    rw [equal_iff, hnear]
    refine ⟨signed negative units, ?_, rfl⟩
    have hzero : i = 0 → units = 0 := by
      rintro rfl
      simpa using hunits.symm
    cases negative with
    | false =>
      have hnonneg : ¬i < 0 := by
        simp only [signed, Bool.false_eq_true, if_false] at hsign
        omega
      simp [position, hnonneg]
    | true =>
      by_cases hneg : i < 0
      · simp [position, hneg]
      · have hi0 : i = 0 := by
          simp only [signed, if_true] at hsign
          omega
        simp [position, hzero hi0, hneg, signed]
  | nan => cases hi
  | infinite negative => cases hi

theorem representable_mul_unitsPerOne {n : Nat} (h : n ≤ Nat.pow 2 53) :
    Representable (n * unitsPerOne) := by
  have hbits : 53 + binaryPlaces < magnitudeBits := by decide
  unfold Representable unitsPerOne unitsBeyond
  -- As literals the exponents would be taken for powers to compute.
  generalize binaryPlaces = places, magnitudeBits = bits at hbits
  refine ⟨?_, spacing_dvd_mul_pow places h⟩
  calc n * 2 ^ places ≤ 2 ^ 53 * 2 ^ places := Nat.mul_le_mul_right _ h
    _ = 2 ^ (53 + places) := (Nat.pow_add ..).symm
    _ < 2 ^ bits := Nat.pow_lt_pow_right Nat.one_lt_two hbits

/-- An integer with 53 bits, or the one after the last of these, is a number. -/
theorem position_ofInt {i : Int} (h : i.natAbs ≤ Nat.pow 2 53) :
    (ofInt i).position = some (i * unitsPerOne) := by
  rw [ofInt, ofRatio, ofUnits_of_representable _ (representable_mul_unitsPerOne h), position]
  rw [signed_mul, signed_natAbs]

theorem is_ofInt {i : Int} (h : i.natAbs ≤ Nat.pow 2 53) : (ofInt i).Is i := by
  refine ⟨?_, position_ofInt h⟩
  rw [ofInt, ofRatio, ofUnits_of_representable _ (representable_mul_unitsPerOne h), isFinite]

theorem compare?_ofInt {i j : Int} (hi : i.natAbs ≤ Nat.pow 2 53) (hj : j.natAbs ≤ Nat.pow 2 53) :
    (ofInt i).compare? (ofInt j) = some (compare i j) := by
  have hpos : (0 : Int) < unitsPerOne := Int.natCast_pos.mpr unitsPerOne_pos
  have hcompare : (ofInt i).compare? (ofInt j) =
      some (compare (i * unitsPerOne) (j * unitsPerOne)) := by
    rw [compare?, position_ofInt hi, position_ofInt hj]
  rw [hcompare, Option.some.injEq]
  rcases Int.lt_trichotomy i j with hlt | rfl | hgt
  · rw [Int.compare_eq_lt.mpr hlt, Int.compare_eq_lt]
    exact Int.mul_lt_mul_of_pos_right hlt hpos
  · exact (Int.compare_eq_eq.mpr rfl).trans (Int.compare_eq_eq.mpr rfl).symm
  · rw [Int.compare_eq_gt.mpr hgt, Int.compare_eq_gt]
    exact Int.mul_lt_mul_of_pos_right hgt hpos

theorem isZero_ofInt {i : Int} (h : i.natAbs ≤ Nat.pow 2 53) :
    (ofInt i).isZero = decide (i = 0) := by
  rw [Bool.eq_iff_iff, (is_ofInt h).isZero_iff, decide_eq_true_eq]

/-- The largest signed integer of 64 bits is rounded to one more. -/
theorem ofInt_int64Most : ofInt 0x7FFFFFFFFFFFFFFF = ofInt 0x8000000000000000 := by
  decide +kernel

theorem ofInt_ne_nan (i : Int) : ofInt i ≠ .nan := by
  rw [ofInt, ofRatio, ofUnits]
  split
  · rintro ⟨⟩
  · rintro ⟨⟩

theorem exists_finite {n : Number} (h : n.isFinite = true) :
    ∃ negative units hrep, n = .finite negative units hrep := by
  cases n with
  | nan | infinite => cases h
  | finite negative units hrep => exact ⟨negative, units, hrep, rfl⟩

theorem isFinite_of_equal {m n : Number} (h : (m == n) = true) (hfinite : n.isFinite = true) :
    m.isFinite = true := by
  obtain ⟨p, hm, hn⟩ := equal_iff.mp h
  obtain ⟨negative, units, hrep, rfl⟩ := exists_finite hfinite
  cases m with
  | nan => cases hm
  | finite => rfl
  | infinite negative' =>
    have hsame : signed negative' unitsBeyond = signed negative units :=
      (Option.some.inj hm).trans (Option.some.inj hn).symm
    have habs := congrArg Int.natAbs hsame
    rw [natAbs_signed, natAbs_signed] at habs
    exact absurd hrep.1 (Nat.not_lt.mpr (Nat.le_of_eq habs))

theorem exists_compare? {a b : Number} (ha : a ≠ .nan) (hb : b ≠ .nan) :
    ∃ o, a.compare? b = some o := by
  have hposition : ∀ n : Number, n ≠ .nan → ∃ p, n.position = some p := by
    intro n hn
    cases n with
    | nan => exact absurd rfl hn
    | _ => exact ⟨_, rfl⟩
  obtain ⟨p, hp⟩ := hposition a ha
  obtain ⟨q, hq⟩ := hposition b hb
  exact ⟨compare p q, by rw [compare?, hp, hq]⟩

theorem compare?_swap (a b : Number) : b.compare? a = (a.compare? b).map Ordering.swap := by
  rw [compare?, compare?]
  cases a.position with
  | none => cases b.position <;> rfl
  | some p =>
    cases b.position with
    | none => rfl
    | some q => exact congrArg some (Int.compare_swap p q).symm

theorem equal_eq_compare? (a b : Number) : a.equal b = (a.compare? b == some .eq) := by
  rw [equal, compare?]
  cases a.position with
  | none => cases b.position <;> rfl
  | some p =>
    cases b.position with
    | none => rfl
    | some q =>
      rw [Bool.eq_iff_iff, beq_iff_eq, beq_iff_eq, Option.some.injEq, Int.compare_eq_eq]

end DocQuery.Number
