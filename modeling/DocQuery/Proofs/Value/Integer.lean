import DocQuery.Proofs.Number
import DocQuery.Value.Json
import Mathlib.Algebra.Group.Int.Defs

/-!
Numbers as integers of 64 bits. A number that lies at an integer in their range gives this
integer, and is written as its numeral in JSON text. The bound above is itself a number, and
it is let through: it gives the integer before it, which no number is.
-/

namespace DocQuery

namespace Number

theorem Is.unique {n : Number} {i j : Int} (hi : n.Is i) (hj : n.Is j) : i = j :=
  Option.some.inj ((integer?_eq_some_iff.mpr hi).symm.trans (integer?_eq_some_iff.mpr hj))

theorem is_zero_iff {n : Number} : n.Is 0 ↔ n.isZero = true := by
  have hbeyond : 0 < unitsBeyond := representable_zero.1
  rw [Is, isZero, beq_iff_eq, Int.zero_mul]
  refine ⟨And.right, fun hposition => ⟨?_, hposition⟩⟩
  cases n with
  | nan => cases hposition
  | finite negative units h => rfl
  | infinite negative =>
    have hzero : signed negative unitsBeyond = 0 := Option.some.inj hposition
    have habs := natAbs_signed negative unitsBeyond
    rw [hzero, Int.natAbs_zero] at habs
    omega

end Number

namespace Value

theorem int64OfNumber?_eq_some_iff {n : Number} {k : Int} :
    int64OfNumber? n = some k ↔
      (n.Is k ∧ -2 ^ 63 ≤ k ∧ k < 2 ^ 63) ∨ (n.Is (2 ^ 63) ∧ k = 2 ^ 63 - 1) := by
  have hleast : int64Least = -2 ^ 63 := rfl
  have hmost : int64Most = 2 ^ 63 - 1 := rfl
  rw [int64OfNumber?, hleast, hmost]
  cases hinteger : n.integer? with
  | none =>
    have hno : ∀ i, ¬n.Is i := fun i hi => by
      rw [← Number.integer?_eq_some_iff, hinteger] at hi
      cases hi
    exact iff_of_false nofun fun h => h.elim (fun h => hno _ h.1) fun h => hno _ h.1
  | some i =>
    have hi : n.Is i := Number.integer?_eq_some_iff.mp hinteger
    have his : ∀ j, n.Is j ↔ i = j := fun j => ⟨hi.unique, fun h => h ▸ hi⟩
    simp only [his]
    split
    · rw [Option.some.injEq]
      omega
    · refine iff_of_false nofun ?_
      omega

theorem wholeNumber_eq_integer_iff {n : Number} {k : Int} :
    wholeNumber n = .integer k ↔ int64OfNumber? n = some k := by
  rw [wholeNumber]
  cases int64OfNumber? n with
  | some i => rw [Json.integer.injEq, Option.some.injEq]
  | none => cases n.isFinite <;> exact iff_of_false nofun nofun

theorem compact_wholeNumber (n : Number) :
    (wholeNumber n).compact = ((int64OfNumber? n).map Numeral.integer).getD (Json.floatText n) := by
  rw [wholeNumber]
  cases int64OfNumber? n with
  | some i => rfl
  | none =>
    cases hfinite : n.isFinite with
    | true => rfl
    | false =>
      rw [Option.map_none, Option.getD_none, Json.floatText, hfinite]
      rfl

/-- A number gives the integer that it is, if this is one of 64 bits, and no other number gives
an integer but the one after the largest of these, which gives the largest. A number that gives
an integer is written as its numeral, zeros of both signs as that of zero; any other number is
written with a point or an exponent, or as null. -/
theorem integers_are_exact_but_at_limit (n : Number) (k : Int) :
    ((number n).int64? = some k ↔
      (n.Is k ∧ -2 ^ 63 ≤ k ∧ k < 2 ^ 63) ∨ (n.Is (2 ^ 63) ∧ k = 2 ^ 63 - 1)) ∧
    ((number n).toJson wholeNumber = .integer k ↔ (number n).int64? = some k) ∧
    ((number n).toJson wholeNumber = .integer 0 ↔ n.isZero = true) ∧
    (number n).jsonText =
      String.ofList (((number n).int64?.map Numeral.integer).getD (Json.floatText n)) := by
  have hzero : int64OfNumber? n = some 0 ↔ n.isZero = true := by
    rw [int64OfNumber?_eq_some_iff, Number.is_zero_iff]
    constructor
    · rintro (⟨h, -⟩ | ⟨-, h⟩)
      · exact h
      · cases h
    · exact fun h => Or.inl ⟨h, by decide⟩
  exact ⟨int64OfNumber?_eq_some_iff, wholeNumber_eq_integer_iff,
    wholeNumber_eq_integer_iff.trans hzero, congrArg String.ofList (compact_wholeNumber n)⟩

/-- The number 2^63 gives the integer before it, and its text is that of this integer, which it
is not. -/
theorem two_pow_63_gives_integer_before :
    let n : Number := .ofInt (2 ^ 63)
    n.Is (2 ^ 63) ∧ (number n).int64? = some (2 ^ 63 - 1) ∧ ¬n.Is (2 ^ 63 - 1) ∧
      (number n).jsonText = "9223372036854775807" := by
  intro n
  have his : n.Is (2 ^ 63) := Number.integer?_eq_some_iff.mp (by decide +kernel)
  have hgives : int64OfNumber? n = some (2 ^ 63 - 1) :=
    int64OfNumber?_eq_some_iff.mpr (Or.inr ⟨his, rfl⟩)
  refine ⟨his, hgives, fun h => absurd (his.unique h) (by decide), ?_⟩
  decide +kernel

end Value
end DocQuery
