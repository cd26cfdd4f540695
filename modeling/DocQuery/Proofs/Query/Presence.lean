import DocQuery.Proofs.Instant
import DocQuery.Proofs.Query.Distribution
import DocQuery.Proofs.Query.SingleTest

/-!
Asking whether a datum is there. The operand of such a query is taken for true or for false,
and a datum answers it by being something or nothing. The operand is taken in its comparable
form, which keeps the truth of every value but one kind of instant: in the first millisecond
of the epoch an instant is the number zero, and zero is not true.
-/

namespace DocQuery

namespace Value

/-- An instant in the first millisecond of the epoch. -/
def isEpoch : Value → Bool
  | .date t => decide (t.epochMillis = 0)
  | _ => false

theorem isTruthy_normalize (v : Value) : v.normalize.isTruthy = (v.isTruthy && !v.isEpoch) := by
  cases v with
  | date t =>
    have hzero : t.epochNumber.isZero = decide (t.epochMillis = 0) :=
      Number.isZero_ofInt t.natAbs_epochMillis_le
    have hnan : t.epochNumber.isNaN = false := by
      cases hnumber : t.epochNumber with
      | nan => exact absurd hnumber (Number.ofInt_ne_nan _)
      | _ => rfl
    change (!t.epochNumber.isZero && !t.epochNumber.isNaN) = (true && !decide (t.epochMillis = 0))
    rw [hzero, hnan, Bool.not_false, Bool.and_true, Bool.true_and]
  | array items =>
    rw [normalize_array]
    rfl
  | _ => exact (Bool.and_true _).symm

end Value

namespace Query

variable (answers : Answers) {registry : Registry}

theorem Means.presence (hpresent : registry.HasBuiltIn .present) (limit : Nat) (operand : Value) :
    Means answers registry limit (.singleton "$exists" operand) fun datum =>
      (operand.isTruthy && !operand.isEpoch) == !datum.isNullish := by
  have hcheck : Builtin.present.prepare operand.normalize =
      .ok (.present (operand.isTruthy && !operand.isEpoch)) := by
    rw [Builtin.prepare, Value.isTruthy_normalize]
  refine (Means.prepared answers limit hpresent rfl hcheck).congr fun datum => ?_
  rw [Check.run, Value.isNullish_normalize]
  rfl

/-- A query for presence compiles whatever its operand is. Data that are something answer it
if the operand is true and not an instant in the first millisecond of the epoch; absence and
null answer it otherwise. The same is asked of a field, where a datum that is no array and
lacks the field, or has nothing in it, answers as absence does. -/
theorem presence_follows_truth_after_epoch (hpresent : registry.HasBuiltIn .present)
    (operand : Value) :
    (∀ options, HoldsExactly answers registry options (.singleton "$exists" operand) fun datum =>
      (operand.isTruthy = true ∧ operand.isEpoch = false) ↔ datum.isNullish = false) ∧
    ∀ field, IsSimpleField field → ∀ sorted limit,
      ∃ s, compile registry ⟨sorted, limit + 1⟩
          (.singleton field (.singleton "$exists" operand)) = .ok s ∧
        ∀ datum : Value, ¬datum.IsArray →
          (∀ d, datum.get? field = some d → d.isNullish = true) →
          (s.test answers datum = true ↔
            ¬(operand.isTruthy = true ∧ operand.isEpoch = false)) := by
  have hmeans (limit : Nat) := Means.presence answers hpresent limit operand
  have htrue : (operand.isTruthy && !operand.isEpoch) = true ↔
      (operand.isTruthy = true ∧ operand.isEpoch = false) := by
    rw [Bool.and_eq_true, Bool.not_eq_true']
  constructor
  · intro options
    refine (hmeans options.depthLimit).holdsExactly fun datum => ?_
    rw [beq_iff_eq, Bool.eq_iff_iff, htrue, Bool.not_eq_true']
  · intro field hfield sorted limit
    obtain ⟨s, hs, htest⟩ := ((hmeans limit).simpleField hfield).compile sorted
    refine ⟨s, hs, fun datum hdatum hnothing => ?_⟩
    have hne : ∀ items, datum ≠ .array items := by
      rintro items rfl
      exact hdatum trivial
    have hnullish : ((datum.get? field).getD .undefined).isNullish = true := by
      cases hget : datum.get? field with
      | none => rfl
      | some d => exact hnothing d hget
    rw [htest, readField_of_ne_array field hne, List.any_cons, List.any_nil, Bool.or_false,
      hnullish, Bool.not_true, beq_iff_eq, ← htrue, Bool.not_eq_true]

/-- An array of the epoch is true, and so is the instant one millisecond after it; before the
epoch the first millisecond is another one. -/
theorem epoch_in_array_asks_for_presence :
    let answers : Answers := fun _ _ => false
    let epoch : Instant := ⟨0, 999999, by decide, by decide⟩
    let before : Instant := ⟨-1, 999999999, by decide, by decide⟩
    (∃ s, compile .standard {} (.singleton "$exists" (.array [.date epoch])) = .ok s ∧
      s.test answers (.bool false) = true ∧ s.test answers .null = false) ∧
    ∃ s, compile .standard ⟨false, 1⟩ (.singleton "a" (.singleton "$exists" (.date before))) = .ok s ∧
      s.test answers (.object [("b", .null)]) = false ∧
      s.test answers (.object [("a", .undefined)]) = false := by
  intro answers epoch before
  have hpresent := Registry.standard_hasBuiltIn .present
  have hfield : IsSimpleField "a" := ⟨by decide, by decide⟩
  obtain ⟨hexactly, -⟩ :=
    presence_follows_truth_after_epoch answers hpresent (.array [.date epoch])
  obtain ⟨-, hfields⟩ := presence_follows_truth_after_epoch answers hpresent (.date before)
  obtain ⟨s, hs, htest⟩ := hexactly {}
  obtain ⟨t, ht, htest'⟩ := hfields "a" hfield false 0
  refine ⟨⟨s, hs, (htest _).mpr (by decide), ?_⟩, t, ht, ?_, ?_⟩
  · rw [Bool.eq_false_iff, Ne, htest]
    decide
  · rw [Bool.eq_false_iff, Ne, htest' _ id (by rintro d ⟨⟩)]
    decide
  · rw [Bool.eq_false_iff, Ne, htest' _ id (by rintro d ⟨⟩; rfl)]
    decide

/-- The epoch is true as a value. As an operand it asks for what is absent: a number does not
answer it, and an object without the field does. -/
theorem epoch_asks_for_absence :
    let answers : Answers := fun _ _ => false
    let epoch : Value := .date ⟨0, 0, by decide, by decide⟩
    epoch.isTruthy = true ∧
    (∃ s, compile .standard {} (.singleton "$exists" epoch) = .ok s ∧
      s.test answers (.number (.ofInt 1)) = false ∧ s.test answers .null = true) ∧
    ∃ s, compile .standard {} (.singleton "f" (.singleton "$exists" epoch)) = .ok s ∧
      s.test answers (.object []) = true := by
  intro answers epoch
  have hmeans (limit : Nat) :=
    Means.presence answers (Registry.standard_hasBuiltIn .present) limit epoch
  have hfield : IsSimpleField "f" := ⟨by decide, by decide⟩
  obtain ⟨s, hs, htest⟩ := (hmeans 128).compile true
  obtain ⟨t, ht, htest'⟩ := ((hmeans 127).simpleField hfield).compile true
  refine ⟨rfl, ⟨s, hs, ?_, ?_⟩, t, ht, ?_⟩
  · rw [htest]
    decide
  · rw [htest]
    decide
  · rw [htest']
    decide

end Query
end DocQuery
