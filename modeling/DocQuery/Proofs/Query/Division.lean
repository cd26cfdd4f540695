import DocQuery.Proofs.Instant
import DocQuery.Proofs.Number.Remainder
import DocQuery.Proofs.Query.SingleTest

/-!
The query for a remainder, asked of whole numbers. It divides as integers are divided whose
quotient is cut off towards zero, and nothing is rounded on the way. Instants are asked for
their milliseconds. A divisor that is a zero is refused whatever stands beside it.
-/

namespace DocQuery

/-- A whole number leaves what the quotient that is cut off towards zero leaves. -/
theorem leavesRemainder_whole {divisor remainder x : Number} {d r n : Int} (hdivisor : divisor.Is d)
    (hremainder : remainder.Is r) (hd : d ≠ 0) (hx : x.Is n) :
    leavesRemainder divisor remainder (.number x) = true ↔ n - d * n.tdiv d = r := by
  rw [leavesRemainder, (hx.remainder hdivisor hd).beq_iff hremainder, Int.tmod_def]

namespace Query

theorem compile_zero_divisor {registry : Registry} (hmodulo : registry.HasBuiltIn .modulo)
    (options : CompileOptions) {divisor : Number} (hzero : divisor.isZero = true) (r : Value) :
    compile registry options (.singleton "$mod" (.array [.number divisor, r])) =
      .error (.invalidOperand "$mod" .zeroDivisor) := by
  apply compile_operand_refused hmodulo rfl
  rw [Value.normalize_array, Builtin.prepare, List.map_cons, List.map_singleton]
  simp only [Value.normalize, Operand.division, Value.number?, hzero, if_true]
  rfl

/-- Integers whose magnitude is at most 2^53 are numbers. Where divisor and remainder are
integers, however large, and the divisor is not zero, the query for the remainder compiles; it
holds of an integer exactly if the quotient that is cut off towards zero leaves the remainder,
which then has the sign of the dividend unless it is zero, and it holds of an instant if the
milliseconds leave it. With zero as divisor, of either sign, the query is refused. -/
theorem whole_remainders_are_truncated (answers : Answers) {registry : Registry}
    (hmodulo : registry.HasBuiltIn .modulo) (options : CompileOptions) :
    (∀ i : Int, i.natAbs ≤ 2 ^ 53 → (Number.ofInt i).Is i) ∧
    (∀ {divisor remainder : Number} {d r : Int}, divisor.Is d → remainder.Is r → d ≠ 0 →
      ∃ s, compile registry options
          (.singleton "$mod" (.array [.number divisor, .number remainder])) = .ok s ∧
        (∀ {x : Number} {n : Int}, x.Is n →
          (s.test answers (.number x) = true ↔ n - d * n.tdiv d = r) ∧
          (s.test answers (.number x) = true → r = 0 ∨ r.sign = n.sign)) ∧
        ∀ t : Instant, s.test answers (.date t) = true ↔
          t.epochMillis - d * t.epochMillis.tdiv d = r) ∧
    ∀ {divisor : Number} (r : Value), divisor.Is 0 →
      compile registry options (.singleton "$mod" (.array [.number divisor, r])) =
        .error (.invalidOperand "$mod" .zeroDivisor) := by
  refine ⟨fun i hi => Number.is_ofInt hi, ?_, ?_⟩
  · intro divisor remainder d r hdivisor hremainder hd
    have hzero : divisor.isZero = false := by
      rw [Bool.eq_false_iff, Ne, hdivisor.isZero_iff]
      exact hd
    obtain ⟨s, hs, htest⟩ :=
      (Means.division answers options.depthLimit hmodulo (d := .number divisor)
        (r := .number remainder) rfl hzero rfl).compile options.reorder
    refine ⟨s, hs, ?_, ?_⟩
    · intro x n hx
      have hleaves : s.test answers (.number x) = true ↔ n - d * n.tdiv d = r := by
        rw [htest]
        exact leavesRemainder_whole hdivisor hremainder hd hx
      refine ⟨hleaves, ?_⟩
      intro hmatch
      rw [← hleaves.mp hmatch, ← Int.tmod_def]
      exact Number.sign_tmod n d
    · intro t
      rw [htest]
      exact leavesRemainder_whole hdivisor hremainder hd t.epochNumber_is_epochMillis
  · intro divisor r hdivisor
    exact compile_zero_divisor hmodulo options (hdivisor.isZero_iff.mpr rfl) r

/-- A dividend and a divisor on either side of zero, as far out as integers are numbers, and
an instant before the epoch; minus zero is refused beside a list. -/
theorem negative_dividends_leave_negative_remainders :
    let answers : Answers := fun _ _ => false
    let ones : Value := .array [.number (.ofInt (-2)), .number (.ofInt (-1))]
    let before : Instant := ⟨-1, 999000000, by decide, by decide⟩
    (∃ s, compile .standard {} (.singleton "$mod" ones) = .ok s ∧
      s.test answers (.number (.ofInt (1 - 2 ^ 53))) = true ∧
      s.test answers (.number (.ofInt (2 ^ 53 - 1))) = false ∧
      s.test answers (.date before) = true) ∧
    compile .standard {} (.singleton "$mod" (.array [.number Number.zero.negate, ones])) =
      .error (.invalidOperand "$mod" .zeroDivisor) := by
  intro answers ones before
  obtain ⟨hinteger, hdivides, hrefused⟩ :=
    whole_remainders_are_truncated answers (Registry.standard_hasBuiltIn .modulo) {}
  obtain ⟨s, hs, hnumbers, hinstants⟩ :=
    hdivides (hinteger (-2) (by decide)) (hinteger (-1) (by decide)) (by decide)
  have hzero : Number.zero.negate.Is 0 := by
    refine ⟨rfl, ?_⟩
    rw [Int.zero_mul]
    rfl
  refine ⟨⟨s, hs, ?_, ?_, ?_⟩, hrefused ones hzero⟩
  · apply (hnumbers (hinteger (1 - 2 ^ 53) (by decide))).1.mpr
    decide
  · rw [Bool.eq_false_iff, Ne, (hnumbers (hinteger (2 ^ 53 - 1) (by decide))).1]
    decide
  · apply (hinstants before).mpr
    decide

end Query
end DocQuery
