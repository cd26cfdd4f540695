import DocQuery.Instant.Reader
import DocQuery.Proofs.Instant
import DocQuery.Proofs.Operator.Order
import DocQuery.Proofs.Query.SingleTest

/-!
Queries about the order of instants. The relations compare whole milliseconds, and these are
exact as numbers. What they say of two instants holds of their order in time, unless one of
them outruns the other out of a leap second; two instants within one millisecond are not told
apart.
-/

namespace DocQuery

/-- The relations of an instant to another are those of their milliseconds. -/
theorem Relation.test_date (r : Relation) (a b : Instant) :
    r.test (Value.date b).normalize (Value.date a).normalize =
      r.holds (compare a.epochMillis b.epochMillis) := by
  have horder : order? (.number a.epochNumber) (.number b.epochNumber) =
      some (compare a.epochMillis b.epochMillis) := a.compare?_epochNumber b
  change r.relates (.number b.epochNumber) (.number a.epochNumber) = _
  rw [relates_eq_any, horder, Option.any_some]

namespace Query

/-- The milliseconds of instants are in the order of time, but for an instant in a leap second
that outruns one in the second after it; there they are in the other order. The queries for
what is earlier or later than an instant compile, and they hold of the instants with fewer or
more milliseconds. So these are earlier or later, unless one of the two outruns the other. -/
theorem instants_are_ordered_unless_outrun (answers : Answers) {registry : Registry}
    (hlt : registry.HasBuiltIn .lt) (hgt : registry.HasBuiltIn .gt) (options : CompileOptions) :
    (∀ a b : Instant, ¬b.precedes a → ¬a.Outruns b → a.epochMillis ≤ b.epochMillis) ∧
      (∀ a b : Instant, a.Outruns b ↔ a.precedes b ∧ b.epochMillis < a.epochMillis) ∧
      ∀ b : Instant, ∃ earlier later,
        compile registry options (.singleton "$lt" (.date b)) = .ok earlier ∧
        compile registry options (.singleton "$gt" (.date b)) = .ok later ∧
        ∀ a : Instant,
          (earlier.test answers (.date a) = true ↔ a.epochMillis < b.epochMillis) ∧
          (later.test answers (.date a) = true ↔ b.epochMillis < a.epochMillis) ∧
          (earlier.test answers (.date a) = true → ¬b.Outruns a → a.precedes b) ∧
          (later.test answers (.date a) = true → ¬a.Outruns b → b.precedes a) := by
  refine ⟨fun a b => Instant.epochMillis_le_of_not_precedes, fun a b => Instant.outruns_iff, ?_⟩
  intro b
  obtain ⟨earlier, hearlier, hltest⟩ :=
    (Means.relation answers options.depthLimit .lt hlt (.date b)).compile options.reorder
  obtain ⟨later, hlater, hgtest⟩ :=
    (Means.relation answers options.depthLimit .gt hgt (.date b)).compile options.reorder
  refine ⟨earlier, later, hearlier, hlater, fun a => ?_⟩
  have hless : earlier.test answers (.date a) = true ↔ a.epochMillis < b.epochMillis := by
    rw [hltest, Relation.test_date]
    exact beq_iff_eq.trans Int.compare_eq_lt
  have hmore : later.test answers (.date a) = true ↔ b.epochMillis < a.epochMillis := by
    rw [hgtest, Relation.test_date]
    exact beq_iff_eq.trans Int.compare_eq_gt
  refine ⟨hless, hmore, fun hbefore => ?_, fun hafter => ?_⟩
  · exact Instant.precedes_of_epochMillis_lt (hless.mp hbefore)
  · exact Instant.precedes_of_epochMillis_lt (hmore.mp hafter)

/-- An instant of a leap second that is not outrun by the next second. -/
theorem leap_instant_is_earlier :
    let answers : Answers := fun _ _ => false
    let a : Instant := ⟨1483228799, 1200000000, by decide, by decide⟩
    let b : Instant := ⟨1483228800, 500000000, by decide, by decide⟩
    ∃ earlier later,
      compile .standard {} (.singleton "$lt" (.date b)) = .ok earlier ∧
      compile .standard {} (.singleton "$gt" (.date b)) = .ok later ∧
      ¬b.Outruns a ∧ earlier.test answers (.date a) = true ∧ a.precedes b ∧
      a.epochMillis ≤ b.epochMillis ∧ later.test answers (.date a) = false := by
  intro answers a b
  obtain ⟨hmono, -, hqueries⟩ := instants_are_ordered_unless_outrun answers
    (Registry.standard_hasBuiltIn .lt) (Registry.standard_hasBuiltIn .gt) {}
  obtain ⟨earlier, later, hearlier, hlater, htests⟩ := hqueries b
  obtain ⟨hless, hmore, hbefore, -⟩ := htests a
  have hrun : ¬b.Outruns a := by decide
  have htest : earlier.test answers (.date a) = true := hless.mpr (by decide)
  refine ⟨earlier, later, hearlier, hlater, hrun, htest, hbefore htest hrun,
    hmono a b (by decide) (by decide), ?_⟩
  rw [Bool.eq_false_iff, Ne, hmore]
  decide

/-- The last tenth of a leap second has more milliseconds than the first of the year after it,
and a query for what is later finds it. -/
theorem leap_instant_outruns_new_year :
    let answers : Answers := fun _ _ => false
    let a : Instant := ⟨1483228799, 1900000000, by decide, by decide⟩
    let b : Instant := ⟨1483228800, 0, by decide, by decide⟩
    Instant.parse "2016-12-31T23:59:60.9Z".toList = .ok a ∧
      Instant.parse "2017-01-01T00:00:00Z".toList = .ok b ∧
      a.precedes b ∧ ¬a.epochMillis ≤ b.epochMillis ∧
      ∃ later, compile .standard {} (.singleton "$gt" (.date b)) = .ok later ∧
        later.test answers (.date a) = true ∧ ¬b.precedes a := by
  intro answers a b
  refine ⟨by decide +kernel, by decide +kernel, by decide, by decide, ?_⟩
  obtain ⟨later, hlater, htest⟩ :=
    (Means.relation answers 128 .gt (Registry.standard_hasBuiltIn .gt) (.date b)).compile true
  refine ⟨later, hlater, ?_, by decide⟩
  rw [htest, Relation.test_date]
  decide

end Query
end DocQuery
