import DocQuery.Proofs.Operator.Order
import DocQuery.Proofs.Query.SingleTest

/-!
The queries for an order and the query for equality. They are answered by different
tests, which agree with each other: for one operand the five queries are as coherent as
the comparisons of a datum with it.
-/

namespace DocQuery.Query

/-- The relations are coherent with each other and with equality. For an operand that is
a number, a string, a truth value or an instant, the weak relations are the strict ones
or equality, whatever the datum is. Between two such values the relations are each
other's opposites; of less, equal and greater exactly one holds if the values are of one
kind and neither is NaN, and nothing holds across kinds. -/
theorem relations_are_coherent (answers : Answers) {registry : Registry}
    (horder : ∀ r : Relation, registry.HasBuiltIn r.builtin) (heq : registry.HasBuiltIn .eq)
    (options : CompileOptions) :
    ∃ (related : Relation → Value → Statement) (equal : Value → Statement),
      (∀ r v, compile registry options (.singleton r.builtin.name v) = .ok (related r v)) ∧
      (∀ v, compile registry options (.singleton "$eq" v) = .ok (equal v)) ∧
      OrderLaws (fun r v datum => (related r v).test answers datum)
        (fun v datum => (equal v).test answers datum) := by
  choose related hrelated htest using fun r v =>
    (Means.relation answers options.depthLimit r (horder r) v).compile options.reorder
  choose equal hequal htesteq using fun v =>
    (Means.equal answers options.depthLimit heq v).compile options.reorder
  refine ⟨related, equal, hrelated, hequal, ?_⟩
  simp only [htest, htesteq]
  exact orderLaws answers

/-- An instant and a number, each an operand for the other, and a string beside them. -/
theorem number_before_instant :
    let answers : Answers := fun _ _ => false
    let seven : Value := .date ⟨0, 7000000, by decide, by decide⟩
    let five : Value := .number (.ofInt 5)
    ∃ before after sameAs beforeText,
      compile .standard {} (.singleton "$lt" seven) = .ok before ∧
      compile .standard {} (.singleton "$gt" five) = .ok after ∧
      compile .standard {} (.singleton "$eq" seven) = .ok sameAs ∧
      compile .standard {} (.singleton "$lte" (.string "7")) = .ok beforeText ∧
      before.test answers five = true ∧ after.test answers seven = true ∧
        sameAs.test answers five = false ∧ beforeText.test answers five = false := by
  intro answers seven five
  obtain ⟨related, equal, hrelated, hequal, hlaws⟩ := relations_are_coherent answers
    (fun r => Registry.standard_hasBuiltIn r.builtin) (Registry.standard_hasBuiltIn .eq) {}
  have hbefore : (related .lt seven).test answers five = true := by
    have hmeans := Means.relation answers 0 .lt (Registry.standard_hasBuiltIn .lt) seven
    rw [(Means.of_compile answers (hrelated .lt seven)).unique hmeans]
    decide +kernel
  have hfive : five ≠ .number .nan := fun h => Number.ofInt_ne_nan 5 (Value.number.inj h)
  have hone := hlaws.exactly_one (u := five) (v := seven) rfl rfl hfive nofun
  simp only [hbefore] at hone
  refine ⟨_, _, _, _, hrelated .lt seven, hrelated .gt five, hequal seven,
    hrelated .lte (.string "7"), hbefore, ?_, ?_, ?_⟩
  · exact (hlaws.lt_iff_gt (u := five) (v := seven) nofun nofun).mp hbefore
  · cases hsame : (equal seven).test answers five with
    | false => rfl
    | true => cases hafter : (related .gt seven).test answers five <;> simp [hsame, hafter] at hone
  · exact (hlaws.none_across_kinds (u := five) (v := .string "7") nofun nofun nofun).1 .lte

end DocQuery.Query
