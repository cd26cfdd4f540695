import DocQuery.Proofs.Operator.Order
import DocQuery.Proofs.Query.Distribution
import DocQuery.Proofs.Query.SingleTest

/-!
Equality without an operator. A value that stands by itself as the clause of a field is
compared with what the field holds, both in their comparable forms. Of an array that the
field holds the elements are compared as well as the whole; a field that is missing is
compared as absence, to which nothing else is equal.
-/

namespace DocQuery

namespace Value

/-- As a query the value means equality with it: it holds no clauses, and it is not asked
about the datum. -/
def IsLiteral : Value → Prop
  | .object _ | .regex _ | .predicate _ => False
  | _ => True

theorem undefined_beq_iff {v : Value} : (undefined == v) = true ↔ v = undefined := by
  cases v with
  | undefined => exact iff_of_true rfl rfl
  | _ => exact iff_of_false Bool.false_ne_true nofun

theorem normalize_eq_undefined_iff {v : Value} : v.normalize = undefined ↔ v = undefined := by
  cases v with
  | array items =>
    rw [normalize_array]
    exact iff_of_false nofun nofun
  | date t => exact iff_of_false nofun nofun
  | _ => rfl

end Value

theorem Matcher.ofValue_normalize {v : Value} (h : v.IsLiteral) :
    Matcher.ofValue v.normalize = .literal v.normalize := by
  cases v with
  | object fields | regex p | predicate p => cases h
  | array items =>
    rw [Value.normalize_array]
    rfl
  | _ => rfl

/-- A datum is compared as a whole, and so is each element of an array. -/
theorem equalsLiteral_normalize_iff (expected datum : Value) :
    equalsLiteral expected datum.normalize = true ↔
      (datum.normalize == expected) = true ∨
        ∃ items, datum = .array items ∧ ∃ e ∈ items, (e.normalize == expected) = true := by
  cases datum with
  | array items =>
    rw [Value.normalize_array, equalsLiteral, Bool.or_eq_true, List.any_map, List.any_eq_true]
    simp only [Value.array.injEq, exists_eq_left', Function.comp_apply]
  | _ =>
    rw [Relation.equalsLiteral_eq_beq expected (mt (Value.isArray_normalize _).mp id)]
    constructor
    · exact Or.inl
    · rintro (hwhole | ⟨items, hitems, -⟩)
      · exact hwhole
      · cases hitems

namespace Query

/-- A literal as the clause of a field means that some value that the field reads is
equal to it. -/
theorem Means.literal (answers : Answers) {registry : Registry} (heq : registry.HasBuiltIn .eq)
    (limit : Nat) {field : String} (hfield : IsSimpleField field) {v : Value} (hv : v.IsLiteral) :
    Means answers registry (limit + 1) (.singleton field v) fun datum =>
      (readField field datum).any fun w => equalsLiteral v.normalize w.normalize := by
  have hbare : Means answers registry limit v fun w => equalsLiteral v.normalize w.normalize := by
    refine ((Means.equal answers limit heq v).bare ?_).congr fun w => ?_
    · rintro fields rfl
      exact hv
    · rw [Matcher.ofValue_normalize hv]
      rfl
  exact hbare.simpleField hfield

/-- A field with a literal for its clause: the query compiles, and it holds of a datum
that has the field exactly if the field holds something with the comparable form of the
literal, be it the value of the field or an element of this. Of a datum without the
field, other than an array, it holds exactly if the literal is absence. Since the clause
is a statement within another, one level has to be allowed. -/
theorem literal_clause_is_comparable_equality (answers : Answers) {registry : Registry}
    (heq : registry.HasBuiltIn .eq) (limit : Nat) (sorted : Bool) {field : String}
    (hfield : IsSimpleField field) {v : Value} (hv : v.IsLiteral) :
    ∃ s, compile registry ⟨sorted, limit + 1⟩ (.singleton field v) = .ok s ∧
      (∀ datum d, datum.get? field = some d →
        (s.test answers datum = true ↔ (d.normalize == v.normalize) = true ∨
          ∃ items, d = .array items ∧ ∃ e ∈ items, (e.normalize == v.normalize) = true)) ∧
      ∀ datum, ¬datum.IsArray → datum.get? field = none →
        (s.test answers datum = true ↔ v = .undefined) := by
  obtain ⟨s, hs, htest⟩ := (Means.literal answers heq limit hfield hv).compile sorted
  have hread : ∀ datum, ¬datum.IsArray →
      s.test answers datum =
        equalsLiteral v.normalize ((datum.get? field).getD .undefined).normalize := by
    intro datum hdatum
    have hne : ∀ items, datum ≠ .array items := by
      rintro items rfl
      exact hdatum trivial
    rw [htest, readField_of_ne_array field hne, List.any_cons, List.any_nil, Bool.or_false]
  refine ⟨s, hs, fun datum d hd => ?_, fun datum hdatum hnone => ?_⟩
  · have hdatum : ¬datum.IsArray := by
      cases datum with
      | array items => cases hd
      | _ => exact id
    rw [hread datum hdatum, hd, Option.getD_some, equalsLiteral_normalize_iff]
  · rw [hread datum hdatum, hnone, Option.getD_none]
    exact Value.undefined_beq_iff.trans Value.normalize_eq_undefined_iff

/-- An instant as the clause of a field without a name; its milliseconds are in an array
beside another field. -/
theorem instant_equals_listed_milliseconds :
    let answers : Answers := fun _ _ => false
    let five : Value := .date ⟨0, 5000000, by decide, by decide⟩
    let listed : Value := .array [.array [five], .number (.ofInt 5)]
    ∃ s, compile .standard ⟨true, 1⟩ (.singleton "" five) = .ok s ∧
      s.test answers (.object [("a", .null), ("", listed)]) = true ∧
      s.test answers (.object [("", .array [.array [five]])]) = false ∧
      s.test answers (.object [("a", five)]) = false := by
  intro answers five listed
  have hfield : IsSimpleField "" := ⟨by decide, by decide⟩
  obtain ⟨s, hs, hpresent, habsent⟩ := literal_clause_is_comparable_equality answers
    (Registry.standard_hasBuiltIn .eq) 0 true hfield (v := five) trivial
  refine ⟨s, hs, ?_, ?_, ?_⟩
  · refine (hpresent _ listed rfl).mpr (Or.inr ⟨_, rfl, .number (.ofInt 5), by simp, ?_⟩)
    decide +kernel
  · rw [Bool.eq_false_iff, Ne, hpresent _ (.array [.array [five]]) rfl]
    rintro (hwhole | ⟨_, ⟨⟩, e, he, hitem⟩)
    · cases hwhole
    · rw [List.mem_singleton.mp he] at hitem
      cases hitem
  · rw [Bool.eq_false_iff, Ne, habsent _ id rfl]
    nofun

end Query
end DocQuery
