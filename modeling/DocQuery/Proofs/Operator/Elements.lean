import DocQuery.Operator.Check
import DocQuery.Proofs.Value.Normalization
import Mathlib.Logic.Basic

/-!
How far tests reach into arrays. Most look one level down: a test for an order, for a
pattern, or for a value or members that are no arrays holds for an array exactly if it
holds for an element that is no array itself. Only the test for a remainder goes on
through all arrays within it.
-/

namespace DocQuery

/-- The test holds for an array exactly if it holds for some element of it that is no
array. -/
def Existential (test : Value → Bool) : Prop :=
  ∀ items, test (.array items) = true ↔ ∃ v ∈ items, ¬v.IsArray ∧ test v = true

/-- The test holds for an array exactly if it holds for all elements of it that are no
arrays. -/
def Universal (test : Value → Bool) : Prop :=
  ∀ items, test (.array items) = true ↔ ∀ v ∈ items, ¬v.IsArray → test v = true

namespace Existential

variable {test : Value → Bool}

/-- What is asked of each element has to fail for arrays, and for all else has to be
the test. -/
theorem of_any (one : Value → Bool) (harray : ∀ items, test (.array items) = items.any one)
    (hone : ∀ v, one v = true ↔ ¬v.IsArray ∧ test v = true) : Existential test := by
  intro items
  rw [harray, List.any_eq_true]
  simp only [hone]

theorem universal_not (h : Existential test) : Universal fun v => !test v := by
  intro items
  simp only [Bool.not_eq_true', ← Bool.not_eq_true, h items, not_exists, not_and]

/-- The comparable form changes neither what is in an array nor what is one. -/
theorem normalized (h : Existential test) : Existential fun v => test v.normalize := by
  intro items
  simp only [Value.normalize_array, h (items.map Value.normalize), List.mem_map,
    exists_exists_and_eq_and, Value.isArray_normalize]

end Existential

theorem relation_existential (r : Relation) (operand : Value) : Existential (r.test operand) := by
  refine .of_any (r.relates operand) (fun items => rfl) fun v => ?_
  cases v with
  | array items => simp [Relation.relates, Relation.order?, Value.IsArray]
  | _ => simp [Relation.test, Value.IsArray]

theorem pattern_existential (p : Pattern) : Existential p.matchesValue := by
  refine .of_any _ (fun items => rfl) fun v => ?_
  cases v <;> simp [Pattern.matchesValue, Value.IsArray]

theorem literal_existential {expected : Value} (h : ¬expected.IsArray) :
    Existential (equalsLiteral expected) := by
  refine .of_any (· == expected) (fun items => ?_) fun v => ?_
  · rw [equalsLiteral, Value.array_beq_eq_false h, Bool.false_or]
  · cases v with
    | array items => simp [Value.array_beq_eq_false h, Value.IsArray]
    | _ => simp [equalsLiteral, Value.IsArray]

/-- No member fits an array, neither as the whole datum nor as an element of it. -/
theorem someMemberFits_array {members : List Value} (h : ∀ v ∈ members, ¬v.IsArray)
    (items : List Value) : someMemberFits members (.array items) = false := by
  rw [someMemberFits, List.any_eq_false]
  intro v hv
  have hne := Value.beq_array_eq_false (h v hv) items
  cases v with
  | regex p => exact Bool.false_ne_true
  | _ => simp [memberFits, hne]

theorem members_existential {members : List Value} (h : ∀ v ∈ members, ¬v.IsArray) :
    Existential (isAmong members) := by
  refine .of_any (someMemberFits members) (fun items => ?_) fun v => ?_
  · have hwhole : members.any (· == .array items) = false := by
      rw [List.any_eq_false]
      intro v hv
      rw [Value.beq_array_eq_false (h v hv)]
      exact Bool.false_ne_true
    rw [isAmong, hwhole, Bool.false_or]
  · cases v with
    | array items => simp [someMemberFits_array h, Value.IsArray]
    | _ => simp [isAmong, Value.IsArray]

/-- Equality with a value that is neither an array nor a predicate, be it a pattern. -/
theorem equality_existential (answers : Answers) {operand : Value} (harray : ¬operand.IsArray)
    (hpredicate : ∀ p, operand ≠ .predicate p) :
    Existential fun datum =>
      ((Matcher.ofValue operand).run answers datum.normalize datum).value := by
  cases operand with
  | regex p => exact pattern_existential p
  | predicate p => exact absurd rfl (hpredicate p)
  | _ => exact (literal_existential harray).normalized

theorem leavesRemainder_array (divisor remainder : Number) (items : List Value) :
    leavesRemainder divisor remainder (.array items) =
      items.any (leavesRemainder divisor remainder) := by
  rw [leavesRemainder]
  induction items with
  | nil => rfl
  | cons v rest ih => rw [anyLeavesRemainder, ih, List.any_cons]

section Remainder

variable (divisor remainder : Number)

/-- A value that is no array counts if it is a number, or an instant. -/
private theorem leavesRemainder_leaf {v : Value} (hv : ¬v.IsArray) :
    leavesRemainder divisor remainder v.normalize = true ↔
      ∃ (u : Value) (n : Number), u.ArrayPart v ∧ u.normalize.number? = some n ∧
        (n.remainder divisor == remainder) = true := by
  have hself : (∃ (u : Value) (n : Number), u.ArrayPart v ∧ u.normalize.number? = some n ∧
      (n.remainder divisor == remainder) = true) ↔
      ∃ n, v.normalize.number? = some n ∧ (n.remainder divisor == remainder) = true := by
    simp only [Value.arrayPart_iff_eq hv, exists_and_left, exists_eq_left]
  rw [hself]
  cases v with
  | array items => exact absurd trivial hv
  | _ => simp [Value.normalize, leavesRemainder, Value.number?]

/-- Numbers are found at any depth of arrays, and instants are numbers. -/
theorem leavesRemainder_iff (v : Value) :
    leavesRemainder divisor remainder v.normalize = true ↔
      ∃ (u : Value) (n : Number), u.ArrayPart v ∧ u.normalize.number? = some n ∧
        (n.remainder divisor == remainder) = true := by
  induction v with
  | array items ih =>
    rw [Value.normalize_array, leavesRemainder_array, List.any_map, List.any_eq_true]
    constructor
    · rintro ⟨v, hv, h⟩
      obtain ⟨u, n, hu, hn, hleaves⟩ := (ih v hv).mp h
      exact ⟨u, n, .item hv hu, hn, hleaves⟩
    · rintro ⟨u, n, hu, hn, hleaves⟩
      rcases Value.arrayPart_array_iff.mp hu with rfl | ⟨v, hv, hu⟩
      · rw [Value.normalize_array] at hn
        cases hn
      · exact ⟨v, hv, (ih v hv).mpr ⟨u, n, hu, hn, hleaves⟩⟩
  | _ => exact leavesRemainder_leaf divisor remainder id

end Remainder
end DocQuery
