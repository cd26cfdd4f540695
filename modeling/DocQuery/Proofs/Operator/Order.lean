import DocQuery.Proofs.Number
import DocQuery.Proofs.Operator.Elements

/-!
The order of values and their equality. The two are decided by different tests; here
both are read off one comparison of a datum with an operand. Numbers, strings and truth
values have an order, each kind among themselves, and an instant is a number. NaN has no
order to anything and is equal to nothing.
-/

namespace DocQuery

/-- The kinds of values that have an order. -/
inductive OrderKind where
  | number
  | string
  | bool
deriving DecidableEq

namespace Value

/-- The kind of a value that has an order; an instant is a number. -/
def orderKind? : Value → Option OrderKind
  | number _ | date _ => some .number
  | string _ => some .string
  | bool _ => some .bool
  | _ => none

theorem orderKind?_normalize (v : Value) : v.normalize.orderKind? = v.orderKind? := by
  cases v with
  | array items =>
    rw [normalize_array]
    rfl
  | _ => rfl

theorem not_isArray_normalize_of_orderKind? {v : Value} (h : v.orderKind? ≠ none) :
    ¬v.normalize.IsArray := by
  rw [isArray_normalize]
  cases v with
  | array items => exact absurd rfl h
  | _ => exact id

/-- What counts as a number is one in its comparable form, and instants are not NaN. -/
theorem exists_number_of_orderKind? {v : Value} (h : v.orderKind? = some .number)
    (hnan : v ≠ .number .nan) : ∃ n, v.normalize = .number n ∧ n ≠ .nan := by
  cases v with
  | number n => exact ⟨n, rfl, fun hn => hnan (congrArg number hn)⟩
  | date t => exact ⟨t.epochNumber, rfl, Number.ofInt_ne_nan t.epochMillis⟩
  | _ => cases h

end Value

namespace Relation

/-- The relation that holds with the sides swapped. -/
def opposite : Relation → Relation
  | lt => gt
  | lte => gte
  | gt => lt
  | gte => lte

theorem holds_opposite (r : Relation) (o : Ordering) : r.opposite.holds o.swap = r.holds o := by
  cases r <;> cases o <;> rfl

theorem relates_eq_any (r : Relation) (operand candidate : Value) :
    r.relates operand candidate = (order? candidate operand).any r.holds := by
  rw [relates]
  cases order? candidate operand <;> rfl

theorem test_eq_relates (r : Relation) (operand : Value) {candidate : Value}
    (h : ¬candidate.IsArray) : r.test operand candidate = r.relates operand candidate := by
  cases candidate with
  | array items => exact absurd trivial h
  | _ => rfl

theorem equalsLiteral_eq_beq (expected : Value) {candidate : Value} (h : ¬candidate.IsArray) :
    equalsLiteral expected candidate = (candidate == expected) := by
  cases candidate with
  | array items => exact absurd trivial h
  | _ => rfl

theorem order?_swap (v w : Value) : order? w v = (order? v w).map Ordering.swap := by
  cases v with
  | number a =>
    cases w with
    | number b => exact a.compare?_swap b
    | _ => rfl
  | string a =>
    cases w with
    | string b => exact congrArg some Std.OrientedOrd.eq_swap
    | _ => rfl
  | bool a =>
    cases w with
    | bool b => exact congrArg some Std.OrientedOrd.eq_swap
    | _ => rfl
  | _ => cases w <;> rfl

theorem order?_eq_none {v w : Value} (h : v.orderKind? ≠ w.orderKind?) : order? v w = none := by
  cases v with
  | number a =>
    cases w with
    | number b => exact absurd rfl h
    | _ => rfl
  | string a =>
    cases w with
    | string b => exact absurd rfl h
    | _ => rfl
  | bool a =>
    cases w with
    | bool b => exact absurd rfl h
    | _ => rfl
  | _ => rfl

theorem exists_order? {v w : Value} {kind : OrderKind} (hv : v.orderKind? = some kind)
    (hw : w.orderKind? = some kind) (hvnan : v ≠ .number .nan) (hwnan : w ≠ .number .nan) :
    ∃ o, order? v.normalize w.normalize = some o := by
  cases kind with
  | number =>
    obtain ⟨a, hva, ha⟩ := Value.exists_number_of_orderKind? hv hvnan
    obtain ⟨b, hwb, hb⟩ := Value.exists_number_of_orderKind? hw hwnan
    rw [hva, hwb]
    exact Number.exists_compare? ha hb
  | string =>
    cases v with
    | string a =>
      cases w with
      | string b => exact ⟨compare a b, rfl⟩
      | _ => cases hw
    | _ => cases hv
  | bool =>
    cases v with
    | bool a =>
      cases w with
      | bool b => exact ⟨compare a b, rfl⟩
      | _ => cases hw
    | _ => cases hv

private theorem beq_eq_compare {α : Type} [Ord α] [Std.LawfulEqOrd α] [BEq α] [LawfulBEq α]
    (a b : α) : (a == b) = (some (compare a b) == some .eq) := by
  rw [Bool.eq_iff_iff, beq_iff_eq, beq_iff_eq, Option.some.injEq, Std.compare_eq_iff_eq]

theorem beq_eq_order? {operand : Value} (h : operand.orderKind? ≠ none) (candidate : Value) :
    (candidate == operand.normalize) = (order? candidate operand.normalize == some .eq) := by
  cases operand with
  | number n | date t =>
    cases candidate with
    | number m => exact m.equal_eq_compare? _
    | _ => rfl
  | string s =>
    cases candidate with
    | string t => exact beq_eq_compare t s
    | _ => rfl
  | bool b =>
    cases candidate with
    | bool c => exact beq_eq_compare c b
    | _ => rfl
  | _ => exact absurd rfl h

section Weak

variable {strict weak : Relation} (hweak : ∀ o, weak.holds o = (strict.holds o || o == .eq))
  {operand : Value} (h : operand.orderKind? ≠ none)

include hweak h

theorem relates_weak (candidate : Value) :
    weak.relates operand.normalize candidate =
      (strict.relates operand.normalize candidate || candidate == operand.normalize) := by
  rw [relates_eq_any, relates_eq_any, beq_eq_order? h]
  cases order? candidate operand.normalize with
  | none => rfl
  | some o => exact hweak o

private theorem test_weak_iff_leaf {candidate : Value} (hcandidate : ¬candidate.IsArray) :
    weak.test operand.normalize candidate = true ↔
      strict.test operand.normalize candidate = true ∨
        equalsLiteral operand.normalize candidate = true := by
  rw [test_eq_relates _ _ hcandidate, test_eq_relates _ _ hcandidate,
    equalsLiteral_eq_beq _ hcandidate, relates_weak hweak h, Bool.or_eq_true]

/-- A relation that admits equality holds for a datum, be it an array, if the strict one
does or the datum is equal. -/
theorem test_weak_iff (candidate : Value) :
    weak.test operand.normalize candidate = true ↔
      strict.test operand.normalize candidate = true ∨
        equalsLiteral operand.normalize candidate = true := by
  cases candidate with
  | array items =>
    have hliteral : Existential (equalsLiteral operand.normalize) :=
      literal_existential (Value.not_isArray_normalize_of_orderKind? h)
    rw [relation_existential, relation_existential, hliteral]
    simp only [← exists_or, ← and_or_left]
    exact exists_congr fun v => and_congr_right fun hv => and_congr_right fun hitem =>
      test_weak_iff_leaf hweak h hitem
  | _ => exact test_weak_iff_leaf hweak h id

end Weak

/-- Between two values that have an order, a relation is decided by their comparison. -/
theorem test_ordered (r : Relation) {u : Value} (hu : u.orderKind? ≠ none) (v : Value) :
    r.test v.normalize u.normalize = (order? u.normalize v.normalize).any r.holds := by
  rw [test_eq_relates _ _ (Value.not_isArray_normalize_of_orderKind? hu), relates_eq_any]

theorem test_opposite (r : Relation) {u v : Value} (hu : u.orderKind? ≠ none)
    (hv : v.orderKind? ≠ none) :
    r.test v.normalize u.normalize = r.opposite.test u.normalize v.normalize := by
  rw [test_ordered r hu, test_ordered r.opposite hv, order?_swap u.normalize v.normalize]
  cases order? u.normalize v.normalize with
  | none => rfl
  | some o => exact (r.holds_opposite o).symm

end Relation

/-- The laws of order and equality, for tests that are given an operand and a datum. -/
structure OrderLaws (related : Relation → Value → Value → Bool) (equals : Value → Value → Bool) :
    Prop where
  lte_iff : ∀ {v}, v.orderKind? ≠ none → ∀ datum,
    related .lte v datum = true ↔ related .lt v datum = true ∨ equals v datum = true
  gte_iff : ∀ {v}, v.orderKind? ≠ none → ∀ datum,
    related .gte v datum = true ↔ related .gt v datum = true ∨ equals v datum = true
  lt_iff_gt : ∀ {u v}, u.orderKind? ≠ none → v.orderKind? ≠ none →
    (related .lt v u = true ↔ related .gt u v = true)
  lte_iff_gte : ∀ {u v}, u.orderKind? ≠ none → v.orderKind? ≠ none →
    (related .lte v u = true ↔ related .gte u v = true)
  exactly_one : ∀ {u v kind}, u.orderKind? = some kind → v.orderKind? = some kind →
    u ≠ .number .nan → v ≠ .number .nan →
      [related .lt v u, equals v u, related .gt v u].count true = 1
  none_across_kinds : ∀ {u v}, u.orderKind? ≠ none → v.orderKind? ≠ none →
    u.orderKind? ≠ v.orderKind? → (∀ r, related r v u = false) ∧ equals v u = false

section Equality

variable (answers : Answers) {v : Value} (hv : v.orderKind? ≠ none)

include hv

theorem value_run_ofValue_ordered (datum : Value) :
    ((Matcher.ofValue v.normalize).run answers datum.normalize datum).value =
      equalsLiteral v.normalize datum.normalize := by
  cases v with
  | number | date | string | bool => rfl
  | _ => exact absurd rfl hv

theorem value_run_ofValue_eq_order? {u : Value} (hu : u.orderKind? ≠ none) :
    ((Matcher.ofValue v.normalize).run answers u.normalize u).value =
      (Relation.order? u.normalize v.normalize == some .eq) := by
  have hitem := Value.not_isArray_normalize_of_orderKind? hu
  rw [value_run_ofValue_ordered answers hv, Relation.equalsLiteral_eq_beq _ hitem,
    Relation.beq_eq_order? hv]

end Equality

theorem orderLaws (answers : Answers) :
    OrderLaws (fun r v datum => r.test v.normalize datum.normalize)
      (fun v datum => ((Matcher.ofValue v.normalize).run answers datum.normalize datum).value) where
  lte_iff hv datum := by
    rw [value_run_ofValue_ordered answers hv]
    exact Relation.test_weak_iff (fun o => by cases o <;> rfl) hv datum.normalize
  gte_iff hv datum := by
    rw [value_run_ofValue_ordered answers hv]
    exact Relation.test_weak_iff (fun o => by cases o <;> rfl) hv datum.normalize
  lt_iff_gt hu hv := Bool.eq_iff_iff.mp (Relation.test_opposite .lt hu hv)
  lte_iff_gte hu hv := Bool.eq_iff_iff.mp (Relation.test_opposite .lte hu hv)
  exactly_one hu hv hunan hvnan := by
    obtain ⟨o, ho⟩ := Relation.exists_order? hu hv hunan hvnan
    have hu' := ne_of_eq_of_ne hu (Option.some_ne_none _)
    have hv' := ne_of_eq_of_ne hv (Option.some_ne_none _)
    rw [Relation.test_ordered _ hu', Relation.test_ordered _ hu',
      value_run_ofValue_eq_order? answers hv' hu', ho]
    cases o <;> rfl
  none_across_kinds {u v} hu hv hkinds := by
    have hnone : Relation.order? u.normalize v.normalize = none := by
      apply Relation.order?_eq_none
      rw [u.orderKind?_normalize, v.orderKind?_normalize]
      exact hkinds
    constructor
    · intro r
      rw [Relation.test_ordered r hu, hnone]
      rfl
    · rw [value_run_ofValue_eq_order? answers hv hu, hnone]
      rfl

end DocQuery
