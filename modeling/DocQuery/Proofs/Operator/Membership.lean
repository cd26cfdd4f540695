import DocQuery.Proofs.Statement.Comparing
import DocQuery.Proofs.Value.Equality

/-!
Membership in a list is membership in one of its one-element lists, and this is what
equality asks of a value that is not a predicate: a pattern has to match, anything else
has to be equal to the datum or to an element of it. The two tests take their sides in
opposite order, and a pattern is shown to the datum itself by one of them and to its
comparable form by the other. To have all members of a list is to have them one by one;
an array among them is not looked for as a whole, and so this is no membership.
-/

namespace DocQuery

theorem isAmong_array (members items : List Value) :
    isAmong members (.array items) =
      (members.any (· == .array items) || items.any (someMemberFits members)) := rfl

theorem someMemberFits_singleton (member v : Value) :
    someMemberFits [member] v = memberFits member v := by
  rw [someMemberFits, List.any_cons, List.any_nil, Bool.or_false]

theorem isAmong_eq_any (members : List Value) (candidate : Value) :
    isAmong members candidate = members.any fun member => isAmong [member] candidate := by
  rw [Bool.eq_iff_iff, List.any_eq_true]
  cases candidate with
  | array items =>
    simp only [isAmong_array, someMemberFits, Bool.or_eq_true, List.any_eq_true,
      List.mem_singleton, exists_eq_left]
    constructor
    · rintro (⟨member, hmember, heq⟩ | ⟨item, hitem, member, hmember, hfits⟩)
      · exact ⟨member, hmember, Or.inl heq⟩
      · exact ⟨member, hmember, Or.inr ⟨item, hitem, hfits⟩⟩
    · rintro ⟨member, hmember, heq | ⟨item, hitem, hfits⟩⟩
      · exact Or.inl ⟨member, hmember, heq⟩
      · exact Or.inr ⟨item, hitem, member, hmember, hfits⟩
  | _ => simp [isAmong, someMemberFits]

theorem isAmong_regex (p : Pattern) (candidate : Value) :
    isAmong [.regex p] candidate = p.matchesValue candidate := by
  cases candidate with
  | array items =>
    rw [isAmong_array, List.any_cons, List.any_nil]
    apply List.any_congr rfl
    intro item
    rw [someMemberFits_singleton]
    cases item <;> rfl
  | _ => exact someMemberFits_singleton (.regex p) _

theorem isAmong_regex_normalize (p : Pattern) (datum : Value) :
    isAmong [.regex p] datum.normalize = p.matchesValue datum := by
  rw [isAmong_regex, p.matchesValue_normalize]

theorem isAmong_literal {v candidate : Value} (hv : ∀ p, v ≠ .regex p) (hvwell : v.WellFormed)
    (hcandidate : candidate.WellFormed) : isAmong [v] candidate = equalsLiteral v candidate := by
  have hfits : ∀ w : Value, w.WellFormed → someMemberFits [v] w = (w == v) := by
    intro w hw
    have hequal : memberFits v w = (v == w) := by
      cases v with
      | regex p => exact absurd rfl (hv p)
      | _ => rfl
    rw [someMemberFits_singleton, hequal]
    exact Value.equal_comm hvwell hw
  cases candidate with
  | array items =>
    have hwhole : (v == .array items) = (.array items == v) := Value.equal_comm hvwell hcandidate
    rw [isAmong_array, equalsLiteral, List.any_cons, List.any_nil, Bool.or_false, hwhole]
    congr 1
    rw [Bool.eq_iff_iff, List.any_eq_true, List.any_eq_true]
    refine exists_congr fun item => and_congr_right fun hitem => ?_
    rw [hfits item (Value.wellFormed_array.mp hcandidate item hitem)]
  | _ => exact hfits _ hcandidate

/-- To be equal to a value, unless this is a predicate, is to be among the values of the
list that holds it alone. -/
theorem value_run_ofValue (answers : Answers) {operand : Value} (hoperand : ∀ p, operand ≠ .predicate p)
    (hwell : operand.WellFormed) {datum : Value} (hdatum : datum.WellFormed) :
    ((Matcher.ofValue operand).run answers datum.normalize datum).value =
      isAmong [operand] datum.normalize := by
  cases operand with
  | predicate p => exact absurd rfl (hoperand p)
  | regex p =>
    rw [isAmong_regex_normalize]
    rfl
  | _ =>
    rw [isAmong_literal (by rintro p ⟨⟩) hwell hdatum.normalize]
    rfl

/-- The members that a datum has to have are looked for one by one. That the datum is
there is asked even if there are none. -/
theorem hasAllOf_eq_all (members : List Value) (candidate : Value) :
    hasAllOf members candidate =
      (!candidate.isNullish && members.all fun member => hasAllOf [member] candidate) := by
  cases candidate <;> simp [hasAllOf, Value.isNullish]

/-- To have a value that is no array is to be there and to have it as a member. -/
theorem hasAllOf_singleton {v : Value} (hv : ¬v.IsArray) (candidate : Value) :
    hasAllOf [v] candidate = (!candidate.isNullish && isAmong [v] candidate) := by
  cases candidate with
  | array items =>
    have hfits : someMemberFits [v] = memberFits v := funext (someMemberFits_singleton v)
    rw [isAmong_array, List.any_cons, List.any_nil, Value.beq_array_eq_false hv, hfits]
    simp [hasAllOf, Value.isNullish]
  | _ => simp [hasAllOf, isAmong, someMemberFits, Value.isNullish]

end DocQuery
