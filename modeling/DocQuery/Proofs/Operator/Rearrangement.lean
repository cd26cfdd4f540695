import DocQuery.Proofs.Operator.Elements
import DocQuery.Proofs.Value.Rearrangement

/-!
What the tests of the built-in operators say does not depend on the order of
object keys, neither in the operand nor in the datum. Where values are compared
for equality, those on one side have to be well-formed.
-/

namespace DocQuery

open Value (Rearranged)

section Data

variable {x y : Value}

theorem matchesValue_eq (p : Pattern) (h : x.Rearranged y) :
    p.matchesValue x = p.matchesValue y := by
  cases h with
  | same | object => rfl
  | array hitems =>
    refine any_eq_of_forall₂ hitems fun v _ w hvw => ?_
    cases hvw <;> rfl

theorem leavesRemainder_eq (divisor remainder : Number) (h : x.Rearranged y) :
    leavesRemainder divisor remainder x = leavesRemainder divisor remainder y := by
  induction x generalizing y with
  | array items ih =>
    obtain ⟨others, rfl, hitems⟩ := h.of_array
    rw [leavesRemainder_array, leavesRemainder_array]
    exact any_eq_of_forall₂ hitems fun v hv w hvw => ih v hv hvw
  | _ => cases h <;> rfl

variable {v w : Value}

theorem relates_eq (r : Relation) (hv : v.Rearranged w) (hx : x.Rearranged y) :
    r.relates v x = r.relates w y := by
  have horder : Relation.order? x v = Relation.order? y w := by
    cases hx with
    | array | object => rfl
    | same =>
      cases hv with
      | same => rfl
      | array | object => cases x <;> rfl
  rw [Relation.relates, Relation.relates, horder]

theorem relation_test_eq (r : Relation) (hv : v.Rearranged w) (hx : x.Rearranged y) :
    r.test v x = r.test w y := by
  have hwhole : r.relates v x = r.relates w y := relates_eq r hv hx
  cases x with
  | array items =>
    obtain ⟨others, rfl, hitems⟩ := hx.of_array
    exact any_eq_of_forall₂ hitems fun a _ b hab => relates_eq r hv hab
  | _ =>
    cases hx
    all_goals exact hwhole

theorem equalsLiteral_eq (hv : v.Rearranged w) (hwell : v.WellFormed) (hx : x.Rearranged y) :
    equalsLiteral v x = equalsLiteral w y := by
  have hwhole : (x == v) = (y == w) := hx.equal_eq hv hwell
  cases x with
  | array items =>
    obtain ⟨others, rfl, hitems⟩ := hx.of_array
    have hany : items.any (· == v) = others.any (· == w) :=
      any_eq_of_forall₂ hitems fun a _ b hab => hab.equal_eq hv hwell
    rw [equalsLiteral, equalsLiteral, hwhole, hany]
  | _ =>
    cases hx
    all_goals exact hwhole

theorem memberFits_eq (hv : v.Rearranged w) (hx : x.Rearranged y) (hwell : x.WellFormed) :
    memberFits v x = memberFits w y := by
  have hequal : (v == x) = (w == y) := hv.equal_eq hx hwell
  cases v with
  | regex p =>
    cases hv
    cases hx <;> rfl
  | _ =>
    cases hv
    all_goals exact hequal

end Data

section Members

variable {members others : List Value} (hmembers : List.Forall₂ Rearranged members others)
  {x y : Value}

include hmembers

theorem someMemberFits_eq (hx : x.Rearranged y) (hwell : x.WellFormed) :
    someMemberFits members x = someMemberFits others y :=
  any_eq_of_forall₂ hmembers fun _ _ _ hv => memberFits_eq hv hx hwell

theorem isAmong_eq (hx : x.Rearranged y) (hwell : x.WellFormed) :
    isAmong members x = isAmong others y := by
  have hfits : someMemberFits members x = someMemberFits others y :=
    someMemberFits_eq hmembers hx hwell
  have hwhole : members.any (· == x) = others.any (· == y) :=
    any_eq_of_forall₂ hmembers fun v _ w hv => hv.equal_eq hx hwell
  cases x with
  | array items =>
    rw [Value.wellFormed_array] at hwell
    obtain ⟨items', rfl, hitems⟩ := hx.of_array
    have hany : items.any (someMemberFits members) = items'.any (someMemberFits others) :=
      any_eq_of_forall₂ hitems fun a ha b hab => someMemberFits_eq hmembers hab (hwell a ha)
    rw [isAmong, isAmong, hwhole, hany]
  | _ =>
    cases hx
    all_goals exact hfits

theorem hasAllOf_eq (hx : x.Rearranged y) (hwell : x.WellFormed) :
    hasAllOf members x = hasAllOf others y := by
  have hall : (members.all fun v => memberFits v x) = others.all fun w => memberFits w y :=
    all_eq_of_forall₂ hmembers fun v _ w hv => memberFits_eq hv hx hwell
  cases x with
  | array items =>
    rw [Value.wellFormed_array] at hwell
    obtain ⟨items', rfl, hitems⟩ := hx.of_array
    refine all_eq_of_forall₂ hmembers fun v _ w hv => ?_
    exact any_eq_of_forall₂ hitems fun a ha b hab => memberFits_eq hv hab (hwell a ha)
  | null | undefined =>
    cases hx
    rfl
  | _ =>
    cases hx
    all_goals exact hall

end Members
end DocQuery
