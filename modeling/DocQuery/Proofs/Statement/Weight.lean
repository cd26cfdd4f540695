import DocQuery.Statement.Cost
import Mathlib.Algebra.Ring.Nat

/-!
Sums that stay within the limit of costs. Such a sum is the plain sum cut off
at the limit, and so it does not depend on the order of what is added.
-/

namespace DocQuery

theorem foldl_boundedAdd (costs : List Nat) (start : Nat) (h : start ≤ costLimit) :
    costs.foldl boundedAdd start = min (start + costs.sum) costLimit := by
  induction costs generalizing start with
  | nil =>
    simp only [List.foldl_nil, List.sum_nil]
    omega
  | cons cost rest ih =>
    have hle : boundedAdd start cost ≤ costLimit := Nat.min_le_right _ _
    rw [List.foldl_cons, ih _ hle, List.sum_cons, boundedAdd]
    omega

theorem boundedSum_eq (costs : List Nat) : boundedSum costs = min costs.sum costLimit := by
  have h := foldl_boundedAdd costs 0 (Nat.zero_le _)
  rwa [Nat.zero_add] at h

theorem boundedSum_perm {as bs : List Nat} (h : as.Perm bs) : boundedSum as = boundedSum bs := by
  rw [boundedSum_eq, boundedSum_eq, h.sum_nat]

theorem Expression.cost_withCost (e : Expression) (cost : Nat) :
    (e.withCost cost).cost = cost := by
  cases e <;> rfl

theorem Expression.cost_weighed (e : Expression) : e.weighed.cost = e.weigh :=
  e.cost_withCost e.weigh

/-- Weighing an expression does not see the cost that it carries. -/
theorem Expression.weigh_weighed (e : Expression) : e.weighed.weigh = e.weigh := by
  cases e <;> rfl

theorem Statement.weight_mk (expressions : List Expression) (key : Option String) :
    (Statement.mk expressions key).weight = boundedSum (expressions.map Expression.cost) := rfl

end DocQuery
