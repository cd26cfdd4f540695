import DocQuery.Proofs.Query.WellFormed
import DocQuery.Proofs.Statement.Shuffling

/-!
The costs of compiled queries are exact. At every depth of a compiled statement the cost of
an expression and the weight of a statement are the plain ones up to the limit, and so are
the sizes of all values. Whatever reaches the limit stays there, and makes nothing beside
it smaller. Parts count in any order, since only what they sum up to matters.
-/

namespace DocQuery

/-- What the class of an expression costs is far from the limit. -/
theorem Expression.rank_le (e : Expression) : e.rank ≤ 9 := by
  cases e with
  | check test cost => cases test <;> simp [rank, Check.rank]
  | junction kind statements cost => cases kind <;> simp [rank, Junction.rank]
  | negation | traversal => simp [rank]
  | customValue operator _ _ | customQuery operator _ _ | customQueries operator _ _ =>
    rw [rank]
    split <;> decide

theorem Value.Shuffled.magnitude_eq {v w : Value} (h : v.Shuffled w) :
    v.magnitude = w.magnitude := by
  rw [magnitude_eq_min, magnitude_eq_min, h.plainMagnitude_eq]

namespace Query

/-- Sizes, costs and weights are the plain ones up to the limit: sizes of all values, the
rest at every depth of a statement that a query compiles to, however often it is
reordered. Whatever is held in a list or an object counts in any order, at any depth. A
sum that is under way is exact up to the limit, so it has 64 bits, and so has what a class
costs. -/
theorem costs_are_plain_up_to_limit {registry : Registry} {options : CompileOptions}
    {query : Value} {s : Statement} (hs : compile registry options query = .ok s) :
    (∀ v : Value, v.magnitude = min v.plainMagnitude (2 ^ 64 - 1)) ∧
      (∀ (n : Nat) (t : Statement), t.Within (Statement.reorder^[n] s) →
        t.weight = min t.plainWeight (2 ^ 64 - 1) ∧
          ∀ e ∈ t.expressions, e.cost = min e.plainCost (2 ^ 64 - 1)) ∧
      (∀ v w : Value, v.Shuffled w → v.magnitude = w.magnitude) ∧
      (∀ t u : Statement, t.Shuffled u → t.plainWeight = u.plainWeight) ∧
      (∀ e f : Expression, e.Shuffled f → e.plainCost = f.plainCost) ∧
      (∀ (costs : List Nat) (n : Nat),
        boundedSum (costs.take n) = min (costs.take n).sum (2 ^ 64 - 1) ∧
          boundedSum (costs.take n) < 2 ^ 64) ∧
      ∀ e : Expression, e.rank * Expression.rankScale < 2 ^ 64 := by
  refine ⟨Value.magnitude_eq_min, ?_, fun _ _ => Value.Shuffled.magnitude_eq,
    fun _ _ => Statement.Shuffled.plainWeight_eq, fun _ _ => Expression.Shuffled.plainCost_eq, ?_, ?_⟩
  · intro n t ht
    have hform := (compile_wellFormed hs n).2.within ht
    exact ⟨hform.weight_eq_min, fun e he => hform.cost_eq_min he⟩
  · intro costs n
    have hsum := boundedSum_eq (costs.take n)
    rw [costLimit] at hsum
    exact ⟨hsum, by omega⟩
  · intro e
    have hrank := e.rank_le
    rw [Expression.rankScale]
    omega

/-- An infinite number in a list within a disjunction. -/
theorem infinite_member_costs_limit :
    let listed : Value := .array [.array [.number (.infinite true), .string "xy"], .null]
    let query : Value := .singleton "$or" (.array
      [.singleton "a" (.singleton "$in" listed), .singleton "b" (.number (.ofInt (-3)))])
    ∃ s, compile .standard ⟨false, 9⟩ query = .ok s ∧ s.plainWeight = costLimit + 2705 ∧
      s.weight = costLimit ∧ s.reorder.weight = costLimit := by
  intro listed query
  have hplain : ((compile .standard ⟨false, 9⟩ query).toOption.map Statement.plainWeight) =
      some (costLimit + 2705) := by
    decide +kernel
  cases hs : compile .standard ⟨false, 9⟩ query with
  | error e =>
    rw [hs] at hplain
    cases hplain
  | ok s =>
    rw [hs] at hplain
    have hweight : s.plainWeight = costLimit + 2705 := Option.some.inj hplain
    obtain ⟨-, hcosts, -⟩ := costs_are_plain_up_to_limit hs
    have hlimit : s.weight = costLimit := by
      rw [(hcosts 0 s (.self s)).1, hweight]
      exact Nat.min_eq_right (Nat.le_add_right _ _)
    exact ⟨s, rfl, hweight, hlimit, s.weight_reorder.trans hlimit⟩

end Query
end DocQuery
