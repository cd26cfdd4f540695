import DocQuery.Proofs.Statement.Evaluation
import DocQuery.Proofs.Statement.Weight
import DocQuery.Query.Compile

/-!
Reordering changes no answer and no weight. Every level of a statement is
permuted, and conjunctions, disjunctions and joint refusals do not depend on the
order of their parts; the queries of an added operator keep their places, so the
operator is told the same at every place. Hence it makes no difference to the
answers whether a query is compiled with reordering or without.
-/

namespace DocQuery

theorem Expression.sortByCost_perm (expressions : List Expression) :
    (sortByCost expressions).Perm expressions :=
  List.mergeSort_perm _ _

theorem Statement.sortByWeight_perm (statements : List Statement) :
    (sortByWeight statements).Perm statements :=
  List.mergeSort_perm _ _

theorem reorderExpressions_eq_map (expressions : List Expression) :
    reorderExpressions expressions = expressions.map Expression.reorder := by
  induction expressions with
  | nil => rfl
  | cons e rest ih => rw [reorderExpressions, ih, List.map_cons]

theorem reorderStatements_eq_map (statements : List Statement) :
    reorderStatements statements = statements.map Statement.reorder := by
  induction statements with
  | nil => rfl
  | cons s rest ih => rw [reorderStatements, ih, List.map_cons]

theorem Statement.reorder_mk (expressions : List Expression) (key : Option String) :
    (Statement.mk expressions key).reorder =
      .mk (Expression.sortByCost (expressions.map Expression.reorder)) key := by
  rw [Statement.reorder, reorderExpressions_eq_map]

theorem Expression.cost_reorder (e : Expression) : e.reorder.cost = e.cost := by
  cases e <;> simp only [Expression.reorder, Expression.cost]

/-- The statements of a reordered expression are those of the expression, reordered,
in some order. -/
theorem Expression.statements_reorder_perm (e : Expression) :
    e.reorder.statements.Perm (e.statements.map Statement.reorder) := by
  cases e with
  | check test cost | customValue operator operand cost =>
    rw [Expression.reorder]
    exact .nil
  | junction kind list cost =>
    rw [Expression.reorder, reorderStatements_eq_map]
    exact Statement.sortByWeight_perm _
  | customQueries operator list cost =>
    rw [Expression.reorder, reorderStatements_eq_map]
    exact .refl _
  | negation s cost | traversal field s cost | customQuery operator s cost =>
    rw [Expression.reorder]
    exact .refl _

theorem Statement.weight_reorder (s : Statement) : s.reorder.weight = s.weight := by
  obtain ⟨expressions, key⟩ := s
  have hcost : (expressions.map Expression.reorder).map Expression.cost =
      expressions.map Expression.cost := by
    rw [List.map_map]
    exact List.map_congr_left fun e _ => e.cost_reorder
  rw [reorder_mk, weight_mk, weight_mk, ← hcost]
  exact boundedSum_perm ((Expression.sortByCost_perm _).map _)

theorem map_weight_reorder (statements : List Statement) :
    (statements.map Statement.reorder).map Statement.weight = statements.map Statement.weight := by
  rw [List.map_map]
  exact List.map_congr_left fun s _ => s.weight_reorder

/-- What an expression should cost is not changed by sorting the statements in it. -/
theorem Expression.weigh_reorder (e : Expression) : e.reorder.weigh = e.weigh := by
  have hrank : e.reorder.rank = e.rank := by
    cases e <;> simp only [Expression.reorder, Expression.rank]
  have hmagnitude : e.reorder.magnitude = e.magnitude := by
    cases e with
    | check test cost | customValue operator operand cost => rw [Expression.reorder]
    | junction kind statements cost =>
      rw [Expression.reorder, reorderStatements_eq_map, magnitude, magnitude]
      have hsort := Statement.sortByWeight_perm (statements.map Statement.reorder)
      rw [boundedSum_perm (hsort.map Statement.weight), map_weight_reorder]
    | customQueries operator statements cost =>
      rw [Expression.reorder, reorderStatements_eq_map, magnitude, magnitude, map_weight_reorder]
    | negation s cost | traversal field s cost | customQuery operator s cost =>
      rw [Expression.reorder]
      exact s.weight_reorder
  rw [weigh, weigh, hrank, hmagnitude]

section Answers

variable (answers : Answers)

theorem map_test_reorder (statements : List Statement) (datum : Value)
    (h : ∀ s ∈ statements, s.reorder.test answers datum = s.test answers datum) :
    (statements.map Statement.reorder).map (fun s => s.test answers datum) =
      statements.map fun s => s.test answers datum := by
  rw [List.map_map]
  exact List.map_congr_left h

theorem Expression.test_reorder (e : Expression)
    (h : ∀ s ∈ e.statements, ∀ datum, s.reorder.test answers datum = s.test answers datum)
    (datum : Value) : e.reorder.test answers datum = e.test answers datum := by
  cases e with
  | check test cost | customValue op operand cost => rw [Expression.reorder]
  | junction kind statements cost =>
    rw [Expression.reorder, reorderStatements_eq_map, test_junction, test_junction]
    have hsort := Statement.sortByWeight_perm (statements.map Statement.reorder)
    rw [kind.combine_perm (hsort.map _)]
    rw [map_test_reorder answers statements datum fun s hs => h s hs datum]
  | negation s cost =>
    rw [Expression.reorder, test_negation, test_negation, h s (List.mem_singleton_self s)]
  | traversal field s cost =>
    have hs := h s (List.mem_singleton_self s)
    rw [Expression.reorder, test_traversal, test_traversal]
    simp only [hs]
  | customQuery op s cost =>
    have hs := h s (List.mem_singleton_self s)
    rw [Expression.reorder, test_customQuery, test_customQuery]
    simp only [hs]
  | customQueries op statements cost =>
    rw [Expression.reorder, reorderStatements_eq_map, test_customQueries, test_customQueries]
    rw [List.length_map]
    congr 1
    funext place v
    rw [List.getElem?_map]
    cases hs : statements[place]? with
    | none => rfl
    | some s => exact h s (List.mem_of_getElem? hs) v

theorem Statement.test_reorder (s : Statement) (datum : Value) :
    s.reorder.test answers datum = s.test answers datum := by
  induction s generalizing datum with
  | mk expressions key ih =>
    have he : ∀ e ∈ expressions, e.reorder.test answers datum = e.test answers datum :=
      fun e he => e.test_reorder answers (ih e he) datum
    rw [reorder_mk, test_mk, test_mk, (Expression.sortByCost_perm _).all_eq, List.all_map]
    rw [Bool.eq_iff_iff, List.all_eq_true, List.all_eq_true]
    exact forall₂_congr fun e hmem => by rw [Function.comp, he e hmem]

end Answers

namespace Query

theorem test_sorted (answers : Answers) (sorted : Bool) (s : Statement) (datum : Value) :
    (if sorted then s.reorder else s).test answers datum = s.test answers datum := by
  cases sorted with
  | false => rfl
  | true => exact s.test_reorder answers datum

theorem compile_sorted (registry : Registry) (limit : Nat) (query : Value) :
    compile registry ⟨true, limit⟩ query =
      (compile registry ⟨false, limit⟩ query).map Statement.reorder := by
  unfold compile
  cases compileStatement registry limit (limit + 1) query none <;> rfl

/-- Reordering changes the answer of no statement about any datum; and a query
that is compiled with reordering is refused for the same reason, or answers
alike, as without. -/
theorem reordering_preserves_answers (answers : Answers) :
    (∀ (s : Statement) (datum : Value), s.reorder.test answers datum = s.test answers datum) ∧
      ∀ (registry : Registry) (limit : Nat) (query : Value),
        (∃ e, compile registry ⟨true, limit⟩ query = .error e ∧
          compile registry ⟨false, limit⟩ query = .error e) ∨
        ∃ sorted written, compile registry ⟨true, limit⟩ query = .ok sorted ∧
          compile registry ⟨false, limit⟩ query = .ok written ∧
          ∀ datum, sorted.test answers datum = written.test answers datum := by
  refine ⟨fun s datum => s.test_reorder answers datum, fun registry limit query => ?_⟩
  rw [compile_sorted]
  cases h : compile registry ⟨false, limit⟩ query with
  | error e => exact Or.inl ⟨e, rfl, rfl⟩
  | ok s => exact Or.inr ⟨s.reorder, s, rfl, rfl, s.test_reorder answers⟩

end Query
end DocQuery
