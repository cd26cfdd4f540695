import DocQuery.Proofs.Statement.Reordering
import Mathlib.Order.Basic

/-!
How deep statements nest. A statement without others in it has depth 0; any other
is one deeper than the deepest of the statements in its expressions. What is
proved about depths goes by upper bounds: a bound on a statement is one on each
of its expressions, and a bound on an expression one on each of its statements.
Reordering keeps the depth.
-/

namespace DocQuery

mutual

/-- How many statements are found one within the other below a statement. -/
def Statement.depth : Statement → Nat
  | .mk expressions _ => depthOfExpressions expressions

def Expression.depth : Expression → Nat
  | .check _ _ | .customValue _ _ _ => 0
  | .junction _ statements _ | .customQueries _ statements _ => depthOfStatements statements
  | .negation statement _ | .traversal _ statement _ | .customQuery _ statement _ =>
    1 + statement.depth

def depthOfExpressions : List Expression → Nat
  | [] => 0
  | e :: rest => max e.depth (depthOfExpressions rest)

/-- One more than the deepest statement, or 0 if there is none. -/
def depthOfStatements : List Statement → Nat
  | [] => 0
  | s :: rest => max (1 + s.depth) (depthOfStatements rest)

end

theorem depthOfExpressions_le_iff {expressions : List Expression} {n : Nat} :
    depthOfExpressions expressions ≤ n ↔ ∀ e ∈ expressions, e.depth ≤ n := by
  induction expressions with
  | nil => simp [depthOfExpressions]
  | cons e rest ih => rw [depthOfExpressions, Nat.max_le, ih, List.forall_mem_cons]

theorem depthOfStatements_le_iff {statements : List Statement} {n : Nat} :
    depthOfStatements statements ≤ n ↔ ∀ s ∈ statements, s.depth < n := by
  induction statements with
  | nil => simp [depthOfStatements]
  | cons s rest ih =>
    have hhead : 1 + s.depth ≤ n ↔ s.depth < n := by omega
    rw [depthOfStatements, Nat.max_le, ih, hhead, List.forall_mem_cons]

namespace Expression

theorem depth_le_iff {e : Expression} {n : Nat} :
    e.depth ≤ n ↔ ∀ s ∈ e.statements, s.depth < n := by
  cases e with
  | check test cost | customValue operator operand cost => simp [depth, statements]
  | junction kind statements cost | customQueries operator statements cost =>
    exact depthOfStatements_le_iff
  | negation s cost | traversal field s cost | customQuery operator s cost =>
    simp only [depth, statements, List.mem_singleton, forall_eq]
    omega

end Expression

namespace Statement

theorem depth_mk_le_iff {expressions : List Expression} {key : Option String} {n : Nat} :
    (mk expressions key).depth ≤ n ↔ ∀ e ∈ expressions, ∀ s ∈ e.statements, s.depth < n := by
  rw [depth, depthOfExpressions_le_iff]
  exact forall₂_congr fun e _ => e.depth_le_iff

theorem depth_reorder (s : Statement) : s.reorder.depth = s.depth := by
  induction s with
  | mk expressions key ih =>
    refine eq_of_forall_ge_iff fun n => ?_
    rw [reorder_mk, depth_mk_le_iff, depth_mk_le_iff]
    have hwithin : ∀ e ∈ expressions,
        (∀ s ∈ e.reorder.statements, s.depth < n) ↔ ∀ s ∈ e.statements, s.depth < n := by
      intro e he
      simp only [e.statements_reorder_perm.mem_iff, List.forall_mem_map]
      exact forall₂_congr fun s hs => by rw [ih e he s hs]
    simp only [(Expression.sortByCost_perm _).mem_iff, List.forall_mem_map]
    exact forall₂_congr hwithin

end Statement
end DocQuery
