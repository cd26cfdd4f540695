import DocQuery.Proofs.Statement.Sorting
import Mathlib.Logic.Function.Iterate

/-!
The form that compiled statements have. Operands are in the form to which they are
brought once, before any datum is seen: what is compared is comparable, and what has to
be asked is not compared. The statements below an expression carry the key under which
they were written, and every expression carries the cost that it should have. Nothing
in a test looks at this again. Reordering moves statements and expressions and makes
no new ones, so it keeps the form.
-/

namespace DocQuery

/-- A literal is comparable, and is neither a pattern nor a predicate. -/
def Matcher.Prepared : Matcher → Prop
  | literal v => v.normalize = v ∧ (∀ p, v ≠ .regex p) ∧ ∀ p, v ≠ .predicate p
  | pattern _ | predicate _ => True

/-- Everything that a test compares is comparable, and it divides by no zero. -/
def Check.Prepared : Check → Prop
  | equals m | differs m => m.Prepared
  | compares _ operand => operand.normalize = operand
  | isIn members | notIn members | hasAll members => ∀ v ∈ members, v.normalize = v
  | leaves divisor _ => divisor.isZero = false
  | present _ | hasSize _ | matchesPattern _ | satisfies _ | hasType _ => True

namespace Expression

/-- The operand is one that the operator can have. The elements of a list have no key;
one statement alone has the field that it is about, or the name of the operator. -/
def OperandFits : Expression → Prop
  | check test _ => test.Prepared
  | junction _ statements _ => ∀ s ∈ statements, s.key = none
  | negation statement _ => statement.key = some Builtin.not.name
  | traversal field statement _ => statement.key = some field
  | customValue operator _ _ => operator.traversable = false
  | customQuery operator statement _ =>
    operator.traversable = true ∧ statement.key = some operator.name
  | customQueries operator statements _ =>
    operator.traversable = true ∧ ∀ s ∈ statements, s.key = none

structure WellFormed (e : Expression) : Prop where
  cost : e.cost = e.weigh
  operand : e.OperandFits

theorem OperandFits.weighed {e : Expression} (h : e.OperandFits) : e.weighed.WellFormed := by
  constructor
  · rw [cost_weighed, weigh_weighed]
  · cases e <;> exact h

theorem OperandFits.reorder {e : Expression} (h : e.OperandFits) : e.reorder.OperandFits := by
  have hkeys : ∀ statements : List Statement, (∀ s ∈ statements, s.key = none) →
      ∀ t ∈ statements.map Statement.reorder, t.key = none := by
    intro statements hnone t ht
    obtain ⟨s, hs, rfl⟩ := List.mem_map.mp ht
    rw [s.key_reorder]
    exact hnone s hs
  cases e with
  | check test cost | customValue operator operand cost =>
    rw [Expression.reorder]
    exact h
  | junction kind statements cost =>
    rw [Expression.reorder, reorderStatements_eq_map]
    intro t ht
    exact hkeys statements h t ((Statement.sortByWeight_perm _).mem_iff.mp ht)
  | customQueries operator statements cost =>
    rw [Expression.reorder, reorderStatements_eq_map]
    exact ⟨h.1, hkeys statements h.2⟩
  | negation s cost | traversal field s cost =>
    rw [Expression.reorder]
    exact s.key_reorder.trans h
  | customQuery operator s cost =>
    rw [Expression.reorder]
    exact ⟨h.1, s.key_reorder.trans h.2⟩

theorem WellFormed.reorder {e : Expression} (h : e.WellFormed) : e.reorder.WellFormed := by
  constructor
  · rw [e.cost_reorder, e.weigh_reorder, h.cost]
  · exact h.operand.reorder

end Expression

namespace Statement

/-- The expressions of a statement, and of all that are found within it, are
well-formed. -/
def WellFormed (s : Statement) : Prop :=
  ∀ t : Statement, t.Within s → ∀ e ∈ t.expressions, e.WellFormed

theorem wellFormed_mk_iff {expressions : List Expression} {key : Option String} :
    (mk expressions key).WellFormed ↔
      ∀ e ∈ expressions, e.WellFormed ∧ ∀ s ∈ e.statements, s.WellFormed := by
  unfold WellFormed
  rw [forall_within_mk_iff]
  constructor
  · rintro ⟨hself, hinner⟩ e he
    exact ⟨hself e he, hinner e he⟩
  · intro h
    exact ⟨fun e he => (h e he).1, fun e he => (h e he).2⟩

theorem WellFormed.reorder {s : Statement} (h : s.WellFormed) : s.reorder.WellFormed := by
  intro t ht e he
  obtain ⟨u, hu, rfl⟩ := within_reorder_iff.mp ht
  obtain ⟨f, hf, rfl⟩ := mem_expressions_reorder.mp he
  exact (h u hu f hf).reorder

/-- However often a statement is reordered, it keeps its key and its form. -/
theorem WellFormed.iterate_reorder {s : Statement} (h : s.WellFormed) (n : Nat) :
    (Statement.reorder^[n] s).key = s.key ∧ (Statement.reorder^[n] s).WellFormed := by
  induction n with
  | zero => exact ⟨rfl, h⟩
  | succ n ih =>
    obtain ⟨hkey, hform⟩ := ih
    rw [Function.iterate_succ_apply', key_reorder]
    exact ⟨hkey, hform.reorder⟩

end Statement
end DocQuery
