import DocQuery.Statement.Basic

/-!
How statements nest. The statements within an expression are those that its
operator may ask; a statement is reached from those within its expressions.
The induction principle of this module replaces the one that Lean derives for
the two types together, and gives one hypothesis for each nested statement.
`Within` is the closure of the step: what holds of all statements within a
statement holds of it at every depth.
-/

namespace DocQuery

/-- The statements that the operator of an expression may ask, in order. -/
def Expression.statements : Expression → List Statement
  | check _ _ | customValue _ _ _ => []
  | junction _ statements _ | customQueries _ statements _ => statements
  | negation statement _ | traversal _ statement _ | customQuery _ statement _ => [statement]

theorem Expression.sizeOf_lt_of_mem_statements {s : Statement} {e : Expression}
    (h : s ∈ e.statements) : sizeOf s < sizeOf e := by
  cases e with
  | check test cost | customValue operator operand cost => cases h
  | junction kind statements cost | customQueries operator statements cost =>
    have hlt : sizeOf s < sizeOf statements := List.sizeOf_lt_of_mem h
    simp only [junction.sizeOf_spec, customQueries.sizeOf_spec]
    omega
  | negation statement cost | traversal field statement cost
  | customQuery operator statement cost =>
    have heq : s = statement := List.mem_singleton.1 h
    subst heq
    simp only [negation.sizeOf_spec, traversal.sizeOf_spec, customQuery.sizeOf_spec]
    omega

/-- Whatever passes from the statements within the expressions of a statement
to the statement itself holds of every statement. -/
@[elab_as_elim, induction_eliminator]
theorem Statement.induction {motive : Statement → Prop}
    (mk : ∀ expressions key, (∀ e ∈ expressions, ∀ s ∈ e.statements, motive s) →
      motive (.mk expressions key))
    (s : Statement) : motive s :=
  match s with
  | .mk expressions key =>
    mk expressions key fun e _he t _ht => Statement.induction mk t
termination_by sizeOf s
decreasing_by
  have he := List.sizeOf_lt_of_mem _he
  have ht := Expression.sizeOf_lt_of_mem_statements _ht
  simp only [Statement.mk.sizeOf_spec]
  omega

namespace Statement

/-- The first statement is the second, or is found within it at some depth. -/
inductive Within : Statement → Statement → Prop
  | self (s : Statement) : Within s s
  | inner {s t : Statement} {e : Expression} {expressions : List Expression} {key : Option String}
      (he : e ∈ expressions) (ht : t ∈ e.statements) (h : Within s t) :
      Within s (mk expressions key)

theorem Within.trans {s t u : Statement} (hst : s.Within t) (htu : t.Within u) : s.Within u := by
  induction htu with
  | self => exact hst
  | inner he hmem _ ih => exact .inner he hmem ih

theorem within_mk_iff {s : Statement} {expressions : List Expression} {key : Option String} :
    s.Within (mk expressions key) ↔
      s = mk expressions key ∨ ∃ e ∈ expressions, ∃ t ∈ e.statements, s.Within t := by
  constructor
  · intro h
    cases h with
    | self => exact Or.inl rfl
    | inner he ht h => exact Or.inr ⟨_, he, _, ht, h⟩
  · rintro (rfl | ⟨e, he, t, ht, h⟩)
    · exact .self _
    · exact .inner he ht h

/-- A property of a statement and of all that are found within it, one level at a
time. -/
theorem forall_within_mk_iff {P : Statement → Prop} {expressions : List Expression}
    {key : Option String} :
    (∀ s, s.Within (mk expressions key) → P s) ↔
      P (mk expressions key) ∧
        ∀ e ∈ expressions, ∀ t ∈ e.statements, ∀ s, s.Within t → P s := by
  constructor
  · intro h
    refine ⟨h _ (.self _), ?_⟩
    intro e he t ht s hs
    exact h s (.inner he ht hs)
  · rintro ⟨hself, hinner⟩ s hs
    rcases within_mk_iff.mp hs with rfl | ⟨e, he, t, ht, hs⟩
    · exact hself
    · exact hinner e he t ht s hs

end Statement
end DocQuery
