import DocQuery.Proofs.Query.Logic

/-!
Queries of one test. Where an operator without queries has its built-in meaning, a query
on it compiles to the test that its operand becomes, under any limit. The lemmas below
the first say what becomes of the operands of the several operators: lists are made
comparable member by member, patterns may be given by their source, and a value that is
no object is an operand of equality by itself.
-/

namespace DocQuery.Query

section Tests

variable (answers : Answers) {registry : Registry} (limit : Nat)

/-- A query of one built-in test means what the test says. -/
theorem Means.prepared {b : Builtin} (hb : registry.HasBuiltIn b) (htest : b.isTraversable = false)
    {operand : Value} {check : Check} (hcheck : b.prepare operand.normalize = .ok check) :
    Means answers registry limit (.singleton b.name operand)
      fun datum => (check.run answers datum.normalize datum).value := by
  have hplan : plan registry (b.name, operand) = .ok (.done (.check check 0)) := by
    rw [plan_builtIn hb, planBuiltin_prepared htest, operand.normalizeOperand_eq, hcheck]
    rfl
  refine ⟨.mk [(Expression.check check 0).weighed] none, ?_, fun datum => ?_⟩
  · rw [compileStatement_singleton registry hplan]
    rfl
  · rw [Statement.test_single, Expression.test_check]

theorem Means.equal (heq : registry.HasBuiltIn .eq) (v : Value) :
    Means answers registry limit (.singleton "$eq" v) fun datum =>
      ((Matcher.ofValue v.normalize).run answers datum.normalize datum).value :=
  Means.prepared answers limit heq rfl rfl

theorem Means.relation (r : Relation) (hr : registry.HasBuiltIn r.builtin) (v : Value) :
    Means answers registry limit (.singleton r.builtin.name v) fun datum =>
      r.test v.normalize datum.normalize := by
  have htest : r.builtin.isTraversable = false := by
    cases r <;> rfl
  have hcheck : r.builtin.prepare v.normalize = .ok (.compares r v.normalize) := by
    cases r <;> rfl
  exact Means.prepared answers limit hr htest hcheck

/-- The operand of a test that takes a list is made comparable member by member. -/
theorem Means.listed {b : Builtin} (hb : registry.HasBuiltIn b) (htest : b.isTraversable = false)
    {check : List Value → Check}
    (hprepare : ∀ operand, b.prepare operand = (Operand.members operand).map check)
    (members : List Value) :
    Means answers registry limit (.singleton b.name (.array members)) fun datum =>
      ((check (members.map Value.normalize)).run answers datum.normalize datum).value := by
  have hcheck : b.prepare (Value.array members).normalize =
      .ok (check (members.map Value.normalize)) := by
    rw [hprepare, Value.normalize_array]
    rfl
  exact Means.prepared answers limit hb htest hcheck

/-- The operand may be the pattern, or the source of it. -/
theorem Means.pattern (hregex : registry.HasBuiltIn .regex) {operand : Value} {p : Pattern}
    (hoperand : Operand.pattern operand.normalize = .ok p) :
    Means answers registry limit (.singleton "$regex" operand) p.matchesValue := by
  have hcheck : Builtin.regex.prepare operand.normalize = .ok (.matchesPattern p) := by
    rw [Builtin.prepare, hoperand]
    rfl
  exact Means.prepared answers limit hregex rfl hcheck

/-- The divisor and the remainder may be instants, which are numbers of milliseconds. -/
theorem Means.division (hmodulo : registry.HasBuiltIn .modulo) {d r : Value}
    {divisor remainder : Number} (hd : d.normalize.number? = some divisor)
    (hzero : divisor.isZero = false) (hr : r.normalize.number? = some remainder) :
    Means answers registry limit (.singleton "$mod" (.array [d, r])) fun datum =>
      leavesRemainder divisor remainder datum.normalize := by
  have hcheck : Builtin.modulo.prepare (Value.array [d, r]).normalize =
      .ok (.leaves divisor remainder) := by
    rw [Value.normalize_array, Builtin.prepare, List.map_cons, List.map_singleton,
      Operand.division, hd, hr]
    simp only [hzero]
    rfl
  exact Means.prepared answers limit hmodulo rfl hcheck

theorem compile_operand_refused {b : Builtin} (hb : registry.HasBuiltIn b)
    (htest : b.isTraversable = false) {operand : Value} {fault : OperandFault}
    (hfault : b.prepare operand.normalize = .error fault) (options : CompileOptions) :
    compile registry options (.singleton b.name operand) = .error (.invalidOperand b.name fault) := by
  have hplan : plan registry (b.name, operand) = .error (.invalidOperand b.name fault) := by
    rw [plan_builtIn hb, planBuiltin_prepared htest, operand.normalizeOperand_eq, hfault]
    rfl
  rw [compile_eq, compileStatement_singleton_refused registry hplan]
  rfl

end Tests

section Forms

variable {answers : Answers} {registry : Registry} {holds : Value → Bool}

theorem Means.bare {limit : Nat} {v : Value}
    (h : Means answers registry limit (.singleton Builtin.eq.name v) holds)
    (hv : ∀ fields, v ≠ .object fields) : Means answers registry limit v holds := by
  obtain ⟨s, hs, htest⟩ := h
  rw [compileStatement_succ, compileExpressions, ← clauses_eq_equality hv] at hs
  refine ⟨s, ?_, htest⟩
  rw [compileStatement_succ, compileExpressions, hs]

/-- The query compiles, and its statement holds for exactly the data with the property. -/
def HoldsExactly (answers : Answers) (registry : Registry) (options : CompileOptions)
    (query : Value) (property : Value → Prop) : Prop :=
  ∃ s, compile registry options query = .ok s ∧
    ∀ datum, s.test answers datum = true ↔ property datum

theorem Means.holdsExactly {options : CompileOptions} {query : Value}
    (h : Means answers registry options.depthLimit query holds) {property : Value → Prop}
    (hiff : ∀ datum, holds datum = true ↔ property datum) :
    HoldsExactly answers registry options query property := by
  obtain ⟨s, hs, htest⟩ := h.compile options.reorder
  refine ⟨s, hs, fun datum => ?_⟩
  rw [htest, hiff]

end Forms
end DocQuery.Query
