import DocQuery.Proofs.Query.Depth
import DocQuery.Proofs.Statement.WellFormed

/-!
Every statement that has been compiled is well-formed. Preparing an operand leaves a
test of what is comparable; the plan of a clause hands each query the key that the
expression asks of its statement; and weighing a clause comes last, so its cost is that
of the operand which it has in the end. What a registry holds and what its operators
make of their operands does not matter to this.
-/

namespace DocQuery

theorem Matcher.ofValue_prepared {v : Value} (h : v.normalize = v) :
    (Matcher.ofValue v).Prepared := by
  cases v with
  | regex p | predicate p => trivial
  | _ =>
    refine ⟨h, ?_, ?_⟩
    all_goals
      intro p hp
      cases hp

namespace Operand

theorem members_prepared {operand : Value} {items : List Value} (h : operand.normalize = operand)
    (hitems : members operand = .ok items) : ∀ v ∈ items, v.normalize = v := by
  cases operand with
  | array list =>
    cases hitems
    intro v hv
    exact Value.normalize_item h hv
  | _ => cases hitems

theorem division_nonzero {operand : Value} {pair : Number × Number}
    (h : division operand = .ok pair) : pair.1.isZero = false := by
  cases operand with
  | array items =>
    match items with
    | [] | [_] | _ :: _ :: _ :: _ => cases h
    | [divisor, remainder] =>
      rw [division] at h
      cases hd : divisor.number? with
      | none =>
        rw [hd] at h
        cases h
      | some d =>
        rw [hd] at h
        by_cases hzero : d.isZero = true
        · simp only [hzero, if_true] at h
          cases h
        · simp only [if_neg hzero] at h
          cases hr : remainder.number? with
          | none =>
            rw [hr] at h
            cases h
          | some r =>
            rw [hr] at h
            cases h
            exact Bool.eq_false_iff.mpr hzero
  | _ => cases h

end Operand

theorem Builtin.prepare_prepared {b : Builtin} {operand : Value} {check : Check}
    (h : operand.normalize = operand) (hcheck : b.prepare operand = .ok check) :
    check.Prepared := by
  cases b with
  | and | or | nor | not | traverse => cases hcheck
  | eq | ne =>
    cases hcheck
    exact Matcher.ofValue_prepared h
  | lt | gt | lte | gte =>
    cases hcheck
    exact h
  | present =>
    cases hcheck
    trivial
  | size | regex | satisfies | hasType =>
    obtain ⟨prepared, -, rfl⟩ := map_eq_ok.mp hcheck
    trivial
  | modulo =>
    obtain ⟨pair, hpair, rfl⟩ := map_eq_ok.mp hcheck
    exact Operand.division_nonzero hpair
  | isIn | notIn | all =>
    obtain ⟨items, hitems, rfl⟩ := map_eq_ok.mp hcheck
    exact Operand.members_prepared h hitems

namespace Query

namespace Plan

/-- Of statements with the keys that the plan gives out, it makes an expression whose
operand fits. -/
def OperandsFit : Plan → Prop
  | done e => e.OperandFits
  | single _ key make => ∀ s : Statement, s.key = some key → (make s).OperandFits
  | several _ make => ∀ statements : List Statement, (∀ s ∈ statements, s.key = none) →
    (make statements).OperandFits

variable {inner : Inner} {p : Plan} {e : Expression}

theorem complete_fits (hp : p.OperandsFit)
    (hkey : ∀ query key s, inner query key = .ok s → s.key = key)
    (h : p.complete inner = .ok e) : e.OperandFits := by
  cases p with
  | done made =>
    cases h
    exact hp
  | single query key make =>
    obtain ⟨s, hs, rfl⟩ := map_eq_ok.mp h
    exact hp s (hkey query (some key) s hs)
  | several queries make =>
    obtain ⟨statements, hstatements, rfl⟩ := map_eq_ok.mp h
    apply hp
    intro s hs
    obtain ⟨query, -, hquery⟩ := exists_of_mem_mapM hstatements hs
    exact hkey query none s hquery

theorem exists_of_mem_statements (hp : p.HoldsOwn) (h : p.complete inner = .ok e) {s : Statement}
    (hs : s ∈ e.statements) : ∃ query key, inner query key = .ok s := by
  cases p with
  | done made =>
    cases h
    rw [hp] at hs
    cases hs
  | single query key make =>
    obtain ⟨t, ht, rfl⟩ := map_eq_ok.mp h
    rw [hp t, List.mem_singleton] at hs
    rw [hs]
    exact ⟨query, some key, ht⟩
  | several queries make =>
    obtain ⟨statements, hstatements, rfl⟩ := map_eq_ok.mp h
    rw [hp statements] at hs
    obtain ⟨query, -, hquery⟩ := exists_of_mem_mapM hstatements hs
    exact ⟨query, none, hquery⟩

end Plan

theorem plan_fits {registry : Registry} {clause : String × Value} {p : Plan}
    (h : plan registry clause = .ok p) : p.OperandsFit := by
  obtain ⟨key, clause⟩ := clause
  cases planned_of_plan h with
  | check hop htest =>
    have hcomparable : clause.normalizeOperand.normalize = clause.normalizeOperand := by
      rw [Value.normalizeOperand_eq, Value.normalize_normalize]
    exact Builtin.prepare_prepared hcomparable htest
  | junction =>
    intro statements hnone
    exact hnone
  | negation hop =>
    intro s hs
    rcases resolve_eq_ok hop with rfl | heq
    · exact hs
    · cases heq
  | traversal =>
    intro s hs
    exact hs
  | customValue hop hvalue => exact hvalue
  | customQuery hop hqueries =>
    intro s hs
    rcases resolve_eq_ok hop with rfl | heq
    · exact ⟨hqueries, hs⟩
    · cases heq
  | customQueries hop hqueries =>
    intro statements hnone
    exact ⟨hqueries, hnone⟩

/-- A clause compiles to a well-formed expression, if the queries in it compile to
well-formed statements with the keys that they are given. -/
theorem compileClause_wellFormed {registry : Registry} {inner : Inner} {clause : String × Value}
    {e : Expression}
    (hinner : ∀ query key s, inner query key = .ok s → s.key = key ∧ s.WellFormed)
    (h : compileClause registry inner clause = .ok e) :
    e.WellFormed ∧ ∀ s ∈ e.statements, s.WellFormed := by
  rw [compileClause_eq] at h
  obtain ⟨p, hp, h⟩ := bind_eq_ok.mp h
  obtain ⟨made, hmade, rfl⟩ := map_eq_ok.mp h
  constructor
  · have hkey : ∀ query key s, inner query key = .ok s → s.key = key := by
      intro query key s hs
      exact (hinner query key s hs).1
    exact (Plan.complete_fits (plan_fits hp) hkey hmade).weighed
  · intro s hs
    rw [statements_weighed] at hs
    obtain ⟨query, key, hquery⟩ := Plan.exists_of_mem_statements (plan_holdsOwn hp) hmade hs
    exact (hinner query key s hquery).2

theorem compileStatement_wellFormed {registry : Registry} {limit room : Nat} {query : Value}
    {key : Option String} {s : Statement}
    (h : compileStatement registry limit room query key = .ok s) : s.key = key ∧ s.WellFormed := by
  induction room generalizing query key s with
  | zero => cases h
  | succ room ih =>
    rw [compileStatement_succ] at h
    obtain ⟨expressions, hexpressions, rfl⟩ := map_eq_ok.mp h
    refine ⟨rfl, ?_⟩
    apply Statement.wellFormed_mk_iff.mpr
    intro e he
    obtain ⟨clause, -, hclause⟩ := exists_of_mem_mapM hexpressions he
    exact compileClause_wellFormed (fun query key s hs => ih hs) hclause

/-- Whatever compiles is well-formed at every depth, has no key, and stays so however
often it is reordered. -/
theorem compile_wellFormed {registry : Registry} {options : CompileOptions} {query : Value}
    {s : Statement} (h : compile registry options query = .ok s) (n : Nat) :
    (Statement.reorder^[n] s).key = none ∧ (Statement.reorder^[n] s).WellFormed := by
  rw [compile_eq] at h
  obtain ⟨written, hwritten, rfl⟩ := map_eq_ok.mp h
  obtain ⟨hkey, hform⟩ := compileStatement_wellFormed hwritten
  have hsorted : (if options.reorder then written.reorder else written).key = none ∧
      (if options.reorder then written.reorder else written).WellFormed := by
    split
    · exact ⟨written.key_reorder.trans hkey, hform.reorder⟩
    · exact ⟨hkey, hform⟩
  obtain ⟨hsame, hkept⟩ := hsorted.2.iterate_reorder n
  exact ⟨hsame.trans hsorted.1, hkept⟩

/-- An added operator holds one query and another a list, with an instant below. -/
theorem wellFormed_with_added_operators :
    let single := Registry.standard.register ⟨"one", true, none, fun _ _ _ => .answer true⟩
    let registry := single.register ⟨"many", true, none, fun _ _ _ => .answer true⟩
    let query : Value := .object [("$one", .singleton "a.b" (.singleton "$not" (.object []))),
      ("$many", .array [.null,
        .singleton "c" (.singleton "$in" (.array [.date ⟨0, 0, by decide, by decide⟩]))])]
    ∃ s, compile registry ⟨false, 9⟩ query = .ok s ∧
      (Statement.reorder^[2] s).key = none ∧ (Statement.reorder^[2] s).WellFormed := by
  intro single registry query
  have haccepted : refusal? (compile registry ⟨false, 9⟩ query) = none := rfl
  obtain ⟨s, hs⟩ := refusal?_eq_none.mp haccepted
  exact ⟨s, hs, compile_wellFormed hs 2⟩

end Query
end DocQuery
