import DocQuery.Proofs.Operator.Registry
import DocQuery.Proofs.Refusal
import DocQuery.Query.Compile

/-!
Compiling a clause in two steps. The first looks at the clause alone and leaves
a plan: an expression, or one query, or a list of queries, with the expression
that the statements for them will make. The second compiles these queries. The
operators differ in the first step only (`compileClause_eq`), so that what is
proved about the three kinds of plan holds of all of them. `Planned` lists the plans
that there are, each with the operator that it is for.
-/

namespace DocQuery

/-- The test that an operand becomes, for an operator that holds no queries. The
operand comes in its comparable form. -/
def Builtin.prepare (b : Builtin) (operand : Value) : Except OperandFault Check :=
  match b with
  | .eq => .ok (.equals (.ofValue operand))
  | .ne => .ok (.differs (.ofValue operand))
  | .lt => .ok (.compares .lt operand)
  | .lte => .ok (.compares .lte operand)
  | .gt => .ok (.compares .gt operand)
  | .gte => .ok (.compares .gte operand)
  | .present => .ok (.present operand.isTruthy)
  | .size => (Operand.size operand).map .hasSize
  | .modulo => (Operand.division operand).map fun pair => .leaves pair.1 pair.2
  | .isIn => (Operand.members operand).map .isIn
  | .notIn => (Operand.members operand).map .notIn
  | .all => (Operand.members operand).map .hasAll
  | .regex => (Operand.pattern operand).map .matchesPattern
  | .satisfies => (Operand.predicate operand).map .satisfies
  | .hasType => (Operand.valueType operand).map .hasType
  | .and | .or | .nor | .not | .traverse => .error .notQueries

namespace Query

/-- What is left to do for a clause. -/
inductive Plan where
  | done (e : Expression)
  | single (query : Value) (key : String) (make : Statement → Expression)
  | several (queries : List Value) (make : List Statement → Expression)

namespace Plan

def complete (inner : Inner) : Plan → Except QueryError Expression
  | done e => .ok e
  | single query key make => (inner query (some key)).map make
  | several queries make => (queries.mapM fun query => inner query none).map make

end Plan

def planList (operator : String) (make : List Statement → Expression) (clause : Value) :
    Except QueryError Plan :=
  match clause with
  | .array items => .ok (.several items make)
  | _ => .error (.invalidOperand operator .notQueries)

def planBuiltin (b : Builtin) (key : String) (clause : Value) : Except QueryError Plan :=
  match b with
  | .and => planList b.name (.junction .and · 0) clause
  | .or => planList b.name (.junction .or · 0) clause
  | .nor => planList b.name (.junction .nor · 0) clause
  | .not =>
    match clause with
    | .object _ | .regex _ => .ok (.single clause key (.negation · 0))
    | _ => .error (.invalidOperand b.name .notNegatable)
  | .traverse =>
    (expand key clause).map fun part => .single part.2 part.1 (.traversal part.1 · 0)
  | _ => (ofOperand b (b.prepare clause.normalizeOperand)).map fun check => .done (.check check 0)

/-- An operator that holds no queries leaves the test of its operand. -/
theorem planBuiltin_prepared {b : Builtin} (hb : b.isTraversable = false) (key : String)
    (clause : Value) :
    planBuiltin b key clause =
      (ofOperand b (b.prepare clause.normalizeOperand)).map fun check => .done (.check check 0) := by
  cases b with
  | and | or | nor | not | traverse => cases hb
  | _ => rfl

def planCustom (op : CustomOperator) (key : String) (clause : Value) : Except QueryError Plan :=
  if op.traversable then
    match clause with
    | .array items => .ok (.several items (.customQueries op · 0))
    | _ => .ok (.single clause key (.customQuery op · 0))
  else (op.prepare clause.normalizeOperand).map fun operand => .done (.customValue op operand 0)

def planOperator (op : Operator) (key : String) (clause : Value) : Except QueryError Plan :=
  match op with
  | .builtin b => planBuiltin b key clause
  | .custom op => planCustom op key clause

def plan (registry : Registry) (clause : String × Value) : Except QueryError Plan :=
  resolve registry clause.1 >>= fun op => planOperator op clause.1 clause.2

/-- A key stands for the operator of that name, if it does not stand for a field. -/
theorem resolve_eq_ok {registry : Registry} {key : String} {op : Operator}
    (h : resolve registry key = .ok op) : op.name = key ∨ op = .builtin .traverse := by
  unfold resolve at h
  split at h
  · rename_i found hfound
    cases h
    exact Or.inl (Registry.name_of_lookup hfound)
  · split at h
    · cases h
    · cases h
      exact Or.inr rfl

/-- The plans that a clause can have, one for each kind of expression. -/
inductive Planned (registry : Registry) (key : String) (clause : Value) : Plan → Prop
  | check {b : Builtin} {test : Check} (hop : resolve registry key = .ok (.builtin b))
      (htest : b.prepare clause.normalizeOperand = .ok test) :
      Planned registry key clause (.done (.check test 0))
  | junction {kind : Junction} {items : List Value}
      (hop : resolve registry key = .ok (.builtin kind.builtin)) (hitems : clause = .array items) :
      Planned registry key clause (.several items (.junction kind · 0))
  | negation (hop : resolve registry key = .ok (.builtin .not)) :
      Planned registry key clause (.single clause key (.negation · 0))
  | traversal {field : String} {query : Value}
      (hop : resolve registry key = .ok (.builtin .traverse))
      (hexpand : expand key clause = .ok (field, query)) :
      Planned registry key clause (.single query field (.traversal field · 0))
  | customValue {op : CustomOperator} {operand : Value}
      (hop : resolve registry key = .ok (.custom op)) (hvalue : op.traversable = false)
      (hprepare : op.prepare clause.normalizeOperand = .ok operand) :
      Planned registry key clause (.done (.customValue op operand 0))
  | customQuery {op : CustomOperator} (hop : resolve registry key = .ok (.custom op))
      (hqueries : op.traversable = true) :
      Planned registry key clause (.single clause key (.customQuery op · 0))
  | customQueries {op : CustomOperator} {items : List Value}
      (hop : resolve registry key = .ok (.custom op)) (hqueries : op.traversable = true)
      (hitems : clause = .array items) :
      Planned registry key clause (.several items (.customQueries op · 0))

theorem ofOperand_eq_ok {α : Type} {b : Builtin} {operand : Except OperandFault α} {a : α}
    (h : ofOperand b operand = .ok a) : operand = .ok a := by
  cases operand with
  | ok found =>
    cases h
    rfl
  | error fault => cases h

section Planning

variable {registry : Registry} {key : String} {clause : Value} {p : Plan}

theorem planned_of_list (kind : Junction)
    (hop : resolve registry key = .ok (.builtin kind.builtin))
    (h : planList kind.builtin.name (.junction kind · 0) clause = .ok p) :
    Planned registry key clause p := by
  cases clause with
  | array items =>
    cases h
    exact .junction hop rfl
  | _ => cases h

theorem planned_of_builtin {b : Builtin} (hop : resolve registry key = .ok (.builtin b))
    (h : planBuiltin b key clause = .ok p) : Planned registry key clause p := by
  by_cases hb : b.isTraversable = true
  · cases b with
    | and => exact planned_of_list .and hop h
    | or => exact planned_of_list .or hop h
    | nor => exact planned_of_list .nor hop h
    | not =>
      cases clause with
      | object fields | regex pattern =>
        cases h
        exact .negation hop
      | _ => cases h
    | traverse =>
      obtain ⟨part, hpart, rfl⟩ := map_eq_ok.1 h
      exact .traversal hop hpart
    | _ => cases hb
  · rw [planBuiltin_prepared (Bool.eq_false_iff.2 hb)] at h
    obtain ⟨test, htest, rfl⟩ := map_eq_ok.1 h
    exact .check hop (ofOperand_eq_ok htest)

theorem planned_of_custom {op : CustomOperator} (hop : resolve registry key = .ok (.custom op))
    (h : planCustom op key clause = .ok p) : Planned registry key clause p := by
  unfold planCustom at h
  by_cases hqueries : op.traversable = true
  · rw [if_pos hqueries] at h
    cases clause with
    | array items =>
      cases h
      exact .customQueries hop hqueries rfl
    | _ =>
      cases h
      exact .customQuery hop hqueries
  · rw [if_neg hqueries] at h
    obtain ⟨operand, hprepare, rfl⟩ := map_eq_ok.1 h
    exact .customValue hop (Bool.eq_false_iff.2 hqueries) hprepare

theorem planned_of_plan (h : plan registry (key, clause) = .ok p) :
    Planned registry key clause p := by
  obtain ⟨op, hop, hplan⟩ := bind_eq_ok.1 h
  cases op with
  | builtin b => exact planned_of_builtin hop hplan
  | custom op => exact planned_of_custom hop hplan

end Planning

section Equations

variable (inner : Inner)

theorem compileList_eq (operator : String) (make : List Statement → Expression) (clause : Value) :
    (compileList inner operator clause).map make =
      planList operator make clause >>= fun p => p.complete inner := by
  cases clause <;> rfl

private theorem prepared_eq {α : Type} (b : Builtin) (operand : Except OperandFault α)
    (test : α → Check) :
    (ofOperand b operand >>= fun a => pure (Expression.check (test a) 0)) =
      (ofOperand b (operand.map test)).map (fun check => Plan.done (.check check 0)) >>=
        fun p => p.complete inner := by
  cases operand <;> rfl

theorem compileBuiltin_eq (b : Builtin) (key : String) (clause : Value) :
    compileBuiltin inner b key clause =
      planBuiltin b key clause >>= fun p => p.complete inner := by
  cases b with
  | and => exact compileList_eq inner _ (.junction .and · 0) clause
  | or => exact compileList_eq inner _ (.junction .or · 0) clause
  | nor => exact compileList_eq inner _ (.junction .nor · 0) clause
  | not => cases clause <;> rfl
  | traverse =>
    unfold compileBuiltin planBuiltin
    cases expand key clause <;> rfl
  | eq | ne | lt | lte | gt | gte | present => rfl
  | size => exact prepared_eq inner .size (Operand.size _) .hasSize
  | modulo => exact prepared_eq inner .modulo (Operand.division _) fun pair => .leaves pair.1 pair.2
  | isIn => exact prepared_eq inner .isIn (Operand.members _) .isIn
  | notIn => exact prepared_eq inner .notIn (Operand.members _) .notIn
  | all => exact prepared_eq inner .all (Operand.members _) .hasAll
  | regex => exact prepared_eq inner .regex (Operand.pattern _) .matchesPattern
  | satisfies => exact prepared_eq inner .satisfies (Operand.predicate _) .satisfies
  | hasType => exact prepared_eq inner .hasType (Operand.valueType _) .hasType

theorem compileCustom_eq (op : CustomOperator) (key : String) (clause : Value) :
    compileCustom inner op key clause =
      planCustom op key clause >>= fun p => p.complete inner := by
  unfold compileCustom planCustom
  split
  · cases clause <;> rfl
  · cases op.prepare clause.normalizeOperand <;> rfl

/-- A clause is compiled by its plan. -/
theorem compileClause_eq (registry : Registry) (clause : String × Value) :
    compileClause registry inner clause =
      plan registry clause >>= fun p => (p.complete inner).map Expression.weighed := by
  unfold compileClause plan
  cases hop : resolve registry clause.1 with
  | error e => rfl
  | ok op =>
    cases op with
    | builtin b =>
      change compileBuiltin inner b clause.1 clause.2 >>= _ = planBuiltin b clause.1 clause.2 >>= _
      rw [compileBuiltin_eq]
      cases planBuiltin b clause.1 clause.2 <;> rfl
    | custom op =>
      change compileCustom inner op clause.1 clause.2 >>= _ = planCustom op clause.1 clause.2 >>= _
      rw [compileCustom_eq]
      cases planCustom op clause.1 clause.2 <;> rfl

end Equations
end Query
end DocQuery
