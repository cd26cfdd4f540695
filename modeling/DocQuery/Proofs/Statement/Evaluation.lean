import DocQuery.Proofs.Statement.Nesting
import DocQuery.Statement.Cost
import DocQuery.Statement.Test

/-!
What a statement answers, apart from the calls on the way. A statement is the
conjunction of its expressions; what an expression answers depends on its
statements only through their own answers. There is one equation for each kind
of expression, and nothing after this module opens the evaluator again.
-/

namespace DocQuery

namespace Consultation

/-- The result of a consultation, when `reply` tells what each query says. -/
def conclude (reply : Nat → Value → Bool) : Consultation → Bool
  | answer result => result
  | ask query datum next => (next (reply query datum)).conclude reply

theorem value_run (reply : Nat → Value → Traced Bool) (c : Consultation) :
    (c.run reply).value = c.conclude fun query datum => (reply query datum).value := by
  induction c with
  | answer result => rfl
  | ask query datum next ih =>
    rw [run, Traced.value_bind, ih]
    rfl

end Consultation

/-- What a junction makes of the answers of its statements. -/
def Junction.combine : Junction → List Bool → Bool
  | and, bs => bs.all id
  | or, bs => bs.isEmpty || bs.any id
  | nor, bs => !bs.any id

theorem Junction.combine_perm (kind : Junction) {as bs : List Bool} (h : as.Perm bs) :
    kind.combine as = kind.combine bs := by
  cases kind with
  | and => exact h.all_eq
  | or => rw [combine, combine, h.any_eq, h.isEmpty_eq]
  | nor => rw [combine, combine, h.any_eq]

theorem Junction.combine_and_iff {bs : List Bool} :
    Junction.and.combine bs = true ↔ ∀ b ∈ bs, b = true := by
  rw [combine, List.all_eq_true]
  exact Iff.rfl

theorem Junction.combine_or_iff {bs : List Bool} :
    Junction.or.combine bs = true ↔ bs = [] ∨ ∃ b ∈ bs, b = true := by
  rw [combine, Bool.or_eq_true, List.isEmpty_iff, List.any_eq_true]
  exact Iff.rfl

theorem Junction.combine_nor_iff {bs : List Bool} :
    Junction.nor.combine bs = true ↔ ∀ b ∈ bs, b = false := by
  rw [combine, Bool.not_eq_true', List.any_eq_false]
  simp only [id, Bool.not_eq_true]

/-- Of no answers at all, disjunction and joint denial both hold. -/
theorem Junction.combine_nor_eq_not_iff {bs : List Bool} :
    Junction.nor.combine bs = (!Junction.or.combine bs) ↔ bs ≠ [] := by
  cases bs with
  | nil => decide
  | cons b rest => simp [combine]

section Lists

variable (answers : Answers)

theorem runExpressions_eq_all (expressions : List Expression) (candidate raw : Value) :
    runExpressions answers expressions candidate raw =
      Traced.all (fun e => e.run answers candidate raw) expressions := by
  induction expressions with
  | nil => rfl
  | cons e rest ih => rw [runExpressions, ih, Traced.all]

theorem runAll_eq_all (statements : List Statement) (raw : Value) :
    runAll answers statements raw = Traced.all (fun s => s.run answers raw) statements := by
  induction statements with
  | nil => rfl
  | cons s rest ih => rw [runAll, ih, Traced.all]

theorem runAny_eq_any (statements : List Statement) (raw : Value) :
    runAny answers statements raw = Traced.any (fun s => s.run answers raw) statements := by
  induction statements with
  | nil => rfl
  | cons s rest ih => rw [runAny, ih, Traced.any]

theorem value_runExpressions (expressions : List Expression) (candidate raw : Value) :
    (runExpressions answers expressions candidate raw).value =
      expressions.all fun e => (e.run answers candidate raw).value := by
  rw [runExpressions_eq_all, Traced.value_all]

theorem value_runAll (statements : List Statement) (raw : Value) :
    (runAll answers statements raw).value = statements.all fun s => s.test answers raw := by
  rw [runAll_eq_all, Traced.value_all]
  rfl

theorem value_runAny (statements : List Statement) (raw : Value) :
    (runAny answers statements raw).value = statements.any fun s => s.test answers raw := by
  rw [runAny_eq_any, Traced.value_any]
  rfl

/-- No statement at the place counts as a refusal. -/
theorem value_runAt (statements : List Statement) (place : Nat) (raw : Value) :
    (runAt answers statements place raw).value =
      statements[place]?.any fun s => s.test answers raw := by
  induction statements generalizing place with
  | nil => rfl
  | cons s rest ih =>
    cases place with
    | zero => rfl
    | succ n => exact ih n

end Lists

theorem Statement.test_mk (answers : Answers) (expressions : List Expression)
    (key : Option String) (datum : Value) :
    (Statement.mk expressions key).test answers datum =
      expressions.all fun e => e.test answers datum :=
  value_runExpressions answers expressions datum.normalize datum

theorem Statement.test_withKey (answers : Answers) (s : Statement) (key : Option String)
    (datum : Value) : (Statement.mk s.expressions key).test answers datum = s.test answers datum := by
  obtain ⟨expressions, old⟩ := s
  rfl

namespace Expression

variable (answers : Answers) (datum : Value)

theorem test_withCost (e : Expression) (cost : Nat) :
    (e.withCost cost).test answers datum = e.test answers datum := by
  cases e with
  | junction kind statements old => cases kind <;> rfl
  | _ => rfl

theorem test_weighed (e : Expression) : e.weighed.test answers datum = e.test answers datum :=
  e.test_withCost answers datum _

theorem test_check (check : Check) (cost : Nat) :
    (Expression.check check cost).test answers datum =
      (check.run answers datum.normalize datum).value := rfl

theorem test_junction (kind : Junction) (statements : List Statement) (cost : Nat) :
    (junction kind statements cost).test answers datum =
      kind.combine (statements.map fun s => s.test answers datum) := by
  cases kind with
  | and =>
    rw [Junction.combine, List.all_map]
    exact value_runAll answers statements datum
  | or =>
    rw [Junction.combine, List.any_map, List.isEmpty_map]
    cases statements with
    | nil => rfl
    | cons s rest => exact value_runAny answers (s :: rest) datum
  | nor =>
    rw [Junction.combine, List.any_map]
    exact congrArg Bool.not (value_runAny answers statements datum)

theorem test_negation (s : Statement) (cost : Nat) :
    (negation s cost).test answers datum = !s.test answers datum := rfl

theorem test_traversal (field : String) (s : Statement) (cost : Nat) :
    (traversal field s cost).test answers datum =
      (readField field datum).any fun v => s.test answers v :=
  Traced.value_any _ _

/-- The one query of an operand has place 0. -/
theorem test_customQuery (op : CustomOperator) (s : Statement) (cost : Nat) :
    (customQuery op s cost).test answers datum =
      (op.evaluate .query datum.normalize datum).conclude fun place v =>
        decide (place = 0) && s.test answers v := by
  refine (Consultation.value_run _ _).trans ?_
  congr 1
  funext place v
  by_cases h : place = 0
  · simp [h, Statement.test]
  · simp [h]

theorem test_customQueries (op : CustomOperator) (statements : List Statement) (cost : Nat) :
    (customQueries op statements cost).test answers datum =
      (op.evaluate (.queries statements.length) datum.normalize datum).conclude fun place v =>
        statements[place]?.any fun s => s.test answers v := by
  refine (Consultation.value_run _ _).trans ?_
  congr 1
  funext place v
  exact value_runAt answers statements place v

end Expression

/-- The statement of one expression. -/
theorem Statement.test_single (answers : Answers) (e : Expression) (key : Option String)
    (datum : Value) :
    (Statement.mk [e.weighed] key).test answers datum = e.test answers datum := by
  rw [test_mk, List.all_cons, List.all_nil, Bool.and_true, Expression.test_weighed]

end DocQuery
