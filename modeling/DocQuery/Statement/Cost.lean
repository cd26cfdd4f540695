import DocQuery.Statement.Basic
/-!
What an expression is expected to cost: a hundred for each step of its operator's class, and the size
of its operand. Costs do not grow beyond 64 bits. Reordering sorts the expressions of every statement by
cost, and the lists of the built-in operators by weight, and keeps the order of equals.
-/
namespace DocQuery

/-- The largest cost, 2 ^ 64 - 1. -/
def costLimit : Nat := 0xFFFFFFFFFFFFFFFF

/-- A sum that stays within the limit. -/
def boundedAdd (a b : Nat) : Nat := min (a + b) costLimit

def boundedSum (costs : List Nat) : Nat := costs.foldl boundedAdd 0

/-- The size of patterns and predicates. -/
def opaqueMagnitude : Nat := 100

def numberMagnitude (n : Number) : Nat := n.wholeMagnitude costLimit

mutual

def Value.magnitude : Value → Nat
  | .null | .undefined | .bool _ | .date _ => 0
  | .number n => numberMagnitude n
  | .string s => min s.length costLimit
  | .array items => boundedSum (Value.magnitudes items)
  | .object fields => boundedSum (Value.fieldMagnitudes fields)
  | .regex _ | .predicate _ => opaqueMagnitude

def Value.magnitudes : List Value → List Nat
  | [] => []
  | v :: rest => v.magnitude :: Value.magnitudes rest

def Value.fieldMagnitudes : List (String × Value) → List Nat
  | [] => []
  | (_, v) :: rest => v.magnitude :: Value.fieldMagnitudes rest

end

def Matcher.magnitude : Matcher → Nat
  | literal v => v.magnitude
  | pattern _ | predicate _ => opaqueMagnitude

/-- The weight of the expressions of a statement. -/
def Statement.weight (s : Statement) : Nat := boundedSum (s.expressions.map Expression.cost)

namespace Check

/-- The class of a test, the cheapest first. -/
def rank : Check → Nat
  | equals _ => 1
  | differs _ | compares .. | present _ => 2
  | hasSize _ | leaves .. | hasType _ => 3
  | isIn _ | notIn _ => 4
  | hasAll _ | matchesPattern _ => 5
  | satisfies _ => 9

def magnitude : Check → Nat
  | equals m | differs m => m.magnitude
  | compares _ v => v.magnitude
  | present _ | hasType _ => 0
  | hasSize n => n
  | leaves divisor remainder => boundedAdd (numberMagnitude divisor) (numberMagnitude remainder)
  | isIn members | notIn members | hasAll members => boundedSum (members.map Value.magnitude)
  | matchesPattern _ | satisfies _ => opaqueMagnitude

end Check

namespace Junction

def rank : Junction → Nat
  | and => 7
  | or | nor => 6

end Junction

namespace Expression

/-- The class of an expression. -/
def rank : Expression → Nat
  | check test _ => test.rank
  | junction kind _ _ => kind.rank
  | negation _ _ => 6
  | traversal _ _ _ => 8
  | customValue operator _ _ | customQuery operator _ _ | customQueries operator _ _ =>
    if operator.traversable then 8 else 5

/-- The size of an operand; for queries, their weight. -/
def magnitude : Expression → Nat
  | check test _ => test.magnitude
  | junction _ statements _ | customQueries _ statements _ =>
    boundedSum (statements.map Statement.weight)
  | negation statement _ | traversal _ statement _ | customQuery _ statement _ => statement.weight
  | customValue _ operand _ => operand.magnitude

/-- The cost of one step of class. -/
def rankScale : Nat := 100

/-- What the expression should cost. -/
def weigh (e : Expression) : Nat := boundedAdd (e.rank * rankScale) e.magnitude

def weighed (e : Expression) : Expression := e.withCost e.weigh

def sortByCost (expressions : List Expression) : List Expression :=
  expressions.mergeSort fun a b => decide (a.cost ≤ b.cost)

end Expression

namespace Statement

def sortByWeight (statements : List Statement) : List Statement :=
  statements.mergeSort fun a b => decide (a.weight ≤ b.weight)

end Statement

mutual

/-- Sorts the expressions, those of all statements within first. -/
def Statement.reorder : Statement → Statement
  | .mk expressions key => .mk (Expression.sortByCost (reorderExpressions expressions)) key

def Expression.reorder : Expression → Expression
  | .check test cost => .check test cost
  | .junction kind statements cost =>
    .junction kind (Statement.sortByWeight (reorderStatements statements)) cost
  | .negation statement cost => .negation statement.reorder cost
  | .traversal field statement cost => .traversal field statement.reorder cost
  | .customValue operator operand cost => .customValue operator operand cost
  | .customQuery operator statement cost => .customQuery operator statement.reorder cost
  | .customQueries operator statements cost =>
    .customQueries operator (reorderStatements statements) cost

def reorderExpressions : List Expression → List Expression
  | [] => []
  | e :: rest => e.reorder :: reorderExpressions rest

def reorderStatements : List Statement → List Statement
  | [] => []
  | s :: rest => s.reorder :: reorderStatements rest

end

end DocQuery
