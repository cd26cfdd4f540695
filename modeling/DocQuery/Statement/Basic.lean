import DocQuery.Operator.Check
import DocQuery.Operator.Registry
/-!
Compiled queries. A statement is a list of expressions, all of which have to hold; an expression is an
operator with its prepared operand, and carries its cost. Operators on queries hold statements.
-/
namespace DocQuery

inductive Junction where
  | and
  | or
  | nor
deriving DecidableEq

def Junction.builtin : Junction → Builtin
  | and => .and
  | or => .or
  | nor => .nor

mutual

/-- A compiled query; `key` is the field or the operator that it belongs to. -/
inductive Statement where
  | mk (expressions : List Expression) (key : Option String)

inductive Expression where
  | check (test : Check) (cost : Nat)
  | junction (kind : Junction) (statements : List Statement) (cost : Nat)
  | negation (statement : Statement) (cost : Nat)
  /-- What a field holds is tested. -/
  | traversal (field : String) (statement : Statement) (cost : Nat)
  | customValue (operator : CustomOperator) (operand : Value) (cost : Nat)
  | customQuery (operator : CustomOperator) (statement : Statement) (cost : Nat)
  | customQueries (operator : CustomOperator) (statements : List Statement) (cost : Nat)

end

namespace Expression

def cost : Expression → Nat
  | check _ cost | junction _ _ cost | negation _ cost | traversal _ _ cost => cost
  | customValue _ _ cost | customQuery _ _ cost | customQueries _ _ cost => cost

def withCost (e : Expression) (cost : Nat) : Expression :=
  match e with
  | check test _ => check test cost
  | junction kind statements _ => junction kind statements cost
  | negation statement _ => negation statement cost
  | traversal field statement _ => traversal field statement cost
  | customValue operator operand _ => customValue operator operand cost
  | customQuery operator statement _ => customQuery operator statement cost
  | customQueries operator statements _ => customQueries operator statements cost

def operatorName : Expression → String
  | check test _ => test.builtin.name
  | junction kind _ _ => kind.builtin.name
  | negation _ _ => Builtin.not.name
  | traversal _ _ _ => Builtin.traverse.name
  | customValue operator _ _ | customQuery operator _ _ | customQueries operator _ _ => operator.name

def field? : Expression → Option String
  | traversal field _ _ => some field
  | _ => none

end Expression

namespace Statement

def expressions : Statement → List Expression
  | mk expressions _ => expressions

def key : Statement → Option String
  | mk _ key => key

end Statement
end DocQuery
