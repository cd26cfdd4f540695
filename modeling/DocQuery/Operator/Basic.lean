import DocQuery.Query.Error
/-!
Operators. The built-in ones are a closed list. Others can be added: such an operator may change its
operand once, when a query is compiled, and answers for one datum after the other. Where its operand is
a query, or a list of queries, it does not see them; it asks what they say about a value and goes on
with the answer.
-/
namespace DocQuery

inductive Builtin where
  | eq
  | ne
  | lt
  | gt
  | lte
  | gte
  | present
  | size
  | modulo
  | isIn
  | notIn
  | all
  | regex
  | satisfies
  | hasType
  | and
  | or
  | nor
  | not
  | traverse
deriving DecidableEq

namespace Builtin

def name : Builtin → String
  | eq => "$eq"
  | ne => "$ne"
  | lt => "$lt"
  | gt => "$gt"
  | lte => "$lte"
  | gte => "$gte"
  | present => "$exists"
  | size => "$size"
  | modulo => "$mod"
  | isIn => "$in"
  | notIn => "$nin"
  | all => "$all"
  | regex => "$regex"
  | satisfies => "$where"
  | hasType => "$type"
  | and => "$and"
  | or => "$or"
  | nor => "$nor"
  | not => "$not"
  | traverse => "$trav"

def list : List Builtin :=
  [eq, ne, lt, gt, lte, gte, present, size, modulo, isIn, notIn, all, regex, satisfies, hasType,
    and, or, nor, not, traverse]

def ofName? (name : String) : Option Builtin := list.find? fun b => b.name == name

/-- The operand is one or more queries. -/
def isTraversable : Builtin → Bool
  | and | or | nor | not | traverse => true
  | _ => false

/-- The name without its sign, with a capital. -/
def inspect (b : Builtin) : String := (String.ofList (b.name.toList.drop 1)).capitalize

end Builtin

/-- An order that is asked for, of the datum to the operand. -/
inductive Relation where
  | lt
  | lte
  | gt
  | gte
deriving DecidableEq

namespace Relation

def builtin : Relation → Builtin
  | lt => .lt
  | lte => .lte
  | gt => .gt
  | gte => .gte

def holds : Relation → Ordering → Bool
  | lt, o => o == .lt
  | lte, o => o != .gt
  | gt, o => o == .gt
  | gte, o => o != .lt

end Relation

/-- What an added operator is told about its operand: a value, or how many queries there are to ask. -/
inductive OperandShape where
  | value (v : Value)
  | query
  | queries (count : Nat)

inductive Consultation where
  | answer (result : Bool)
  /-- Asks what a query of the operand says about a value; queries count from 0. -/
  | ask (query : Nat) (datum : Value) (next : Bool → Consultation)

structure CustomOperator where
  name : String
  traversable : Bool
  /-- Changes the comparable form of an operand that is a value. -/
  prepare? : Option (Value → Except QueryError Value)
  /-- Given the operand, the comparable form of the datum, and the datum. -/
  evaluate : OperandShape → Value → Value → Consultation

namespace CustomOperator

def prepare (op : CustomOperator) (operand : Value) : Except QueryError Value :=
  match op.prepare? with
  | some f => f operand
  | none => .ok operand

end CustomOperator

inductive Operator where
  | builtin (b : Builtin)
  | custom (op : CustomOperator)

namespace Operator

def name : Operator → String
  | builtin b => b.name
  | custom op => op.name

def isTraversable : Operator → Bool
  | builtin b => b.isTraversable
  | custom op => op.traversable

end Operator
end DocQuery
