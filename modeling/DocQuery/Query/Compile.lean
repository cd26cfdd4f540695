import DocQuery.Path
import DocQuery.Query.Operand
import DocQuery.Statement.Cost
import DocQuery.Value.Normalize
/-!
Compiling queries. An object stands for all of its clauses; any other query stands for equality with it.
The key of a clause is the name of an operator, or a field, or a path of fields, which stands for
objects one within the other. Clauses are compiled in the order in which they are written, and the first
fault counts.
-/
namespace DocQuery

structure CompileOptions where
  reorder : Bool := true
  /-- How deep statements may nest within the outermost one. -/
  depthLimit : Nat := 128

namespace Query

def clauses : Value → List (String × Value)
  | .object fields => fields
  | other => [(Builtin.eq.name, other)]

/-- The operator of a key. A key that names no operator is a field, unless it looks like a name. -/
def resolve (registry : Registry) (key : String) : Except QueryError Operator :=
  match registry.lookup key with
  | some op => .ok op
  | none => if isOperatorName key then .error (.unknownOperator key) else .ok (.builtin .traverse)

/-- The objects one within the other, for the rest of a path. -/
def nested (segments : List String) (clause : Value) : Value :=
  segments.foldr Value.singleton clause

/-- The first field of a path, and the query about what it holds. -/
def expand (key : String) (clause : Value) : Except QueryError (String × Value) :=
  if Path.isDotted key then
    match Path.segments? key with
    | some (first :: rest) => .ok (first, nested rest clause)
    | _ => .error (.invalidOperand Builtin.traverse.name (.emptySegment key))
  else .ok (key, clause)

/-- How a query within a query is compiled, given its key. -/
abbrev Inner := Value → Option String → Except QueryError Statement

def compileList (inner : Inner) (operator : String) (clause : Value) :
    Except QueryError (List Statement) :=
  match clause with
  | .array items => items.mapM fun item => inner item none
  | _ => .error (.invalidOperand operator .notQueries)

/-- Gives a fault of an operand its operator. -/
def ofOperand {α : Type} (b : Builtin) (operand : Except OperandFault α) : Except QueryError α :=
  match operand with
  | .ok a => .ok a
  | .error fault => .error (.invalidOperand b.name fault)

/-- Compiles a clause of a built-in operator; its cost is still to be set. -/
def compileBuiltin (inner : Inner) (b : Builtin) (key : String) (clause : Value) :
    Except QueryError Expression := do
  let operand := clause.normalizeOperand
  match b with
  | .eq => return .check (.equals (.ofValue operand)) 0
  | .ne => return .check (.differs (.ofValue operand)) 0
  | .lt => return .check (.compares .lt operand) 0
  | .lte => return .check (.compares .lte operand) 0
  | .gt => return .check (.compares .gt operand) 0
  | .gte => return .check (.compares .gte operand) 0
  | .present => return .check (.present operand.isTruthy) 0
  | .size => return .check (.hasSize (← ofOperand b (Operand.size operand))) 0
  | .modulo =>
    let (divisor, remainder) ← ofOperand b (Operand.division operand)
    return .check (.leaves divisor remainder) 0
  | .isIn => return .check (.isIn (← ofOperand b (Operand.members operand))) 0
  | .notIn => return .check (.notIn (← ofOperand b (Operand.members operand))) 0
  | .all => return .check (.hasAll (← ofOperand b (Operand.members operand))) 0
  | .regex => return .check (.matchesPattern (← ofOperand b (Operand.pattern operand))) 0
  | .satisfies => return .check (.satisfies (← ofOperand b (Operand.predicate operand))) 0
  | .hasType => return .check (.hasType (← ofOperand b (Operand.valueType operand))) 0
  | .and => return .junction .and (← compileList inner b.name clause) 0
  | .or => return .junction .or (← compileList inner b.name clause) 0
  | .nor => return .junction .nor (← compileList inner b.name clause) 0
  | .not =>
    match clause with
    | .object _ | .regex _ => return .negation (← inner clause (some key)) 0
    | _ => throw (.invalidOperand b.name .notNegatable)
  | .traverse =>
    let (field, query) ← expand key clause
    return .traversal field (← inner query (some field)) 0

def compileCustom (inner : Inner) (op : CustomOperator) (key : String) (clause : Value) :
    Except QueryError Expression := do
  if op.traversable then
    match clause with
    | .array _ => return .customQueries op (← compileList inner key clause) 0
    | _ => return .customQuery op (← inner clause (some key)) 0
  else return .customValue op (← op.prepare clause.normalizeOperand) 0

def compileClause (registry : Registry) (inner : Inner) (clause : String × Value) :
    Except QueryError Expression := do
  let expression ← match ← resolve registry clause.1 with
    | .builtin b => compileBuiltin inner b clause.1 clause.2
    | .custom op => compileCustom inner op clause.1 clause.2
  return expression.weighed

/-- Compiles a query as it is written, in which `room` statements may nest. -/
def compileStatement (registry : Registry) (limit : Nat) : Nat → Inner
  | 0, _, _ => .error (.nestingTooDeep limit)
  | room + 1, query, key => do
    let expressions ← (clauses query).mapM (compileClause registry (compileStatement registry limit room))
    return .mk expressions key

def compile (registry : Registry) (options : CompileOptions) (query : Value) :
    Except QueryError Statement := do
  let statement ← compileStatement registry options.depthLimit (options.depthLimit + 1) query none
  return if options.reorder then statement.reorder else statement

end Query
end DocQuery
