import DocQuery.Query.Sieve
import DocQuery.Value.Inspect
/-!
What is reported while queries are compiled and run: operators that are added, statements that are
reordered, queries that have been compiled, and how many items were kept.
-/
namespace DocQuery

inductive Report where
  | registered (name : String)
  | replaced (name : String)
  | reordered (expressions : List (String × Nat))
  | compiled (expressions weight : Nat)
  | kept (count total : Nat)

namespace Report

private def number (n : Nat) : String := String.ofList (Numeral.decimal n)

private def costs (expressions : List (String × Nat)) : String :=
  String.intercalate ", " (expressions.map fun (name, cost) =>
    "(" ++ String.ofList (Inspect.quoted name) ++ ", " ++ number cost ++ ")")

def line : Report → String
  | registered name => "DEBUG operator " ++ name ++ " registered"
  | replaced name => "DEBUG operator " ++ name ++ " replaced"
  | reordered expressions =>
    "TRACE reordered " ++ number expressions.length ++ " expressions: [" ++ costs expressions ++ "]"
  | compiled expressions weight =>
    "DEBUG compiled query: " ++ number expressions ++ " top-level expressions, weight " ++ number weight
  | kept count total => "TRACE sift kept " ++ number count ++ " of " ++ number total ++ " items"

end Report

mutual

/-- The reports of reordering a statement, those of the statements within first. -/
def Statement.reorderReports : Statement → List Report
  | .mk expressions key =>
    reorderReportsOfExpressions expressions ++
      [.reordered ((Statement.mk expressions key).reorder.expressions.map fun e => (e.operatorName, e.cost))]

def Expression.reorderReports : Expression → List Report
  | .check _ _ | .customValue _ _ _ => []
  | .junction _ statements _ | .customQueries _ statements _ => reorderReportsOfStatements statements
  | .negation statement _ | .traversal _ statement _ | .customQuery _ statement _ =>
    statement.reorderReports

def reorderReportsOfExpressions : List Expression → List Report
  | [] => []
  | e :: rest => e.reorderReports ++ reorderReportsOfExpressions rest

def reorderReportsOfStatements : List Statement → List Report
  | [] => []
  | s :: rest => s.reorderReports ++ reorderReportsOfStatements rest

end

def Registry.registerReport (r : Registry) (op : CustomOperator) : Report :=
  let name := canonicalName op.name
  if r.contains name then .replaced name else .registered name

/-- The reports of compiling a query that compiles. -/
def Query.compileReports (registry : Registry) (options : CompileOptions) (query : Value) : List Report :=
  match compile registry { options with reorder := false } query with
  | .error _ => []
  | .ok written =>
    let statement := if options.reorder then written.reorder else written
    (if options.reorder then written.reorderReports else []) ++
      [.compiled statement.expressions.length statement.weight]

def Sieve.filterReport (answers : Answers) (s : Sieve) (items : List Value) : Report :=
  .kept (s.filter answers items).value.length items.length

end DocQuery
