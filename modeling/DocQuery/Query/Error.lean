import DocQuery.Pattern
import DocQuery.Value.Basic
/-!
Why a query, or the choice of what it is asked about, is refused. Each cause is one constructor, and the
words for it are in one place.
-/
namespace DocQuery

inductive OperandFault where
  | notQueries
  | notNegatable
  | emptySegment (path : String)
  | notCount
  | notPair
  | zeroDivisor
  | notNumbers
  | notList
  | notPattern
  | badPattern (fault : PatternFault)
  | textualPredicate
  | notPredicate
  | notTypeName
  | unknownType (name : String)
  /-- A reason of an operator that is not built in. -/
  | refused (reason : String)
deriving DecidableEq

def OperandFault.message : OperandFault → String
  | notQueries => "expected a sequence of queries"
  | notNegatable => "expected a nested query or pattern; use $ne to negate a value"
  | emptySegment path => "empty segment in field path '" ++ path ++ "'"
  | notCount => "expected a non-negative integer"
  | notPair => "expected [divisor, remainder]"
  | zeroDivisor => "divisor must not be zero"
  | notNumbers => "divisor and remainder must be numbers"
  | notList => "expected a sequence"
  | notPattern => "expected a pattern or pattern source"
  | badPattern fault => fault.message
  | textualPredicate => "textual expressions are not supported; pass a predicate"
  | notPredicate => "expected a predicate"
  | notTypeName => "expected a type name"
  | unknownType name => ValueType.unknownName name
  | refused reason => reason

inductive SelectorFault where
  | invalidPath (path : String)
  | notPath (shown : String)
deriving DecidableEq

def SelectorFault.message : SelectorFault → String
  | invalidPath path => "invalid path '" ++ path ++ "'"
  | notPath shown => "expected a path or nothing, got " ++ shown

inductive QueryError where
  | unknownOperator (name : String)
  | invalidOperand (operator : String) (fault : OperandFault)
  | malformedSelector (fault : SelectorFault)
  | nestingTooDeep (limit : Nat)
deriving DecidableEq

def QueryError.message : QueryError → String
  | unknownOperator name => "Unknown operator " ++ name
  | invalidOperand operator fault => "Invalid operand for " ++ operator ++ ": " ++ fault.message
  | malformedSelector fault => "Malformed selector: " ++ fault.message
  | nestingTooDeep limit =>
    "Query nesting exceeds maximum depth of " ++ String.ofList (Numeral.decimal limit)

end DocQuery
