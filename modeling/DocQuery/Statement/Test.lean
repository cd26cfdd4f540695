import DocQuery.Statement.Basic
import DocQuery.Value.Normalize
/-!
Testing a datum. Expressions are tried in order, and the first that fails decides. Every statement
makes the comparable form of its datum once for all of its expressions.
-/
namespace DocQuery

/-- Carries a consultation out; `reply` answers for the queries of the operand. -/
def Consultation.run (reply : Nat → Value → Traced Bool) : Consultation → Traced Bool
  | answer result => pure result
  | ask query datum next => do
    let result ← reply query datum
    (next result).run reply

/-- The values that a field is read from: for an array, those of the elements that have it. A field
that is missing outside of arrays reads as absence. -/
def readField (field : String) (raw : Value) : List Value :=
  match raw with
  | .array items => items.filterMap (·.get? field)
  | other => [(other.get? field).getD .undefined]

mutual

def Statement.run (answers : Answers) : Statement → Value → Traced Bool
  | .mk expressions _, raw => runExpressions answers expressions raw.normalize raw

/-- Tests a datum, given also in its comparable form. -/
def Expression.run (answers : Answers) : Expression → Value → Value → Traced Bool
  | .check test _, candidate, raw => test.run answers candidate raw
  | .junction .and statements _, _, raw => runAll answers statements raw
  | .junction .or statements _, _, raw =>
    if statements.isEmpty then pure true else runAny answers statements raw
  | .junction .nor statements _, _, raw => (runAny answers statements raw).not
  | .negation statement _, _, raw => (Statement.run answers statement raw).not
  | .traversal field statement _, _, raw =>
    Traced.any (fun v => Statement.run answers statement v) (readField field raw)
  | .customValue operator operand _, candidate, raw => do
    Traced.call (.operator operator.name raw)
    (operator.evaluate (.value operand) candidate raw).run fun _ _ => pure false
  | .customQuery operator statement _, candidate, raw => do
    Traced.call (.operator operator.name raw)
    (operator.evaluate .query candidate raw).run fun query datum =>
      if query = 0 then Statement.run answers statement datum else pure false
  | .customQueries operator statements _, candidate, raw => do
    Traced.call (.operator operator.name raw)
    (operator.evaluate (.queries statements.length) candidate raw).run fun query datum =>
      runAt answers statements query datum

def runExpressions (answers : Answers) : List Expression → Value → Value → Traced Bool
  | [], _, _ => pure true
  | e :: rest, candidate, raw => do
    if ← Expression.run answers e candidate raw then runExpressions answers rest candidate raw
    else pure false

def runAll (answers : Answers) : List Statement → Value → Traced Bool
  | [], _ => pure true
  | s :: rest, raw => do
    if ← Statement.run answers s raw then runAll answers rest raw else pure false

def runAny (answers : Answers) : List Statement → Value → Traced Bool
  | [], _ => pure false
  | s :: rest, raw => do
    if ← Statement.run answers s raw then pure true else runAny answers rest raw

def runAt (answers : Answers) : List Statement → Nat → Value → Traced Bool
  | [], _, _ => pure false
  | s :: _, 0, raw => Statement.run answers s raw
  | _ :: rest, n + 1, raw => runAt answers rest n raw

end

namespace Statement

def test (answers : Answers) (s : Statement) (datum : Value) : Bool := (s.run answers datum).value

end Statement

def Expression.test (answers : Answers) (e : Expression) (datum : Value) : Bool :=
  (e.run answers datum.normalize datum).value

end DocQuery
