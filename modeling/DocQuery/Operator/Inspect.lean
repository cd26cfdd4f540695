import DocQuery.Operator.Basic
import DocQuery.Value.Inspect
/-!
The structure of an operator as text.
-/
namespace DocQuery

private def truthText (b : Bool) : String := if b then "true" else "false"

/-- The parts of an added operator that can be told apart. -/
def CustomOperator.inspect (op : CustomOperator) : String :=
  "CustomOperator \x7b name: " ++ String.ofList (Inspect.quoted op.name) ++ ", traversable: " ++
    truthText op.traversable ++ ", prepare: " ++ truthText op.prepare?.isSome ++ " \x7d"

def Operator.inspect : Operator → String
  | builtin b => b.inspect
  | custom op => op.inspect

end DocQuery
