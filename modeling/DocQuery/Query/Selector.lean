import DocQuery.Path
import DocQuery.Query.Error
import DocQuery.Value.Display
/-!
Which part of an item a query is asked about: the item itself, what a path of fields leads to, or what a
projection makes of it. A path that leads nowhere selects absence.
-/
namespace DocQuery

inductive Selector where
  | identity
  | path (segments : List String)
  | projection (f : Value → Value)

namespace Selector

def ofPath (path : String) : Except QueryError Selector :=
  match Path.segments? path with
  | some segments => .ok (.path segments)
  | none => .error (.malformedSelector (.invalidPath path))

/-- The selector that a value stands for: no value for the item, and a string for a path. -/
def ofValue (v : Value) : Except QueryError Selector :=
  match v with
  | .null | .undefined => .ok .identity
  | .string text => ofPath text
  | other => .error (.malformedSelector (.notPath other.display))

/-- The selected part of an item. -/
def select (s : Selector) (item : Value) : Value :=
  match s with
  | identity => item
  | path segments => (item.follow? segments).getD .undefined
  | projection f => f item

def inspect : Selector → String
  | identity => "Identity"
  | path segments => "Path(" ++ Path.join segments ++ ")"
  | projection _ => "Func(<fn>)"

end Selector
end DocQuery
