import DocQuery.Query.Compile
import DocQuery.Query.Selector
import DocQuery.Statement.Test
/-!
Filtering. A sieve keeps the items whose selected part satisfies a statement, in their order.
-/
namespace DocQuery

structure Sieve where
  statement : Statement
  selector : Selector := .identity

namespace Sieve

def ofQuery (registry : Registry) (query : Value) (selector : Selector) : Except QueryError Sieve := do
  return ⟨← Query.compile registry {} query, selector⟩

def run (answers : Answers) (s : Sieve) (item : Value) : Traced Bool :=
  s.statement.run answers (s.selector.select item)

def keeps (answers : Answers) (s : Sieve) (item : Value) : Bool := (s.run answers item).value

def filter (answers : Answers) (s : Sieve) (items : List Value) : Traced (List Value) :=
  Traced.select (s.run answers) items

theorem value_filter (answers : Answers) (s : Sieve) (items : List Value) :
    (s.filter answers items).value = items.filter (s.keeps answers) := by
  unfold filter
  induction items with
  | nil => rfl
  | cons item rest ih =>
    rw [Traced.select, Traced.value_bind, Traced.value_bind, Traced.value_pure, ih, List.filter_cons]
    rfl

end Sieve
end DocQuery
