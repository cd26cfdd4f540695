import DocQuery.Operator.Basic
/-!
The operators that queries may use. Every name starts with a dollar sign, and no name is taken twice.
Adding an operator replaces the one with its name; queries that have been compiled keep the operator
that they were compiled with.
-/
namespace DocQuery

def operatorSign : Char := '$'

/-- The text is the name of an operator rather than of a field. -/
def isOperatorName (name : String) : Bool := name.toList.head? == some operatorSign

/-- The name with the sign in front, unless it is there. -/
def canonicalName (name : String) : String :=
  if isOperatorName name then name else String.singleton operatorSign ++ name

theorem isOperatorName_canonicalName (name : String) : isOperatorName (canonicalName name) = true := by
  unfold canonicalName
  split
  · assumption
  · simp [isOperatorName, String.toList_append]

structure Registry where
  operators : List Operator
  distinct : (operators.map Operator.name).Nodup
  signed : ∀ op ∈ operators, isOperatorName op.name = true

namespace Registry

def empty : Registry := ⟨[], List.nodup_nil, by simp⟩

def standard : Registry := ⟨Builtin.list.map .builtin, by decide, by decide⟩

def lookup (r : Registry) (name : String) : Option Operator :=
  r.operators.find? fun op => op.name == name

def contains (r : Registry) (name : String) : Bool := (r.lookup name).isSome

def size (r : Registry) : Nat := r.operators.length

/-- The names, in the order of their code points. -/
def names (r : Registry) : List String :=
  (r.operators.map Operator.name).mergeSort fun a b => decide (a ≤ b)

private def others (r : Registry) (name : String) : List Operator :=
  r.operators.filter fun op => op.name != name

private theorem others_distinct (r : Registry) (name : String) :
    ((r.others name).map Operator.name).Nodup :=
  r.distinct.sublist (List.Sublist.map _ List.filter_sublist)

def insert (r : Registry) (op : Operator) (h : isOperatorName op.name = true) : Registry where
  operators := op :: r.others op.name
  distinct := by
    rw [List.map_cons, List.nodup_cons]
    refine ⟨fun hmem => ?_, others_distinct r op.name⟩
    obtain ⟨o, ho, heq⟩ := List.mem_map.1 hmem
    have := (List.mem_filter.1 ho).2
    simp [heq] at this
  signed := by
    intro o ho
    rcases List.mem_cons.1 ho with heq | hrest
    · rw [heq]
      exact h
    · exact r.signed o (List.mem_filter.1 hrest).1

/-- Adds an operator under the canonical form of its name. -/
def register (r : Registry) (op : CustomOperator) : Registry :=
  r.insert (.custom { op with name := canonicalName op.name })
    (isOperatorName_canonicalName op.name)

def registerBuiltin (r : Registry) (b : Builtin) : Registry :=
  r.insert (.builtin b) (by cases b <;> decide)

/-- Removes an operator, and gives the one that was removed. -/
def unregister (r : Registry) (name : String) : Option Operator × Registry :=
  let name := canonicalName name
  (r.lookup name,
    { operators := r.others name
      distinct := others_distinct r name
      signed := fun op h => r.signed op (List.mem_filter.1 h).1 })

end Registry
end DocQuery
