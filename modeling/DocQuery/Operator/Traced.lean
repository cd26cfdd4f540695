import DocQuery.Value.Basic
/-!
Answers together with the calls that led to them: which predicates and which added operators were
asked, in order. Going through a list stops at the first element that decides the answer, and what
comes after it is not asked.
-/
namespace DocQuery

/-- One call of something that is not built in. -/
inductive Call where
  | predicate (p : Predicate) (datum : Value)
  | operator (name : String) (datum : Value)

/-- What every predicate answers about every value. -/
abbrev Answers := Predicate → Value → Bool

structure Traced (α : Type) where
  value : α
  calls : List Call

namespace Traced

instance : Monad Traced where
  pure a := ⟨a, []⟩
  bind x f :=
    let y := f x.value
    ⟨y.value, x.calls ++ y.calls⟩

def call (c : Call) : Traced Unit := ⟨(), [c]⟩

def not (x : Traced Bool) : Traced Bool := ⟨!x.value, x.calls⟩

variable {α : Type}

def all (test : α → Traced Bool) : List α → Traced Bool
  | [] => pure true
  | a :: rest => do if ← test a then all test rest else pure false

def any (test : α → Traced Bool) : List α → Traced Bool
  | [] => pure false
  | a :: rest => do if ← test a then pure true else any test rest

def select (test : α → Traced Bool) : List α → Traced (List α)
  | [] => pure []
  | a :: rest => do
    let kept ← test a
    let others ← select test rest
    pure (if kept then a :: others else others)

@[simp] theorem value_pure (a : α) : (pure a : Traced α).value = a := rfl

@[simp] theorem value_bind {β : Type} (x : Traced α) (f : α → Traced β) :
    (x >>= f).value = (f x.value).value := rfl

theorem value_all (test : α → Traced Bool) (list : List α) :
    (all test list).value = list.all fun a => (test a).value := by
  induction list with
  | nil => rfl
  | cons a rest ih =>
    rw [all, value_bind, List.all_cons]
    cases h : (test a).value <;> simp [ih]

theorem value_any (test : α → Traced Bool) (list : List α) :
    (any test list).value = list.any fun a => (test a).value := by
  induction list with
  | nil => rfl
  | cons a rest ih =>
    rw [any, value_bind, List.any_cons]
    cases h : (test a).value <;> simp [ih]

end Traced

def Answers.ask (answers : Answers) (p : Predicate) (datum : Value) : Traced Bool := do
  Traced.call (.predicate p datum)
  pure (answers p datum)

end DocQuery
