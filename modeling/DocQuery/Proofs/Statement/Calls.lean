import DocQuery.Proofs.Statement.Sorting

/-!
Which predicates and added operators are called while a datum is tested, and in which
order. A list is gone through up to the first element that decides the answer. So the
calls of a statement are those of its expressions up to the first one that fails; and
the calls of an expression are its own, followed by those of the statements that it
asks, one after the other. Where the expressions are in order, whatever costs more
than one that fails might as well not be there.
-/

namespace DocQuery

section Lists

variable {α : Type}

/-- The elements up to the first one that decides, which is the last of them. -/
def upTo (decides : α → Bool) : List α → List α
  | [] => []
  | a :: rest => a :: if decides a then [] else upTo decides rest

variable {decides : α → Bool} {list : List α}

theorem mem_of_mem_upTo {a : α} (h : a ∈ upTo decides list) : a ∈ list := by
  induction list with
  | nil => exact h
  | cons b rest ih =>
    rcases List.mem_cons.mp h with rfl | hrest
    · exact List.mem_cons_self
    · split at hrest
      · cases hrest
      · exact List.mem_cons_of_mem b (ih hrest)

/-- In an ordered list nothing is beyond an element that decides. -/
theorem measure_le_of_mem_upTo {measure : α → Nat} {a b : α}
    (hordered : list.Pairwise fun a b => measure a ≤ measure b) (ha : a ∈ list)
    (hdecides : decides a = true) (hb : b ∈ upTo decides list) : measure b ≤ measure a := by
  induction list with
  | nil => cases ha
  | cons first rest ih =>
    obtain ⟨hfirst, hrest⟩ := List.pairwise_cons.mp hordered
    rcases List.mem_cons.mp ha with rfl | ha
    · rw [upTo, if_pos hdecides, List.mem_singleton] at hb
      rw [hb]
    · rcases List.mem_cons.mp hb with heq | hb
      · rw [heq]
        exact hfirst a ha
      · split at hb
        · cases hb
        · exact ih hrest ha hb

theorem upTo_filter {keeps : α → Bool} (h : ∀ a ∈ upTo decides list, keeps a = true)
    (hdecided : ∃ a ∈ list, decides a = true) :
    upTo decides (list.filter keeps) = upTo decides list := by
  induction list with
  | nil => rfl
  | cons first rest ih =>
    have hfirst : keeps first = true := h first List.mem_cons_self
    rw [List.filter_cons_of_pos hfirst, upTo, upTo]
    by_cases hdecides : decides first = true
    · rw [if_pos hdecides, if_pos hdecides]
    · rw [if_neg hdecides, if_neg hdecides]
      congr 1
      apply ih
      · intro a ha
        apply h a
        rw [upTo, if_neg hdecides]
        exact List.mem_cons_of_mem first ha
      · obtain ⟨a, ha, hlast⟩ := hdecided
        rcases List.mem_cons.mp ha with rfl | ha
        · exact absurd hlast hdecides
        · exact ⟨a, ha, hlast⟩

end Lists

namespace Traced

variable {α : Type} (test : α → Traced Bool)

theorem calls_bind {β : Type} (x : Traced α) (f : α → Traced β) :
    (x >>= f).calls = x.calls ++ (f x.value).calls := rfl

theorem all_upTo (list : List α) :
    all test (upTo (fun a => !(test a).value) list) = all test list := by
  induction list with
  | nil => rfl
  | cons a rest ih =>
    cases h : (test a).value with
    | false => simp [upTo, all, h, bind]
    | true => simp [upTo, all, h, ih, bind]

theorem calls_all (list : List α) :
    (all test list).calls =
      (upTo (fun a => !(test a).value) list).flatMap fun a => (test a).calls := by
  induction list with
  | nil => rfl
  | cons a rest ih =>
    rw [all, calls_bind, upTo, List.flatMap_cons]
    cases h : (test a).value with
    | false => rfl
    | true => exact congrArg _ ih

theorem calls_any (list : List α) :
    (any test list).calls = (upTo (fun a => (test a).value) list).flatMap fun a => (test a).calls := by
  induction list with
  | nil => rfl
  | cons a rest ih =>
    rw [any, calls_bind, upTo, List.flatMap_cons]
    cases h : (test a).value with
    | false => exact congrArg _ ih
    | true => rfl

end Traced

theorem calls_runAt (answers : Answers) (statements : List Statement) (place : Nat) (raw : Value) :
    (runAt answers statements place raw).calls =
      statements[place]?.toList.flatMap fun s => (s.run answers raw).calls := by
  induction statements generalizing place with
  | nil => rfl
  | cons s rest ih =>
    cases place with
    | zero => exact (List.append_nil _).symm
    | succ n => exact ih n

/-! Who is called. -/

/-- What is not built in. -/
inductive Callee where
  | predicate (p : Predicate)
  | operator (name : String)

def Callee.call (datum : Value) : Callee → Call
  | predicate p => .predicate p datum
  | operator name => .operator name datum

def Call.callee : Call → Callee
  | predicate p _ => .predicate p
  | operator name _ => .operator name

theorem Callee.callee_call (datum : Value) (c : Callee) : (c.call datum).callee = c := by
  cases c <;> rfl

def Check.callees : Check → List Callee
  | .equals (.predicate p) | .differs (.predicate p) | .satisfies p => [.predicate p]
  | _ => []

namespace Expression

/-- What an expression calls itself. -/
def callees : Expression → List Callee
  | check test _ => test.callees
  | junction .. | negation .. | traversal .. => []
  | customValue operator _ _ | customQuery operator _ _ | customQueries operator _ _ =>
    [.operator operator.name]

/-- The predicate or operator belongs to the expression, at some depth. -/
inductive Involves (c : Callee) : Expression → Prop
  | own {e : Expression} (h : c ∈ e.callees) : Involves c e
  | inner {e f : Expression} {s : Statement} (hs : s ∈ e.statements) (hf : f ∈ s.expressions)
      (h : Involves c f) : Involves c e

end Expression

theorem Check.calls_run (answers : Answers) (check : Check) (candidate raw : Value) :
    (check.run answers candidate raw).calls = check.callees.map (Callee.call raw) := by
  cases check with
  | equals m | differs m => cases m <;> rfl
  | _ => rfl

/-! What an expression asks of its statements. -/

/-- The tests that a consultation makes, when it may ask these statements. -/
def Consultation.tests (answers : Answers) (statements : List Statement) :
    Consultation → List (Statement × Value)
  | answer _ => []
  | ask place datum next =>
    statements[place]?.toList.map (·, datum) ++
      (next (statements[place]?.any fun s => s.test answers datum)).tests answers statements

namespace Consultation

variable {answers : Answers} {statements : List Statement}

theorem mem_of_mem_tests {c : Consultation} {t : Statement × Value}
    (h : t ∈ c.tests answers statements) : t.1 ∈ statements := by
  induction c with
  | answer result => cases h
  | ask place datum next ih =>
    rcases List.mem_append.mp h with hfirst | hrest
    · obtain ⟨s, hs, rfl⟩ := List.mem_map.mp hfirst
      exact List.mem_of_getElem? (Option.mem_toList.mp hs)
    · exact ih _ hrest

theorem calls_run_pure (c : Consultation) : (c.run fun _ _ => pure false).calls = [] := by
  induction c with
  | answer result => rfl
  | ask place datum next ih =>
    rw [run, Traced.calls_bind, ih]
    rfl

theorem calls_run {reply : Nat → Value → Traced Bool}
    (hvalue : ∀ place datum,
      (reply place datum).value = statements[place]?.any fun s => s.test answers datum)
    (hcalls : ∀ place datum,
      (reply place datum).calls = statements[place]?.toList.flatMap fun s => (s.run answers datum).calls)
    (c : Consultation) :
    (c.run reply).calls =
      (c.tests answers statements).flatMap fun t => (t.1.run answers t.2).calls := by
  induction c with
  | answer result => rfl
  | ask place datum next ih =>
    rw [run, Traced.calls_bind, ih, hvalue, hcalls, tests, List.flatMap_append, List.flatMap_map]

end Consultation

namespace Expression

/-- The tests that an expression makes of its statements, in order. Conjunctions stop at
the first statement that fails, all other lists at the first one that holds; of the
values of a field none is tested after one for which the statement holds. -/
def tests (answers : Answers) (candidate raw : Value) : Expression → List (Statement × Value)
  | check .. | customValue .. => []
  | junction .and statements _ => (upTo (fun s => !s.test answers raw) statements).map (·, raw)
  | junction .or statements _ | junction .nor statements _ =>
    (upTo (fun s => s.test answers raw) statements).map (·, raw)
  | negation s _ => [(s, raw)]
  | traversal field s _ => (upTo (fun v => s.test answers v) (readField field raw)).map (s, ·)
  | customQuery operator s _ => (operator.evaluate .query candidate raw).tests answers [s]
  | customQueries operator statements _ =>
    (operator.evaluate (.queries statements.length) candidate raw).tests answers statements

variable {answers : Answers} {candidate raw : Value}

theorem mem_statements_of_mem_tests {e : Expression} {t : Statement × Value}
    (h : t ∈ e.tests answers candidate raw) : t.1 ∈ e.statements := by
  cases e with
  | check | customValue => cases h
  | junction kind statements cost =>
    cases kind with
    | and | or | nor =>
      obtain ⟨s, hs, rfl⟩ := List.mem_map.mp h
      exact mem_of_mem_upTo hs
  | negation s cost =>
    rw [List.mem_singleton.mp h]
    exact List.mem_singleton_self s
  | traversal field s cost =>
    obtain ⟨v, -, rfl⟩ := List.mem_map.mp h
    exact List.mem_singleton_self s
  | customQuery operator s cost => exact Consultation.mem_of_mem_tests h
  | customQueries operator statements cost => exact Consultation.mem_of_mem_tests h

/-- The calls of an expression are its own, and then those of the tests that it makes. -/
theorem calls_run (e : Expression) (answers : Answers) (candidate raw : Value) :
    (e.run answers candidate raw).calls = e.callees.map (Callee.call raw) ++
      (e.tests answers candidate raw).flatMap fun t => (t.1.run answers t.2).calls := by
  cases e with
  | check test cost => exact (test.calls_run answers candidate raw).trans (List.append_nil _).symm
  | junction kind statements cost =>
    cases kind with
    | and =>
      rw [run, runAll_eq_all, Traced.calls_all, tests, List.flatMap_map]
      rfl
    | or =>
      rw [tests, List.flatMap_map]
      cases statements with
      | nil => rfl
      | cons s rest =>
        change (runAny answers (s :: rest) raw).calls = _
        rw [runAny_eq_any, Traced.calls_any]
        rfl
    | nor =>
      change (runAny answers statements raw).calls = _
      rw [runAny_eq_any, Traced.calls_any, tests, List.flatMap_map]
      rfl
  | negation s cost => exact (List.append_nil _).symm
  | traversal field s cost =>
    rw [run, Traced.calls_any, tests, List.flatMap_map]
    rfl
  | customValue operator operand cost =>
    rw [run, Traced.calls_bind, Consultation.calls_run_pure]
    rfl
  | customQuery operator s cost =>
    rw [run, Traced.calls_bind, tests]
    congr 1
    apply Consultation.calls_run
    · rintro (_ | n) datum <;> rfl
    · rintro (_ | n) datum
      · exact (List.append_nil _).symm
      · rfl
  | customQueries operator statements cost =>
    rw [run, Traced.calls_bind, tests]
    congr 1
    apply Consultation.calls_run
    · exact value_runAt answers statements
    · exact calls_runAt answers statements

/-- Whoever is called belongs to the expression, if this holds of its statements. -/
theorem involves_of_mem_calls {e : Expression} {c : Call}
    (ih : ∀ s ∈ e.statements, ∀ datum, c ∈ (s.run answers datum).calls →
      ∃ f ∈ s.expressions, f.Involves c.callee)
    (hc : c ∈ (e.run answers candidate raw).calls) : e.Involves c.callee := by
  rw [calls_run] at hc
  rcases List.mem_append.mp hc with hown | hinner
  · obtain ⟨callee, hcallee, rfl⟩ := List.mem_map.mp hown
    rw [Callee.callee_call]
    exact .own hcallee
  · obtain ⟨t, ht, hc⟩ := List.mem_flatMap.mp hinner
    have hs := mem_statements_of_mem_tests ht
    obtain ⟨f, hf, hinvolves⟩ := ih t.1 hs t.2 hc
    exact .inner hs hf hinvolves

end Expression

namespace Statement

/-- The expressions that are tried: all up to the first one that fails. -/
def tried (answers : Answers) (s : Statement) (datum : Value) : List Expression :=
  upTo (fun e => !e.test answers datum) s.expressions

variable (answers : Answers) (datum : Value)

theorem run_eq_all (s : Statement) :
    s.run answers datum = Traced.all (fun e => e.run answers datum.normalize datum) s.expressions := by
  obtain ⟨expressions, key⟩ := s
  rw [run, runExpressions_eq_all]
  rfl

theorem calls_run (s : Statement) :
    (s.run answers datum).calls =
      (s.tried answers datum).flatMap fun e => (e.run answers datum.normalize datum).calls := by
  rw [run_eq_all, Traced.calls_all]
  rfl

/-- Whoever is called belongs to an expression that is tried. -/
theorem exists_involves_of_mem_calls {s : Statement} {c : Call}
    (hc : c ∈ (s.run answers datum).calls) : ∃ e ∈ s.tried answers datum, e.Involves c.callee := by
  induction s generalizing datum with
  | mk expressions key ih =>
    rw [calls_run] at hc
    obtain ⟨e, he, hc⟩ := List.mem_flatMap.mp hc
    refine ⟨e, he, Expression.involves_of_mem_calls ?_ hc⟩
    intro s hs datum hc
    obtain ⟨f, hf, hinvolves⟩ := ih e (mem_of_mem_upTo he) s hs datum hc
    exact ⟨f, mem_of_mem_upTo hf, hinvolves⟩

section Ordered

variable {answers datum} {s : Statement} {e : Expression}

/-- What is tried costs at most as much as any expression that fails. -/
theorem cost_le_of_mem_tried (hs : s.Ordered) (he : e ∈ s.expressions)
    (hfails : e.test answers datum = false) {f : Expression} (hf : f ∈ s.tried answers datum) :
    f.cost ≤ e.cost :=
  measure_le_of_mem_upTo hs.expressions he (by rw [hfails]; rfl) hf

/-- Without what costs more than an expression that fails, the statement runs alike. -/
theorem run_without_dearer (hs : s.Ordered) (he : e ∈ s.expressions)
    (hfails : e.test answers datum = false) :
    (mk (s.expressions.filter fun f => f.cost ≤ e.cost) s.key).run answers datum =
      s.run answers datum := by
  have htried : upTo (fun f => !f.test answers datum)
      (s.expressions.filter fun f => f.cost ≤ e.cost) = s.tried answers datum := by
    apply upTo_filter
    · intro f hf
      exact decide_eq_true (cost_le_of_mem_tried hs he hfails hf)
    · exact ⟨e, he, by rw [hfails]; rfl⟩
  rw [run_eq_all, run_eq_all, expressions, ← Traced.all_upTo]
  exact (congrArg _ htried).trans (Traced.all_upTo _ _)

end Ordered

/-- How a statement calls predicates and added operators while it tests a datum. -/
structure CallsInOrder (answers : Answers) (s : Statement) (datum : Value) : Prop where
  /-- The calls are those of the expressions up to the first one that fails. -/
  calls : (s.run answers datum).calls =
    (s.tried answers datum).flatMap fun e => (e.run answers datum.normalize datum).calls
  /-- The calls of each expression are its own, and then those of the tests that it
  makes of its statements. -/
  tests : ∀ e ∈ s.expressions,
    (∀ t ∈ e.tests answers datum.normalize datum, t.1 ∈ e.statements) ∧
      (e.run answers datum.normalize datum).calls = e.callees.map (Callee.call datum) ++
        (e.tests answers datum.normalize datum).flatMap fun t => (t.1.run answers t.2).calls
  /-- Where an expression fails, it makes no difference to answer and calls if there is
  nothing that costs more. -/
  dearer : ∀ e ∈ s.expressions, e.test answers datum = false →
    (mk (s.expressions.filter fun f => f.cost ≤ e.cost) s.key).run answers datum =
      s.run answers datum
  /-- Where an expression fails, whoever is called belongs to one that costs at most
  as much. -/
  callees : ∀ e ∈ s.expressions, e.test answers datum = false →
    ∀ c ∈ (s.run answers datum).calls, ∃ f ∈ s.expressions, f.cost ≤ e.cost ∧ f.Involves c.callee

/-- A statement that has been reordered, and every statement within it whenever it is
tested, calls in the order of its expressions up to the first one that fails, and
nobody who belongs only to what costs more than this one. -/
theorem reordered_calls_cheapest_first (s t : Statement) (ht : t.Within s.reorder) :
    t.CallsInOrder answers datum where
  calls := t.calls_run answers datum
  tests e _ := by
    constructor
    · intro t ht
      exact Expression.mem_statements_of_mem_tests ht
    · exact e.calls_run answers datum.normalize datum
  dearer e he hfails := run_without_dearer (ordered_of_within_reorder ht) he hfails
  callees e he hfails c hc := by
    obtain ⟨f, hf, hinvolves⟩ := exists_involves_of_mem_calls answers datum hc
    have hcost := cost_le_of_mem_tried (ordered_of_within_reorder ht) he hfails hf
    exact ⟨f, mem_of_mem_upTo hf, hcost, hinvolves⟩

/-- The predicate is written first, but the equality costs less and fails. -/
theorem dear_predicate_of_field_is_not_asked :
    let answers : Answers := fun _ _ => true
    let inner : Statement := .mk [.check (.satisfies ⟨0⟩) 1000,
      .check (.equals (.literal (.bool true))) 100] (some "a")
    let s : Statement := .mk [.traversal "a" inner 1900] none
    inner.reorder.Within s.reorder ∧ (inner.reorder.run answers (.bool false)).calls = [] := by
  intro answers inner s
  have hwithin : inner.reorder.Within s.reorder := by
    apply within_reorder_iff.mpr
    exact ⟨inner, .inner List.mem_cons_self List.mem_cons_self (.self inner), rfl⟩
  have hequality : .check (.equals (.literal (.bool true))) 100 ∈ inner.reorder.expressions := by
    apply mem_expressions_reorder.mpr
    exact ⟨_, List.mem_cons_of_mem _ List.mem_cons_self, rfl⟩
  have horder := reordered_calls_cheapest_first answers (.bool false) s inner.reorder hwithin
  refine ⟨hwithin, List.eq_nil_iff_forall_not_mem.mpr ?_⟩
  intro c hc
  obtain ⟨f, hf, hcost, hinvolves⟩ := horder.callees _ hequality rfl c hc
  obtain ⟨g, hg, rfl⟩ := mem_expressions_reorder.mp hf
  simp only [inner, expressions, List.mem_cons, List.not_mem_nil, or_false] at hg
  rcases hg with rfl | rfl
  · exact absurd hcost (by decide)
  · cases hinvolves with
    | own h => cases h
    | inner hs => cases hs

end Statement
end DocQuery
