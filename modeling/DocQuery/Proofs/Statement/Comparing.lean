import DocQuery.Proofs.Statement.Evaluation
import DocQuery.Proofs.Value.Normalization

/-!
Statements that only compare cannot tell an instant from its milliseconds. Most
tests see nothing but the comparable form of a datum. Patterns and the reading of
fields are given the datum itself, but they look at strings and at objects alone,
which the comparable form leaves as they are. Predicates, tests of the type and
added operators are all that is left, and these can see the difference.
-/

namespace DocQuery

/-- The test asks no predicate, and does not ask for the type of the datum. -/
def Check.Comparing : Check → Prop
  | .satisfies _ | .hasType _ => False
  | .equals (.predicate _) | .differs (.predicate _) => False
  | _ => True

/-- The operator is built in, and if it is a test it only compares. -/
def Expression.Comparing : Expression → Prop
  | .check test _ => test.Comparing
  | .junction .. | .negation .. | .traversal .. => True
  | .customValue .. | .customQuery .. | .customQueries .. => False

/-- All expressions of the statement only compare, and so do those of all statements
within it. -/
def Statement.Comparing (s : Statement) : Prop :=
  ∀ t : Statement, t.Within s → ∀ e ∈ t.expressions, e.Comparing

theorem Statement.comparing_mk_iff {expressions : List Expression} {key : Option String} :
    (Statement.mk expressions key).Comparing ↔
      ∀ e ∈ expressions, e.Comparing ∧ ∀ s ∈ e.statements, s.Comparing := by
  unfold Comparing
  rw [forall_within_mk_iff]
  constructor
  · rintro ⟨hself, hinner⟩ e he
    exact ⟨hself e he, hinner e he⟩
  · intro h
    exact ⟨fun e he => (h e he).1, fun e he => (h e he).2⟩

theorem Value.get?_normalize (v : Value) (key : String) : v.normalize.get? key = v.get? key := by
  cases v with
  | array items =>
    rw [normalize_array]
    rfl
  | _ => rfl

/-- The same values are read from a field, before and after the comparable form of
the datum is made: only objects have fields. -/
theorem readField_normalize (field : String) (v : Value) :
    readField field v.normalize = readField field v := by
  cases v with
  | array items =>
    have hread : (fun v : Value => v.get? field) ∘ Value.normalize = fun v => v.get? field := by
      funext item
      exact item.get?_normalize field
    rw [Value.normalize_array, readField, readField, List.filterMap_map, hread]
  | _ => rfl

theorem Pattern.matchesValue_normalize (p : Pattern) (v : Value) :
    p.matchesValue v.normalize = p.matchesValue v := by
  cases v with
  | array items =>
    rw [Value.normalize_array, matchesValue, matchesValue, List.any_map]
    apply List.any_congr rfl
    intro item
    cases item with
    | array inner => rw [Function.comp_apply, Value.normalize_array]
    | _ => rfl
  | _ => rfl

/-- A test that only compares may be given the comparable form in place of the datum. -/
theorem Check.run_normalize (answers : Answers) {check : Check} (h : check.Comparing)
    (candidate v : Value) :
    check.run answers candidate v.normalize = check.run answers candidate v := by
  cases check with
  | equals m | differs m =>
    cases m with
    | literal w => rfl
    | pattern p => simp only [Check.run, Matcher.run, p.matchesValue_normalize]
    | predicate p => exact h.elim
  | matchesPattern p => simp only [Check.run, p.matchesValue_normalize]
  | satisfies p | hasType t => exact h.elim
  | _ => rfl

/-- An expression that only compares passes on from the statements within it that
they do not see instants. -/
theorem Expression.test_normalize (answers : Answers) {e : Expression} (h : e.Comparing)
    (ih : ∀ s ∈ e.statements, ∀ v : Value, s.test answers v.normalize = s.test answers v)
    (v : Value) : e.test answers v.normalize = e.test answers v := by
  cases e with
  | check test cost =>
    rw [test_check, test_check, v.normalize_normalize, Check.run_normalize answers h]
  | junction kind statements cost =>
    have hanswers : statements.map (fun s => s.test answers v.normalize) =
        statements.map fun s => s.test answers v := by
      apply List.map_congr_left
      intro s hs
      exact ih s hs v
    rw [test_junction, test_junction, hanswers]
  | negation s cost =>
    have hs := ih s List.mem_cons_self v
    rw [test_negation, test_negation, hs]
  | traversal field s cost =>
    rw [test_traversal, test_traversal, readField_normalize]
  | customValue | customQuery | customQueries => exact h.elim

/-- A statement without predicates, tests of the type and added operators answers
alike about a datum and about its comparable form, in which the instants that are
reached through arrays are numbers of milliseconds. -/
theorem comparing_blind_to_instants (answers : Answers) (s : Statement) (h : s.Comparing)
    (datum : Value) : s.test answers datum = s.test answers datum.normalize := by
  induction s generalizing datum with
  | mk expressions key ih =>
    have heach : ∀ e ∈ expressions, e.test answers datum = e.test answers datum.normalize := by
      intro e he
      obtain ⟨hcompares, hinner⟩ := Statement.comparing_mk_iff.mp h e he
      symm
      apply Expression.test_normalize answers hcompares
      intro s hs v
      exact (ih e he s hs (hinner s hs) v).symm
    rw [Statement.test_mk, Statement.test_mk, Bool.eq_iff_iff, List.all_eq_true, List.all_eq_true]
    exact forall₂_congr fun e he => by rw [heach e he]

/-- Instants in an array, one of them one array further down: both count as their
milliseconds, for the order, for membership, and below a negation. -/
theorem listed_instants_as_millis :
    let five : Instant := ⟨0, 5000000, by decide, by decide⟩
    let seven : Instant := ⟨0, 7000000, by decide, by decide⟩
    let datum : Value := .array [.array [.date five], .date seven]
    let reading : Statement := .mk [.traversal "at" (.mk [.check (.present true) 0] (some "at")) 0]
      (some "$not")
    let s : Statement := .mk [.check (.compares .gt (.number (.ofInt 6))) 0,
      .check (.isIn [.array [.number (.ofInt 5)]]) 0, .negation reading 0] none
    s.Comparing ∧ s.test (fun _ _ => false) datum = true ∧
      s.test (fun _ _ => false) datum.normalize = true := by
  intro five seven datum reading s
  have hcompares : s.Comparing := by
    simp [s, reading, Statement.comparing_mk_iff, Expression.Comparing, Check.Comparing,
      Expression.statements]
  have htest : s.test (fun _ _ => false) datum = true := by decide +kernel
  have hsame := comparing_blind_to_instants (fun _ _ => false) s hcompares datum
  exact ⟨hcompares, htest, hsame.symm.trans htest⟩

end DocQuery
