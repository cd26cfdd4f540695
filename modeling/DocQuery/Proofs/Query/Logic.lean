import DocQuery.Proofs.Query.Compilation
import DocQuery.Proofs.Statement.Reordering
import DocQuery.Proofs.Value.Rearrangement
import DocQuery.Query.Sieve

/-!
The operators on queries say what logic says of their queries. A query means what
its statement answers; the meaning does not depend on the limit under which the
query compiles, on the order of the expressions, or on the key under which it is
compiled. The meaning of a junction is made of the meanings of its queries, and so
is that of a negation. An object means the conjunction of its clauses, and filtering
twice is filtering by a conjunction.
-/

namespace DocQuery

/-- The operators on queries have their built-in meanings. -/
structure Registry.LogicBuiltIn (registry : Registry) : Prop where
  junction : ∀ kind : Junction,
    registry.lookup kind.builtin.name = some (.builtin kind.builtin)
  negation : registry.lookup Builtin.not.name = some (.builtin .not)

/-- What can be negated: a query that is an object, and a pattern. -/
def Value.IsNegatable : Value → Prop
  | .object _ | .regex _ => True
  | _ => False

namespace Query

section Statements

variable {registry : Registry}

theorem plan_junction {kind : Junction} (h : registry.HasBuiltIn kind.builtin)
    (queries : List Value) :
    plan registry (kind.builtin.name, .array queries) =
      .ok (.several queries (.junction kind · 0)) := by
  rw [plan_builtIn h]
  cases kind <;> rfl

theorem plan_negation (hnot : registry.HasBuiltIn .not) {query : Value} (h : query.IsNegatable) :
    plan registry (Builtin.not.name, query) =
      .ok (.single query Builtin.not.name (.negation · 0)) := by
  rw [plan_builtIn hnot]
  cases query with
  | object fields | regex p => rfl
  | _ => cases h

theorem plan_negation_refused (hnot : registry.HasBuiltIn .not) {query : Value}
    (h : ¬query.IsNegatable) :
    plan registry (Builtin.not.name, query) =
      .error (.invalidOperand Builtin.not.name .notNegatable) := by
  rw [plan_builtIn hnot]
  cases query with
  | object fields | regex p => exact absurd trivial h
  | _ => rfl

variable (limit room : Nat)

theorem compileStatement_junction {kind : Junction} (h : registry.HasBuiltIn kind.builtin)
    (queries : List Value) (key : Option String) :
    compileStatement registry limit (room + 1) (.singleton kind.builtin.name (.array queries)) key =
      (queries.mapM fun query => compileStatement registry limit room query none).map
        fun statements => .mk [(Expression.junction kind statements 0).weighed] key :=
  compileStatement_singleton_several registry (plan_junction h queries) limit room key

theorem compileStatement_negation (hnot : registry.HasBuiltIn .not) {query : Value}
    (h : query.IsNegatable) (key : Option String) :
    compileStatement registry limit (room + 1) (.singleton Builtin.not.name query) key =
      (compileStatement registry limit room query (some Builtin.not.name)).map
        fun s => .mk [(Expression.negation s 0).weighed] key :=
  compileStatement_singleton_single registry (plan_negation hnot h) limit room key

theorem compileStatement_negation_refused (hnot : registry.HasBuiltIn .not) {query : Value}
    (h : ¬query.IsNegatable) (key : Option String) :
    compileStatement registry limit (room + 1) (.singleton Builtin.not.name query) key =
      .error (.invalidOperand Builtin.not.name .notNegatable) :=
  compileStatement_singleton_refused registry (plan_negation_refused hnot h) limit room key

end Statements

/-- The query compiles under the limit, and `holds` is what its statement answers. -/
def Means (answers : Answers) (registry : Registry) (limit : Nat) (query : Value)
    (holds : Value → Bool) : Prop :=
  ∃ s, compileStatement registry limit (limit + 1) query none = .ok s ∧
    ∀ datum, s.test answers datum = holds datum

namespace Means

variable {answers : Answers} {registry : Registry} {limit : Nat} {query : Value}
  {holds : Value → Bool}

theorem congr (h : Means answers registry limit query holds) {holds' : Value → Bool}
    (hsame : ∀ datum, holds datum = holds' datum) : Means answers registry limit query holds' := by
  obtain ⟨s, hs, htest⟩ := h
  exact ⟨s, hs, fun datum => (htest datum).trans (hsame datum)⟩

theorem of_compile (answers : Answers) {sorted : Bool} {s : Statement}
    (h : compile registry ⟨sorted, limit⟩ query = .ok s) :
    Means answers registry limit query (s.test answers) := by
  rw [compile_eq] at h
  obtain ⟨written, hwritten, rfl⟩ := map_eq_ok.1 h
  exact ⟨written, hwritten, fun datum => (test_sorted answers sorted written datum).symm⟩

theorem compile (h : Means answers registry limit query holds) (sorted : Bool) :
    ∃ s, Query.compile registry ⟨sorted, limit⟩ query = .ok s ∧
      ∀ datum, s.test answers datum = holds datum := by
  obtain ⟨written, hwritten, htest⟩ := h
  refine ⟨if sorted then written.reorder else written, ?_, fun datum => ?_⟩
  · rw [compile_eq]
    exact map_eq_ok.2 ⟨written, hwritten, rfl⟩
  · rw [test_sorted, htest]

theorem mono (h : Means answers registry limit query holds) {limit' : Nat} (hle : limit ≤ limit') :
    Means answers registry limit' query holds := by
  obtain ⟨s, hs, htest⟩ := h
  exact ⟨s, compileStatement_mono registry (Nat.succ_le_succ hle) query none s hs, htest⟩

/-- A query has one meaning, whatever the limits. -/
theorem unique (h : Means answers registry limit query holds) {limit' : Nat}
    {holds' : Value → Bool} (h' : Means answers registry limit' query holds') (datum : Value) :
    holds datum = holds' datum := by
  obtain ⟨s, hs, htest⟩ := h.mono (Nat.le_max_left limit limit')
  obtain ⟨t, ht, htest'⟩ := h'.mono (Nat.le_max_right limit limit')
  cases hs.symm.trans ht
  rw [← htest, htest']

/-- Where each query of a list has a meaning, the list compiles one level further down. -/
theorem exists_statements {queries : List Value} {meanings : List (Value → Bool)}
    (h : List.Forall₂ (Means answers registry limit) queries meanings) :
    ∃ statements,
      (queries.mapM fun query => compileStatement registry (limit + 1) (limit + 1) query none) =
        .ok statements ∧
      List.Forall₂ (fun s holds => ∀ datum, s.test answers datum = holds datum)
        statements meanings := by
  induction h with
  | nil => exact ⟨[], rfl, .nil⟩
  | cons hhead _ ih =>
    obtain ⟨s, hs, htest⟩ := hhead
    obtain ⟨statements, hrest, htests⟩ := ih
    have hroom : compileStatement registry (limit + 1) (limit + 1) _ none = .ok s :=
      compileStatement_mono registry (Nat.le_refl _) _ _ _ hs
    exact ⟨s :: statements, mapM_eq_ok.2 (.cons hroom (mapM_eq_ok.1 hrest)), .cons htest htests⟩

theorem junction {kind : Junction} (hkind : registry.HasBuiltIn kind.builtin)
    {queries : List Value} {meanings : List (Value → Bool)}
    (h : List.Forall₂ (Means answers registry limit) queries meanings) :
    Means answers registry (limit + 1) (.singleton kind.builtin.name (.array queries))
      fun datum => kind.combine (meanings.map fun holds => holds datum) := by
  obtain ⟨statements, hcompiled, htests⟩ := exists_statements h
  refine ⟨.mk [(Expression.junction kind statements 0).weighed] none, ?_, fun datum => ?_⟩
  · rw [compileStatement_junction _ _ hkind, hcompiled]
    rfl
  · rw [Statement.test_single, Expression.test_junction]
    rw [map_eq_of_forall₂ htests fun s _ holds htest => htest datum]

theorem negation (hnot : registry.HasBuiltIn .not) (h : Means answers registry limit query holds)
    (hquery : query.IsNegatable) :
    Means answers registry (limit + 1) (.singleton Builtin.not.name query)
      fun datum => !holds datum := by
  obtain ⟨s, hs, htest⟩ := h
  have hroom : compileStatement registry (limit + 1) (limit + 1) query none = .ok s :=
    compileStatement_mono registry (Nat.le_refl _) _ _ _ hs
  refine ⟨.mk [(Expression.negation (.mk s.expressions (some Builtin.not.name)) 0).weighed] none,
    ?_, fun datum => ?_⟩
  · rw [compileStatement_negation _ _ hnot hquery,
      compileStatement_withKey registry _ _ query none, hroom]
    rfl
  · rw [Statement.test_single, Expression.test_negation, Statement.test_withKey, htest]

end Means

/-! An object and the conjunction of its clauses. -/

/-- The limit counts for reports only, where there is the same room. -/
theorem compileClause_limit (registry : Registry) (limit limit' room : Nat)
    (clause : String × Value) :
    Alike Eq (compileClause registry (compileStatement registry limit room) clause)
      (compileClause registry (compileStatement registry limit' room) clause) := by
  have hthere : ∀ e, compileClause registry (compileStatement registry limit room) clause = .ok e →
      compileClause registry (compileStatement registry limit' room) clause = .ok e := fun _ =>
    compileClause_mono (compileStatement_mono registry (Nat.le_refl room))
  have hback : ∀ e, compileClause registry (compileStatement registry limit' room) clause = .ok e →
      compileClause registry (compileStatement registry limit room) clause = .ok e := fun _ =>
    compileClause_mono (compileStatement_mono registry (Nat.le_refl room))
  exact .of_results hthere hback

/-- The queries that have one clause of an object each. -/
def singletons (fields : List (String × Value)) : List Value :=
  fields.map fun field => .singleton field.1 field.2

theorem mapM_singletons_alike (registry : Registry) (limit limit' room : Nat)
    (fields : List (String × Value)) :
    Alike (List.Forall₂ fun e s => s = Statement.mk [e] none)
      (fields.mapM (compileClause registry (compileStatement registry limit room)))
      ((singletons fields).mapM fun query =>
        compileStatement registry limit' (room + 1) query none) := by
  have hfields : List.Forall₂ (fun field query => query = Value.singleton field.1 field.2)
      fields (singletons fields) := by
    rw [singletons, List.forall₂_map_right_iff, List.forall₂_same]
    exact fun _ _ => rfl
  refine Alike.mapM hfields ?_
  rintro ⟨key, clause⟩ _ rfl
  have hmap : compileStatement registry limit' (room + 1) (.singleton key clause) none =
      (compileClause registry (compileStatement registry limit' room) (key, clause)).map
        fun e => .mk [e] none := by
    rw [compileStatement_succ, compileExpressions_singleton]
    cases compileClause registry (compileStatement registry limit' room) (key, clause) <;> rfl
  have hclause := compileClause_limit registry limit limit' room (key, clause)
  rw [hmap]
  exact hclause.map_right fun e _ heq => heq ▸ rfl

/-- The conjunction of statements of one expression each says what one statement of
all these expressions says. -/
theorem test_conjunction_of_singles (answers : Answers) {expressions : List Expression}
    {statements : List Statement} (h : List.Forall₂ (fun e s => s = .mk [e] none) expressions statements)
    (key key' : Option String) (datum : Value) :
    (Statement.mk expressions key).test answers datum =
      (Statement.mk [(Expression.junction .and statements 0).weighed] key').test answers datum := by
  rw [Statement.test_single, Expression.test_junction, Junction.combine, List.all_map,
    Statement.test_mk]
  refine all_eq_of_forall₂ h fun e _ s hs => ?_
  rw [hs, Function.comp, id, Statement.test_mk, List.all_cons, List.all_nil, Bool.and_true]

/-- An object is accepted if the conjunction of its clauses is, with one more level,
and both say the same. -/
theorem object_alike (answers : Answers) {registry : Registry} (hlogic : registry.LogicBuiltIn)
    (limit : Nat) (sorted sorted' : Bool) (fields : List (String × Value)) :
    Alike (fun s t => ∀ datum, s.test answers datum = t.test answers datum)
      (compile registry ⟨sorted, limit⟩ (.object fields))
      (compile registry ⟨sorted', limit + 1⟩
        (.singleton Builtin.and.name (.array (singletons fields)))) := by
  have hwritten : Alike (fun s t => ∀ datum, s.test answers datum = t.test answers datum)
      (compileStatement registry limit (limit + 1) (.object fields) none)
      (compileStatement registry (limit + 1) (limit + 1 + 1)
        (.singleton Junction.and.builtin.name (.array (singletons fields))) none) := by
    rw [compileStatement_junction _ _ (hlogic.junction .and), compileStatement_succ]
    refine (mapM_singletons_alike registry limit (limit + 1) limit fields).map ?_
    intro expressions statements h
    exact test_conjunction_of_singles answers h none none
  rw [compile_eq, compile_eq]
  refine hwritten.map fun s t h datum => ?_
  rw [test_sorted, test_sorted]
  exact h datum

/-- Each query compiles on its own, to the statement in its place. -/
def CompileEach (registry : Registry) (options : CompileOptions) :
    List Value → List Statement → Prop :=
  List.Forall₂ fun query s => compile registry options query = .ok s

/-- The laws of the operators on queries. Where a law speaks of two queries, the
expressions of the statement of each may have been reordered or not. -/
structure LogicalLaws (answers : Answers) (registry : Registry) : Prop where
  /-- A conjunction holds exactly if all of its queries do. -/
  and : ∀ {limit sorted sorted' queries statements},
    CompileEach registry ⟨sorted, limit⟩ queries statements →
      ∃ t, compile registry ⟨sorted', limit + 1⟩ (.singleton "$and" (.array queries)) = .ok t ∧
        ∀ datum, t.test answers datum = true ↔ ∀ s ∈ statements, s.test answers datum = true
  /-- A disjunction holds exactly if there are no queries, or some query does. -/
  or : ∀ {limit sorted sorted' queries statements},
    CompileEach registry ⟨sorted, limit⟩ queries statements →
      ∃ t, compile registry ⟨sorted', limit + 1⟩ (.singleton "$or" (.array queries)) = .ok t ∧
        ∀ datum, t.test answers datum = true ↔
          queries = [] ∨ ∃ s ∈ statements, s.test answers datum = true
  /-- A joint denial holds exactly if no query does. -/
  nor : ∀ {limit sorted sorted' queries statements},
    CompileEach registry ⟨sorted, limit⟩ queries statements →
      ∃ t, compile registry ⟨sorted', limit + 1⟩ (.singleton "$nor" (.array queries)) = .ok t ∧
        ∀ datum, t.test answers datum = true ↔ ∀ s ∈ statements, s.test answers datum = false
  /-- Joint denial is the complement of disjunction exactly where there are queries. -/
  nor_complement : ∀ {limit sorted sorted' sorted'' queries statements t u},
    CompileEach registry ⟨sorted, limit⟩ queries statements →
      compile registry ⟨sorted', limit + 1⟩ (.singleton "$nor" (.array queries)) = .ok t →
      compile registry ⟨sorted'', limit + 1⟩ (.singleton "$or" (.array queries)) = .ok u →
      ∀ datum, t.test answers datum = (!u.test answers datum) ↔ queries ≠ []
  /-- The negation of an object or of a pattern holds exactly if this does not. -/
  not : ∀ {limit sorted sorted' query s}, query.IsNegatable →
    compile registry ⟨sorted, limit⟩ query = .ok s →
      ∃ t, compile registry ⟨sorted', limit + 1⟩ (.singleton "$not" query) = .ok t ∧
        ∀ datum, t.test answers datum = true ↔ s.test answers datum = false
  /-- Nothing else is negated. -/
  not_refused : ∀ {query} (options), ¬query.IsNegatable →
    compile registry options (.singleton "$not" query) =
      .error (.invalidOperand "$not" .notNegatable)
  /-- An object and the conjunction of its clauses are both refused, or say the same. -/
  object : ∀ (limit sorted sorted' fields),
    Alike (fun s t => ∀ datum, s.test answers datum = t.test answers datum)
      (compile registry ⟨sorted, limit⟩ (.object fields))
      (compile registry ⟨sorted', limit + 1⟩ (.singleton "$and" (.array (singletons fields))))
  /-- Filtering by one query and then by another is filtering by their conjunction. -/
  filter : ∀ {options options' options'' q r s t u} (selector : Selector) (items : List Value),
    compile registry options q = .ok s → compile registry options' r = .ok t →
      compile registry options'' (.singleton "$and" (.array [q, r])) = .ok u →
      (Sieve.filter answers ⟨t, selector⟩ (Sieve.filter answers ⟨s, selector⟩ items).value).value =
        (Sieve.filter answers ⟨u, selector⟩ items).value

section Laws

variable (answers : Answers) {registry : Registry} {limit : Nat} {sorted : Bool}
  {queries : List Value} {statements : List Statement}

theorem CompileEach.means (h : CompileEach registry ⟨sorted, limit⟩ queries statements) :
    List.Forall₂ (Means answers registry limit) queries
      (statements.map fun s => s.test answers) := by
  rw [List.forall₂_map_right_iff]
  exact List.Forall₂.imp (fun _ _ => Means.of_compile answers) h

theorem CompileEach.eq_nil_iff {options : CompileOptions}
    (h : CompileEach registry options queries statements) : statements = [] ↔ queries = [] := by
  rw [← List.length_eq_zero_iff, ← List.length_eq_zero_iff, h.length_eq]

variable (hlogic : registry.LogicBuiltIn)

include hlogic

/-- A junction compiles if its queries do, and makes of their answers what it is to
make of them. -/
theorem exists_compile_junction (kind : Junction)
    (h : CompileEach registry ⟨sorted, limit⟩ queries statements) (sorted' : Bool) :
    ∃ t, compile registry ⟨sorted', limit + 1⟩
        (.singleton kind.builtin.name (.array queries)) = .ok t ∧
      ∀ datum, t.test answers datum =
        kind.combine (statements.map fun s => s.test answers datum) := by
  obtain ⟨t, ht, htest⟩ := (Means.junction (hlogic.junction kind) (h.means answers)).compile sorted'
  refine ⟨t, ht, fun datum => ?_⟩
  rw [htest, List.map_map]
  rfl

/-- What a junction that has been compiled under any limit makes of the answers. -/
theorem test_compiled_junction (kind : Junction)
    (h : CompileEach registry ⟨sorted, limit⟩ queries statements) {options : CompileOptions}
    {t : Statement}
    (ht : compile registry options (.singleton kind.builtin.name (.array queries)) = .ok t)
    (datum : Value) :
    t.test answers datum = kind.combine (statements.map fun s => s.test answers datum) := by
  obtain ⟨u, hu, htest⟩ := exists_compile_junction answers hlogic kind h false
  rw [← htest datum]
  exact (Means.of_compile answers ht).unique (Means.of_compile answers hu) datum

theorem exists_compile_negation {query : Value} {s : Statement} (hquery : query.IsNegatable)
    (hs : compile registry ⟨sorted, limit⟩ query = .ok s) (sorted' : Bool) :
    ∃ t, compile registry ⟨sorted', limit + 1⟩ (.singleton Builtin.not.name query) = .ok t ∧
      ∀ datum, t.test answers datum = !s.test answers datum :=
  (Means.negation hlogic.negation (.of_compile answers hs) hquery).compile sorted'

theorem compile_negation_refused {query : Value} (h : ¬query.IsNegatable)
    (options : CompileOptions) :
    compile registry options (.singleton Builtin.not.name query) =
      .error (.invalidOperand Builtin.not.name .notNegatable) := by
  rw [compile_eq, compileStatement_negation_refused _ _ hlogic.negation h]
  rfl

/-- The conjunction of two queries, under whatever limits the three compile. -/
theorem test_compiled_pair {options options' options'' : CompileOptions} {q r : Value}
    {s t u : Statement} (hs : compile registry options q = .ok s)
    (ht : compile registry options' r = .ok t)
    (hu : compile registry options'' (.singleton Builtin.and.name (.array [q, r])) = .ok u)
    (datum : Value) :
    u.test answers datum = (s.test answers datum && t.test answers datum) := by
  have hq := (Means.of_compile answers hs).mono
    (Nat.le_max_left options.depthLimit options'.depthLimit)
  have hr := (Means.of_compile answers ht).mono
    (Nat.le_max_right options.depthLimit options'.depthLimit)
  have hboth := Means.junction (hlogic.junction .and) (.cons hq (.cons hr .nil))
  have hmeaning := (Means.of_compile answers hu).unique hboth datum
  rw [hmeaning, Junction.combine]
  simp only [List.map_cons, List.map_nil, List.all_cons, List.all_nil, Bool.and_true, id]

end Laws

/-- Where the operators on queries are the built-in ones, they are what logic takes
them for: whatever the queries are and however deep they nest. -/
theorem logical_operators_are_compositional (answers : Answers) (registry : Registry)
    (hlogic : registry.LogicBuiltIn) : LogicalLaws answers registry where
  and h := by
    obtain ⟨t, ht, htest⟩ := exists_compile_junction answers hlogic .and h _
    refine ⟨t, ht, fun datum => ?_⟩
    rw [htest, Junction.combine_and_iff, List.forall_mem_map]
  or h := by
    obtain ⟨t, ht, htest⟩ := exists_compile_junction answers hlogic .or h _
    refine ⟨t, ht, fun datum => ?_⟩
    rw [htest, Junction.combine_or_iff, List.map_eq_nil_iff, h.eq_nil_iff]
    simp only [List.mem_map, exists_exists_and_eq_and]
  nor h := by
    obtain ⟨t, ht, htest⟩ := exists_compile_junction answers hlogic .nor h _
    refine ⟨t, ht, fun datum => ?_⟩
    rw [htest, Junction.combine_nor_iff, List.forall_mem_map]
  nor_complement h ht hu datum := by
    have hnor := test_compiled_junction answers hlogic .nor h ht datum
    have hor := test_compiled_junction answers hlogic .or h hu datum
    rw [hnor, hor, Junction.combine_nor_eq_not_iff, Ne, List.map_eq_nil_iff,
      h.eq_nil_iff]
  not hquery hs := by
    obtain ⟨t, ht, htest⟩ := exists_compile_negation answers hlogic hquery hs _
    refine ⟨t, ht, fun datum => ?_⟩
    rw [htest, Bool.not_eq_true']
  not_refused options h := compile_negation_refused hlogic h options
  object limit sorted sorted' fields := object_alike answers hlogic limit sorted sorted' fields
  filter selector items hs ht hu := by
    rw [Sieve.value_filter, Sieve.value_filter, Sieve.value_filter, List.filter_filter]
    refine List.filter_congr fun item _ => ?_
    have hpair := test_compiled_pair answers hlogic hs ht hu (selector.select item)
    exact (Bool.and_comm _ _).trans hpair.symm

/-- A joint denial of a string and of a field that is there. -/
theorem nor_of_string_and_field :
    let answers : Answers := fun _ _ => false
    let field := Value.singleton "a" (.singleton "$exists" (.bool true))
    Registry.standard.LogicBuiltIn ∧
      ∃ t, compile .standard ⟨true, 2⟩ (.singleton "$nor" (.array [.string "x", field])) = .ok t ∧
        t.test answers (.array [.string "y"]) = true ∧
        t.test answers (.array [.string "x"]) = false ∧
        t.test answers (.object [("a", .bool false)]) = false := by
  intro answers field
  have hlogic : Registry.standard.LogicBuiltIn := ⟨fun kind => by cases kind <;> rfl, rfl⟩
  have heach : CompileEach .standard ⟨false, 1⟩ [.string "x", field]
      [.mk [.check (.equals (.literal (.string "x"))) 101] none,
        .mk [.traversal "a" (.mk [.check (.present true) 200] (some "a")) 1000] none] :=
    .cons rfl (.cons rfl .nil)
  obtain ⟨t, ht, htest⟩ := (logical_operators_are_compositional answers .standard hlogic).nor heach
  refine ⟨hlogic, t, ht, ?_, ?_, ?_⟩
  · rw [htest]
    decide
  · rw [Bool.eq_false_iff, Ne, htest]
    decide
  · rw [Bool.eq_false_iff, Ne, htest]
    decide

end Query
end DocQuery
