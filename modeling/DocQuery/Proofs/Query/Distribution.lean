import DocQuery.Proofs.Query.Selection

/-!
Moving the field of a traversal inward. A traversal of an array asks whether some
element answers, so it distributes over a disjunction, which asks whether some query
does. Over a conjunction it distributes in one direction: the clauses of an object are
asked of one and the same element, and queries on a dotted key each choose their own.
Apart from arrays there is one value to ask, and nothing to choose.
-/

namespace DocQuery

/-- Of some value some meaning holds, or of no meanings all is said already. -/
theorem any_combine_or {α : Type} (values : List α) {meanings : List (α → Bool)}
    (hne : meanings ≠ []) :
    (values.any fun v => Junction.or.combine (meanings.map fun holds => holds v)) =
      Junction.or.combine (meanings.map fun holds => values.any holds) := by
  have hempty : ∀ v, meanings.map (fun holds => holds v) ≠ [] := fun v hnil =>
    hne (List.map_eq_nil_iff.1 hnil)
  have hempty' : meanings.map (fun holds => values.any holds) ≠ [] := fun hnil =>
    hne (List.map_eq_nil_iff.1 hnil)
  rw [Bool.eq_iff_iff, List.any_eq_true, Junction.combine_or_iff, or_iff_right hempty']
  simp only [Junction.combine_or_iff, hempty, false_or, List.mem_map, exists_exists_and_eq_and,
    List.any_eq_true]
  exact ⟨fun ⟨v, hv, holds, hmem, hholds⟩ => ⟨holds, hmem, v, hv, hholds⟩,
    fun ⟨holds, hmem, v, hv, hholds⟩ => ⟨v, hv, holds, hmem, hholds⟩⟩

/-- One value that passes all tests passes each of them. -/
theorem all_any_of_any_all {α β : Type} {values : List α} {tests : List β} {p : β → α → Bool}
    (h : (values.any fun v => tests.all fun b => p b v) = true) :
    (tests.all fun b => values.any (p b)) = true := by
  obtain ⟨v, hv, hall⟩ := List.any_eq_true.1 h
  exact List.all_eq_true.2 fun b hb => List.any_eq_true.2 ⟨v, hv, List.all_eq_true.1 hall b hb⟩

namespace Query

variable {answers : Answers} {registry : Registry}

theorem Means.simpleField {field : String} (hfield : IsSimpleField field) {limit : Nat}
    {query : Value} {holds : Value → Bool} (h : Means answers registry limit query holds) :
    Means answers registry (limit + 1) (.singleton field query) fun datum =>
      (readField field datum).any holds := by
  obtain ⟨s, hs, htest⟩ := h
  have hroom : compileStatement registry (limit + 1) (limit + 1) query none = .ok s :=
    compileStatement_mono registry (Nat.le_refl _) _ _ _ hs
  refine ⟨.mk [(Expression.traversal field (.mk s.expressions (some field)) 0).weighed] none,
    ?_, fun datum => ?_⟩
  · rw [compileStatement_simpleField registry _ _ query none hfield,
      compileStatement_withKey registry _ _ query none, hroom]
    rfl
  · rw [test_single_traversal]
    simp only [Statement.test_withKey, htest]

theorem Means.field {field : String} (hfield : IsField field) {limit : Nat} {query : Value}
    {holds : Value → Bool} (h : Means answers registry limit query holds) :
    Means answers registry (limit + 1) (.singleton field query) fun datum =>
      (readField field datum).any holds :=
  h.simpleField hfield.simple

theorem forall₂_means_field {field : String} (hfield : IsField field) {limit : Nat}
    {queries : List Value} {meanings : List (Value → Bool)}
    (h : List.Forall₂ (Means answers registry limit) queries meanings) :
    List.Forall₂ (Means answers registry (limit + 1)) (queries.map (.singleton field))
      (meanings.map fun holds datum => (readField field datum).any holds) := by
  rw [List.forall₂_map_left_iff, List.forall₂_map_right_iff]
  exact h.imp fun _ _ hmeans => hmeans.field hfield

theorem Means.object (answers : Answers) {limit : Nat} {fields : List (String × Value)}
    {expressions : List Expression}
    (h : compileExpressions registry limit limit (.object fields) = .ok expressions) :
    Means answers registry limit (.object fields) fun datum =>
      expressions.all fun e => e.test answers datum := by
  refine ⟨.mk expressions none, ?_, Statement.test_mk answers expressions none⟩
  rw [compileStatement_succ, h]
  rfl

theorem exists_compileExpressions {options : CompileOptions} {query : Value} {s : Statement}
    (hs : compile registry options query = .ok s) :
    ∃ expressions,
      compileExpressions registry options.depthLimit options.depthLimit query = .ok expressions := by
  rw [compile_eq, compileStatement_succ] at hs
  obtain ⟨written, hwritten, -⟩ := map_eq_ok.1 hs
  obtain ⟨expressions, hexpressions, -⟩ := map_eq_ok.1 hwritten
  exact ⟨expressions, hexpressions⟩

section Clauses

variable {field : String} (hfield : IsField field)

/-- The clauses of an object, each on a path that begins with the field. -/
def dottedFields (field : String) (fields : List (String × Value)) : List (String × Value) :=
  fields.map fun clause => (Path.join [field, clause.1], clause.2)

include hfield

/-- A clause on a dotted key traverses the field, with the clause alone in the
statement within. -/
theorem compileClause_dotted {limit limit' room : Nat}
    {clause : String × Value} (hkey : Path.IsSegment clause.1) {e : Expression}
    (he : compileClause registry (compileStatement registry limit room) clause = .ok e) :
    compileClause registry (compileStatement registry limit' (room + 1))
        (Path.join [field, clause.1], clause.2) =
      .ok (Expression.traversal field (.mk [e] (some field)) 0).weighed := by
  have hsegments : ∀ s ∈ [field, clause.1], Path.IsSegment s := by
    rintro s (_ | ⟨_, _ | ⟨_, ⟨⟩⟩⟩)
    · exact hfield.segment
    · exact hkey
  have hinner : compileClause registry (compileStatement registry limit' room) clause = .ok e :=
    compileClause_mono (compileStatement_mono registry (Nat.le_refl room)) he
  have hwithin : compileStatement registry limit' (room + 1)
      (.singleton clause.1 clause.2) (some field) = .ok (.mk [e] (some field)) := by
    rw [compileStatement_succ, compileExpressions_singleton, hinner]
    rfl
  rw [compileClause_eq, plan_join registry clause.2 hfield.unsigned hsegments]
  change ((compileStatement registry limit' (room + 1) (.singleton clause.1 clause.2)
    (some field)).map _).map Expression.weighed = _
  rw [hwithin]
  rfl

theorem compileExpressions_dotted {limit limit' room : Nat} {fields : List (String × Value)}
    (hkeys : ∀ clause ∈ fields, Path.IsSegment clause.1) {expressions : List Expression}
    (h : compileExpressions registry limit room (.object fields) = .ok expressions) :
    compileExpressions registry limit' (room + 1) (.object (dottedFields field fields)) =
      .ok (expressions.map fun e => (Expression.traversal field (.mk [e] (some field)) 0).weighed) := by
  have hclauses : List.Forall₂ (fun clause e =>
      compileClause registry (compileStatement registry limit room) clause = .ok e)
      fields expressions := mapM_eq_ok.1 h
  refine mapM_eq_ok.2 (List.forall₂_map_left_iff.2 (List.forall₂_map_right_iff.2 ?_))
  clear h
  induction hclauses with
  | nil => exact .nil
  | cons he _ ih =>
    obtain ⟨hkey, hrest⟩ := List.forall_mem_cons.1 hkeys
    exact .cons (compileClause_dotted hfield hkey he) (ih hrest)

theorem Means.dottedFields (answers : Answers) {limit : Nat} {fields : List (String × Value)}
    (hkeys : ∀ clause ∈ fields, Path.IsSegment clause.1) {expressions : List Expression}
    (h : compileExpressions registry limit limit (.object fields) = .ok expressions) :
    Means answers registry (limit + 1) (.object (dottedFields field fields)) fun datum =>
      expressions.all fun e => (readField field datum).any (e.test answers) := by
  obtain ⟨s, hs, htest⟩ := Means.object answers (compileExpressions_dotted hfield hkeys h)
  refine ⟨s, hs, fun datum => (htest datum).trans ?_⟩
  change (expressions.map _).all (fun e => Expression.test answers e datum) = expressions.all _
  rw [List.all_map]
  refine congrArg (List.all expressions) (funext fun e => ?_)
  rw [Function.comp, Expression.test_weighed, Expression.test_traversal]
  simp only [Statement.test_mk, List.all_cons, List.all_nil, Bool.and_true]

end Clauses

/-- A field distributes over a disjunction of at least one query, and over the clauses
of an object in one direction, or in both where the datum is no array. All the queries
compile where their parts do. -/
theorem traversal_distributes (answers : Answers) (registry : Registry)
    (hor : registry.HasBuiltIn .or) {field : String} (hfield : IsField field) (limit : Nat)
    (sorted sorted' sorted'' : Bool) :
    (∀ queries statements, queries ≠ [] → CompileEach registry ⟨sorted, limit⟩ queries statements →
      ∃ t u,
        compile registry ⟨sorted', limit + 2⟩
          (.singleton field (.singleton "$or" (.array queries))) = .ok t ∧
        compile registry ⟨sorted'', limit + 2⟩
          (.singleton "$or" (.array (queries.map (.singleton field)))) = .ok u ∧
        ∀ datum, t.test answers datum = u.test answers datum) ∧
    ∀ fields s, (∀ clause ∈ fields, Path.IsSegment clause.1) →
      compile registry ⟨sorted, limit⟩ (.object fields) = .ok s →
      ∃ t u,
        compile registry ⟨sorted', limit + 1⟩ (.singleton field (.object fields)) = .ok t ∧
        compile registry ⟨sorted'', limit + 1⟩ (.object (dottedFields field fields)) = .ok u ∧
        ∀ datum, (t.test answers datum = true → u.test answers datum = true) ∧
          ((∀ items, datum ≠ .array items) → t.test answers datum = u.test answers datum) := by
  constructor
  · intro queries statements hne h
    have hkind : registry.HasBuiltIn Junction.or.builtin := hor
    have hmeanings := h.means answers
    obtain ⟨t, ht, htest⟩ := (Means.field hfield (Means.junction hkind hmeanings)).compile sorted'
    obtain ⟨u, hu, htest'⟩ :=
      (Means.junction hkind (forall₂_means_field hfield hmeanings)).compile sorted''
    have hstatements : statements.map (fun s => s.test answers) ≠ [] := fun hnil =>
      hne (h.eq_nil_iff.1 (List.map_eq_nil_iff.1 hnil))
    refine ⟨t, u, ht, hu, fun datum => ?_⟩
    rw [htest, htest', any_combine_or _ hstatements]
    simp only [List.map_map, Function.comp_def]
  · intro fields s hkeys hs
    obtain ⟨expressions, hexpressions⟩ := exists_compileExpressions hs
    have hobject := Means.object answers hexpressions
    obtain ⟨t, ht, htest⟩ := (hobject.field hfield).compile sorted'
    obtain ⟨u, hu, htest'⟩ := (Means.dottedFields hfield answers hkeys hexpressions).compile sorted''
    refine ⟨t, u, ht, hu, fun datum => ⟨fun h => ?_, fun hdatum => ?_⟩⟩
    · rw [htest] at h
      rw [htest']
      exact all_any_of_any_all h
    · rw [htest, htest', readField_of_ne_array field hdatum]
      simp only [List.any_cons, List.any_nil, Bool.or_false]

/-- Two elements of an array meet one condition each. A value that is no array meets
both; an element without the field is not asked. -/
theorem elements_share_conditions :
    let answers : Answers := fun _ _ => false
    let fields := [("b", Value.singleton "$exists" (.bool true)), ("$ne", .singleton "b" (.bool true))]
    let queries := [Value.string "x", .singleton "$exists" (.bool false)]
    let split : Value :=
      .array [.singleton "a" (.singleton "b" (.bool true)), .singleton "a" (.string "x")]
    let whole : Value := .singleton "a" (.singleton "b" (.bool false))
    (∃ t u, compile .standard ⟨false, 2⟩ (.singleton "a" (.object fields)) = .ok t ∧
      compile .standard ⟨false, 2⟩ (.object (dottedFields "a" fields)) = .ok u ∧
      t.test answers split = false ∧ u.test answers split = true ∧
      t.test answers whole = true ∧ u.test answers whole = true) ∧
    ∃ u, compile .standard ⟨false, 3⟩
        (.singleton "$or" (.array (queries.map (.singleton "a")))) = .ok u ∧
      u.test answers split = true ∧ u.test answers (.array [.object []]) = false := by
  intro answers fields queries split whole
  have hfield : IsField "a" := ⟨⟨by decide, by decide⟩, by decide⟩
  have hkeys : ∀ clause ∈ fields, Path.IsSegment clause.1 := by
    intro clause hclause
    simp only [fields, List.mem_cons, List.not_mem_nil, or_false] at hclause
    rcases hclause with rfl | rfl <;> exact ⟨by decide, by decide⟩
  have heach : CompileEach .standard ⟨false, 1⟩ queries
      [.mk [.check (.equals (.literal (.string "x"))) 101] none,
        .mk [.check (.present false) 200] none] := .cons rfl (.cons rfl .nil)
  have hor : Registry.standard.HasBuiltIn .or := Registry.standard_hasBuiltIn .or
  obtain ⟨hdisjunction, hobject⟩ :=
    traversal_distributes answers .standard hor hfield 1 false false false
  constructor
  · obtain ⟨t, u, ht, hu, htest⟩ := hobject _ _ hkeys rfl
    obtain ⟨within, hwithin, hsplit, hwhole⟩ : ∃ holds, Means answers .standard 2
        (.singleton "a" (.object fields)) holds ∧ holds split = false ∧ holds whole = true := by
      refine ⟨_, Means.field hfield ⟨_, rfl, fun _ => rfl⟩, ?_, ?_⟩
      all_goals rfl
    obtain ⟨dotted, hdotted, hapart⟩ : ∃ holds, Means answers .standard 2
        (.object (dottedFields "a" fields)) holds ∧ holds split = true := by
      refine ⟨_, Means.dottedFields hfield answers hkeys rfl, ?_⟩
      rfl
    have ht' := (Means.of_compile answers ht).unique hwithin
    have hu' := (Means.of_compile answers hu).unique hdotted
    refine ⟨t, u, ht, hu, (ht' _).trans hsplit, (hu' _).trans hapart, ?_, ?_⟩
    · exact (ht' _).trans hwhole
    · exact (htest _).1 ((ht' _).trans hwhole)
  · obtain ⟨t, u, ht, hu, htest⟩ := hdisjunction _ _ (List.cons_ne_nil _ _) heach
    obtain ⟨within, hwithin, hsplit, habsent⟩ : ∃ holds, Means answers .standard 3
        (.singleton "a" (.singleton "$or" (.array queries))) holds ∧
        holds split = true ∧ holds (.array [.object []]) = false := by
      refine ⟨_, Means.field hfield ⟨_, rfl, fun _ => rfl⟩, ?_, ?_⟩
      all_goals rfl
    have ht' := (Means.of_compile answers ht).unique hwithin
    refine ⟨u, hu, ?_, ?_⟩
    · exact (htest _).symm.trans ((ht' _).trans hsplit)
    · exact (htest _).symm.trans ((ht' _).trans habsent)

end Query
end DocQuery
