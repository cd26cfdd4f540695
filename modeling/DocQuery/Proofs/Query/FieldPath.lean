import DocQuery.Proofs.Path
import DocQuery.Proofs.Query.Compilation
import DocQuery.Proofs.Statement.Reordering

/-!
What a path of fields stands for. `reach` gives the values that a path leads to,
without any query; a query on a path holds of a datum exactly if its clause
holds of one of them. A path is the same as objects one within the other, and
each field takes one more statement, which reads that field and asks about what
it holds.
-/

namespace DocQuery

/-- The name can be a segment of a path, and does not look like an operator. -/
structure IsField (name : String) : Prop where
  segment : Path.IsSegment name
  unsigned : isOperatorName name = false

/-- The name is read as one field: it has no point, and does not look like an operator.
A segment of a path is not empty, but this name may be. -/
structure IsSimpleField (name : String) : Prop where
  undotted : Path.isDotted name = false
  unsigned : isOperatorName name = false

theorem IsField.simple {name : String} (h : IsField name) : IsSimpleField name :=
  ⟨Path.isDotted_segment h.segment, h.unsigned⟩

/-- The values that a path leads to. An array passes the path on to the fields
of its own elements, where these are objects that have the field. In any other
value a field that is missing reads as absence. -/
def reach : List String → Value → List Value
  | [], v => [v]
  | field :: rest, .array items =>
    items.flatMap fun item =>
      match item.get? field with
      | some v => reach rest v
      | none => []
  | field :: rest, v => reach rest ((v.get? field).getD .undefined)

theorem reach_cons (field : String) (rest : List String) (v : Value) :
    reach (field :: rest) v = (readField field v).flatMap (reach rest) := by
  cases v with
  | array items =>
    rw [reach, readField]
    induction items with
    | nil => rfl
    | cons item others ih =>
      rw [List.flatMap_cons, ih, List.filterMap_cons]
      cases item.get? field with
      | none => rfl
      | some w => rw [List.flatMap_cons]
  | null | bool b | number n | string s | object fields | undefined | date t | regex p
  | predicate p =>
    rw [readField, List.flatMap_singleton, reach]
    all_goals
      intro items heq
      cases heq

namespace Query

theorem expand_join {first : String} {rest : List String} (clause : Value)
    (h : ∀ s ∈ first :: rest, Path.IsSegment s) :
    expand (Path.join (first :: rest)) clause = .ok (first, nested rest clause) := by
  cases rest with
  | nil =>
    rw [Path.join_singleton, expand, Path.isDotted_segment (h first List.mem_cons_self)]
    rfl
  | cons second rest =>
    rw [expand, Path.isDotted_join, Path.segments?_join (List.cons_ne_nil _ _) h]
    rfl

section

variable (registry : Registry) (limit room : Nat)

theorem plan_join {first : String} {rest : List String} (clause : Value)
    (hfirst : isOperatorName first = false) (h : ∀ s ∈ first :: rest, Path.IsSegment s) :
    plan registry (Path.join (first :: rest), clause) =
      .ok (.single (nested rest clause) first (.traversal first · 0)) := by
  have hkey : isOperatorName (Path.join (first :: rest)) = false := by
    rw [Path.isOperatorName_join (h first List.mem_cons_self), hfirst]
  rw [plan, resolve_field registry hkey]
  change planBuiltin .traverse _ _ = _
  rw [planBuiltin, expand_join clause h]
  rfl

/-- A query on a path is one traversal of its first field; the rest of the path
goes to the statement within. -/
theorem compileStatement_join {first : String} {rest : List String} (clause : Value)
    (key : Option String) (hfirst : isOperatorName first = false)
    (h : ∀ s ∈ first :: rest, Path.IsSegment s) :
    compileStatement registry limit (room + 1) (.singleton (Path.join (first :: rest)) clause) key =
      (compileStatement registry limit room (nested rest clause) (some first)).map
        fun s => .mk [(Expression.traversal first s 0).weighed] key :=
  compileStatement_singleton_single registry (plan_join registry clause hfirst h) limit room key

theorem plan_simpleField {field : String} (query : Value) (h : IsSimpleField field) :
    plan registry (field, query) = .ok (.single query field (.traversal field · 0)) := by
  rw [plan, resolve_field registry h.unsigned]
  change planBuiltin .traverse _ _ = _
  rw [planBuiltin, expand, h.undotted]
  rfl

/-- A query on a name without points is one traversal, be the name empty or not. -/
theorem compileStatement_simpleField {field : String} (query : Value) (key : Option String)
    (h : IsSimpleField field) :
    compileStatement registry limit (room + 1) (.singleton field query) key =
      (compileStatement registry limit room query (some field)).map
        fun s => .mk [(Expression.traversal field s 0).weighed] key :=
  compileStatement_singleton_single registry (plan_simpleField registry query h) limit room key

theorem compileStatement_field {field : String} (query : Value) (key : Option String)
    (h : IsField field) :
    compileStatement registry limit (room + 1) (.singleton field query) key =
      (compileStatement registry limit room query (some field)).map
        fun s => .mk [(Expression.traversal field s 0).weighed] key :=
  compileStatement_simpleField registry limit room query key h.simple

/-- A path is compiled as the objects that it stands for. Only its first segment has
to be the name of a field; any other may be that of an operator. -/
theorem compileStatement_path_eq_nested {first : String} {rest : List String} (clause : Value)
    (key : Option String) (hfirst : isOperatorName first = false)
    (h : ∀ s ∈ first :: rest, Path.IsSegment s) :
    compileStatement registry limit room (.singleton (Path.join (first :: rest)) clause) key =
      compileStatement registry limit room (nested (first :: rest) clause) key := by
  cases room with
  | zero => rfl
  | succ room =>
    have hfield : IsField first := ⟨h first List.mem_cons_self, hfirst⟩
    rw [compileStatement_join registry limit room clause key hfirst h]
    exact (compileStatement_field registry limit room _ key hfield).symm

/-- A path of fields is compiled as the objects that it stands for. -/
theorem compileStatement_join_eq_nested {path : List String} (clause : Value)
    (key : Option String) (hne : path ≠ []) (h : ∀ f ∈ path, IsField f) :
    compileStatement registry limit (room + 1) (.singleton (Path.join path) clause) key =
      compileStatement registry limit (room + 1) (nested path clause) key := by
  obtain ⟨first, rest, rfl⟩ := List.exists_cons_of_ne_nil hne
  have hfirst := h first List.mem_cons_self
  exact compileStatement_path_eq_nested registry limit (room + 1) clause key hfirst.unsigned
    fun s hs => (h s hs).segment

end

/-- A dotted key stands for objects one within the other: with it a query is refused
for the same reason, or compiles to the same statement, as with these objects. So
does the object with the first field and the rest of the path in it, if the rest
begins with the name of a field as well. -/
theorem dotted_key_is_nested_objects (registry : Registry) (options : CompileOptions)
    (clause : Value) {first second : String} {rest : List String}
    (hsegments : ∀ s ∈ first :: second :: rest, Path.IsSegment s)
    (hfirst : isOperatorName first = false) :
    compile registry options (.singleton (Path.join (first :: second :: rest)) clause) =
        compile registry options ((first :: second :: rest).foldr Value.singleton clause) ∧
      (isOperatorName second = false →
        compile registry options
            (.singleton first (.singleton (Path.join (second :: rest)) clause)) =
          compile registry options ((first :: second :: rest).foldr Value.singleton clause)) := by
  constructor
  · rw [compile_eq, compile_eq]
    have hpath := compileStatement_path_eq_nested registry options.depthLimit
      (options.depthLimit + 1) clause none hfirst hsegments
    rw [hpath]
    rfl
  · intro hsecond
    have hfield : IsField first := ⟨hsegments first List.mem_cons_self, hfirst⟩
    have hrest : ∀ s ∈ second :: rest, Path.IsSegment s := fun s hs =>
      hsegments s (List.mem_cons_of_mem _ hs)
    have hinner := compileStatement_path_eq_nested registry options.depthLimit
      options.depthLimit clause (some first) hsecond hrest
    rw [compile_eq, compile_eq, compileStatement_field registry _ _ _ none hfield, hinner]
    change _ = (compileStatement registry _ (options.depthLimit + 1)
      (.singleton first (nested (second :: rest) clause)) none).map _
    rw [compileStatement_field registry _ _ _ none hfield]

/-- The last segment is an operator; the limit is met on the way, or is not. -/
theorem dotted_key_ends_with_operator :
    let clause : Value := .array [.null, .singleton "c.d" (.bool true)]
    let objects : Value := .singleton "a" (.singleton "b" (.singleton "$or" clause))
    compile .standard ⟨true, 1⟩ (.singleton "a.b.$or" clause) =
        compile .standard ⟨true, 1⟩ objects ∧
      compile .standard ⟨true, 9⟩ (.singleton "a" (.singleton "b.$or" clause)) =
        compile .standard ⟨true, 9⟩ objects := by
  intro clause objects
  have hsegments : ∀ s ∈ ["a", "b", "$or"], Path.IsSegment s := by
    rintro s (_ | ⟨_, _ | ⟨_, _ | ⟨_, ⟨⟩⟩⟩⟩) <;> exact ⟨by decide, by decide⟩
  have hpath : Path.join ["a", "b", "$or"] = "a.b.$or" := by decide
  have hrest : Path.join ["b", "$or"] = "b.$or" := by decide
  have hwhole := dotted_key_is_nested_objects .standard ⟨true, 1⟩ clause hsegments (by decide)
  have hwithin := dotted_key_is_nested_objects .standard ⟨true, 9⟩ clause hsegments (by decide)
  rw [hpath] at hwhole
  rw [hrest] at hwithin
  exact ⟨hwhole.1, hwithin.2 (by decide)⟩

variable (answers : Answers)

theorem test_single_traversal (field : String) (s : Statement) (key : Option String)
    (datum : Value) :
    (Statement.mk [(Expression.traversal field s 0).weighed] key).test answers datum =
      (readField field datum).any fun v => s.test answers v := by
  rw [Statement.test_single, Expression.test_traversal]

/-- Objects one within the other compile if the innermost query does with so
much less room, and they hold if it holds of a value that the fields lead to. -/
theorem exists_compileStatement_nested {registry : Registry} {limit room : Nat} {clause : Value}
    {s : Statement} (hs : compileStatement registry limit room clause none = .ok s)
    (fields : List String) (hfields : ∀ f ∈ fields, IsField f) (key : Option String) :
    ∃ t, compileStatement registry limit (room + fields.length) (nested fields clause) key = .ok t ∧
      ∀ datum, t.test answers datum = (reach fields datum).any fun v => s.test answers v := by
  induction fields generalizing key with
  | nil =>
    refine ⟨.mk s.expressions key, ?_, fun datum => ?_⟩
    · change compileStatement registry limit room clause key = _
      rw [compileStatement_withKey registry limit room clause none key, hs]
      rfl
    · rw [reach, List.any_cons, List.any_nil, Bool.or_false, Statement.test_withKey]
  | cons field rest ih =>
    obtain ⟨inner, hinner, htest⟩ :=
      ih (fun f hf => hfields f (List.mem_cons_of_mem _ hf)) (some field)
    refine ⟨.mk [(Expression.traversal field inner 0).weighed] key, ?_, fun datum => ?_⟩
    · change compileStatement registry limit (room + rest.length + 1)
        (.singleton field (nested rest clause)) key = _
      rw [compileStatement_field registry limit _ _ key (hfields field List.mem_cons_self), hinner]
      rfl
    · rw [test_single_traversal, reach_cons, List.any_flatMap]
      simp only [htest]

/-- Of a clause that compiles, the query that puts it on a path of fields does so
too, with as much more depth as the path is long; and that query holds of a
datum exactly if the clause holds of a value that the path leads to. -/
theorem path_matches_iff_reached (registry : Registry) (limit : Nat) (sorted sorted' : Bool)
    (path : List String) (clause : Value) (s : Statement) (hne : path ≠ [])
    (hpath : ∀ f ∈ path, IsField f) (hs : compile registry ⟨sorted, limit⟩ clause = .ok s) :
    ∃ t, compile registry ⟨sorted', limit + path.length⟩ (.singleton (Path.join path) clause) =
        .ok t ∧
      ∀ datum, t.test answers datum = true ↔ ∃ v ∈ reach path datum, s.test answers v = true := by
  rw [compile_eq] at hs
  obtain ⟨written, hwritten, rfl⟩ := map_eq_ok.1 hs
  have hroom : compileStatement registry (limit + path.length) (limit + 1) clause none =
      .ok written := compileStatement_mono registry (Nat.le_refl _) _ _ _ hwritten
  obtain ⟨t, ht, htest⟩ := exists_compileStatement_nested answers hroom path hpath none
  have hjoin : compileStatement registry (limit + path.length) (limit + path.length + 1)
      (.singleton (Path.join path) clause) none = .ok t := by
    rw [compileStatement_join_eq_nested registry _ _ clause none hne hpath, ← ht]
    congr 1
    omega
  refine ⟨if sorted' then t.reorder else t, ?_, fun datum => ?_⟩
  · rw [compile_eq]
    exact map_eq_ok.2 ⟨t, hjoin, rfl⟩
  · rw [test_sorted, htest, List.any_eq_true]
    simp only [test_sorted]

/-- An element without the field is skipped, while an object without it reads as
absence. -/
theorem path_skips_elements_without_field :
    ∃ t, compile .standard ⟨true, 2⟩
        (.singleton (Path.join ["a", "b"]) (.singleton "$exists" (.bool false))) = .ok t ∧
      t.test (fun _ _ => false)
        (.object [("a", .array [.object [], .object [("b", .bool true)]])]) = false ∧
      t.test (fun _ _ => false) (.object [("a", .object [])]) = true := by
  have hfields : ∀ f ∈ ["a", "b"], IsField f := by
    rintro f (_ | ⟨_, _ | ⟨_, ⟨⟩⟩⟩) <;> exact ⟨⟨by decide, by decide⟩, by decide⟩
  obtain ⟨t, ht, htest⟩ := path_matches_iff_reached (fun _ _ => false) .standard 0 false true
    ["a", "b"] (.singleton "$exists" (.bool false)) (.mk [.check (.present false) 200] none)
    (by decide) hfields rfl
  refine ⟨t, ht, ?_, (htest _).2 ⟨.undefined, .head _, rfl⟩⟩
  rw [Bool.eq_false_iff, Ne, htest]
  decide

end Query
end DocQuery
