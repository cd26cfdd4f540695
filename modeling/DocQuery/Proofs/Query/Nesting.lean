import DocQuery.Proofs.Query.Acceptance

/-!
Which queries can be refused for their nesting. The nesting of a value counts the
arrays and the segments of keys that are one within the other; each statement that
is compiled uses up at least one of them. So a query is never refused for nesting
deeper than its own, except through the operator for equality: a value that is no
container stands for equality with itself, and where that name belongs to an added
operator that takes queries, the value is its own query again and again.
-/

namespace DocQuery

namespace Value

/-- A value that holds no other values. -/
def IsScalar : Value → Prop
  | .array _ | .object _ => False
  | _ => True

mutual

/-- How many arrays and segments of keys are one within the other. -/
def nesting : Value → Nat
  | .array items => 1 + nestingOfItems items
  | .object fields => nestingOfFields fields
  | _ => 0

def nestingOfItems : List Value → Nat
  | [] => 0
  | v :: rest => max v.nesting (nestingOfItems rest)

/-- A key counts for each of the parts that its points divide it into. -/
def nestingOfFields : List (String × Value) → Nat
  | [] => 0
  | (key, v) :: rest => max ((Path.parts key.toList).length + v.nesting) (nestingOfFields rest)

end

theorem nesting_item_lt {items : List Value} {v : Value} (h : v ∈ items) :
    v.nesting < (array items).nesting := by
  have hle : v.nesting ≤ nestingOfItems items := by
    induction items with
    | nil => cases h
    | cons w rest ih =>
      rw [nestingOfItems]
      rcases List.mem_cons.1 h with rfl | hrest
      · exact Nat.le_max_left _ _
      · exact Nat.le_trans (ih hrest) (Nat.le_max_right _ _)
  rw [nesting]
  omega

theorem nesting_field_le {fields : List (String × Value)} {key : String} {v : Value}
    (h : (key, v) ∈ fields) :
    (Path.parts key.toList).length + v.nesting ≤ (object fields).nesting := by
  rw [nesting]
  induction fields with
  | nil => cases h
  | cons field rest ih =>
    obtain ⟨name, w⟩ := field
    rw [nestingOfFields]
    rcases List.mem_cons.1 h with heq | hrest
    · cases heq
      exact Nat.le_max_left _ _
    · exact Nat.le_trans (ih hrest) (Nat.le_max_right _ _)

theorem Part.nesting_le {u v : Value} (h : Part u v) : u.nesting ≤ v.nesting := by
  induction h with
  | self => exact Nat.le_refl _
  | item hmem _ ih =>
    have hlt := nesting_item_lt hmem
    omega
  | field hmem _ ih =>
    have hle := nesting_field_le hmem
    omega

theorem nesting_singleton (key : String) (v : Value) :
    (singleton key v).nesting = (Path.parts key.toList).length + v.nesting := by
  rw [singleton, nesting, nestingOfFields, nestingOfFields, Nat.max_zero]

end Value

/-- No added operator refuses an operand for nesting too deep. -/
def Registry.OperandsNeverTooDeep (registry : Registry) : Prop :=
  ∀ op, .custom op ∈ registry.operators → ∀ operand n,
    op.prepare operand ≠ .error (.nestingTooDeep n)

theorem Registry.standard_operandsNeverTooDeep : Registry.standard.OperandsNeverTooDeep := by
  intro op hop
  obtain ⟨b, -, hb⟩ := List.mem_map.1 hop
  cases hb

theorem Registry.OperandsNeverTooDeep.register {registry : Registry}
    (h : registry.OperandsNeverTooDeep) {op : CustomOperator}
    (hop : ∀ operand n, op.prepare operand ≠ .error (.nestingTooDeep n)) :
    (registry.register op).OperandsNeverTooDeep := by
  intro added hadded
  rcases List.mem_cons.1 hadded with heq | hold
  · cases heq
    exact hop
  · exact h added (List.mem_filter.1 hold).1

namespace Query

theorem nesting_enclosed {segments : List (List Char)} (h : ∀ s ∈ segments, '.' ∉ s)
    (clause : Value) : (enclosed segments clause).nesting = segments.length + clause.nesting := by
  induction segments with
  | nil => exact (Nat.zero_add _).symm
  | cons segment rest ih =>
    have hrest := ih fun s hs => h s (List.mem_cons_of_mem _ hs)
    have hone := Path.parts_ofList (h segment List.mem_cons_self)
    change (Value.singleton (String.ofList segment) (enclosed rest clause)).nesting = _
    rw [Value.nesting_singleton, hrest, hone, List.length_singleton, List.length_cons]
    omega

variable {registry : Registry} {key : String} {clause query : Value} {queries : List Value}

theorem parts_length_pos (key : String) : 0 < (Path.parts key.toList).length :=
  List.length_pos_of_ne_nil (Path.parts_ne_nil _)

/-- A query that a clause holds nests less deep than the clause with its key. -/
theorem content_nesting (h : content registry key clause = .ok queries) (hq : query ∈ queries) :
    query.nesting < (Path.parts key.toList).length + clause.nesting := by
  have hpos := parts_length_pos key
  rcases content_origin h hq with hpart | rfl
  · have hle := hpart.nesting_le
    omega
  · have hsegments : ∀ s ∈ (Path.parts key.toList).tail, '.' ∉ s := by
      intro s hs
      exact Path.not_mem_of_mem_parts (List.mem_of_mem_tail hs)
    rw [nesting_enclosed hsegments, List.length_tail]
    omega

/-! What is wrong with a clause itself is not its nesting. -/

theorem fieldContent_error {e : QueryError} (h : fieldContent key clause = .error e) :
    e = .invalidOperand Builtin.traverse.name (.emptySegment key) := by
  unfold fieldContent at h
  split at h
  · cases h
    rfl
  · cases h

theorem builtinContent_error {b : Builtin} {e : QueryError}
    (h : builtinContent b key clause = .error e) : ∃ name fault, e = .invalidOperand name fault := by
  by_cases hb : b.isTraversable = true
  · cases b with
    | and | or | nor =>
      cases clause with
      | array items => cases h
      | _ =>
        cases h
        exact ⟨_, _, rfl⟩
    | not =>
      cases clause with
      | object fields | regex p => cases h
      | _ =>
        cases h
        exact ⟨_, _, rfl⟩
    | traverse => exact ⟨_, _, fieldContent_error h⟩
    | _ => cases hb
  · rw [← map_planBuiltin, planBuiltin_prepared (Bool.eq_false_iff.2 hb)] at h
    cases hprepare : b.prepare clause.normalizeOperand with
    | error fault =>
      rw [hprepare] at h
      cases h
      exact ⟨_, _, rfl⟩
    | ok check =>
      rw [hprepare] at h
      cases h

theorem content_ne_nestingTooDeep (hoperands : registry.OperandsNeverTooDeep) (n : Nat) :
    content registry key clause ≠ .error (.nestingTooDeep n) := by
  intro h
  unfold content at h
  split at h
  · obtain ⟨name, fault, heq⟩ := builtinContent_error h
    cases heq
  · rename_i op hop
    have hmem := Registry.mem_of_lookup hop
    unfold customContent at h
    split at h
    · cases clause <;> cases h
    · have hprepare := hoperands op hmem clause.normalizeOperand n
      cases hresult : op.prepare clause.normalizeOperand with
      | ok operand =>
        rw [hresult] at h
        cases h
      | error e =>
        rw [hresult] at h hprepare
        cases h
        exact hprepare rfl
  · split at h
    · cases h
    · cases fieldContent_error h

/-! The operator that a scalar stands for. -/

/-- The operator for equality takes no queries. -/
def EqualityTakesValues (registry : Registry) : Prop :=
  ∀ op, registry.lookup Builtin.eq.name = some (.custom op) → op.traversable = false

theorem lookup_eq_builtin {b : Builtin} (h : registry.lookup Builtin.eq.name = some (.builtin b)) :
    b = .eq := by
  have hname : b.name = Builtin.eq.name := Registry.name_of_lookup h
  cases b <;> revert hname <;> decide

/-- A clause of the operator for equality holds no query then. -/
theorem equality_content (heq : EqualityTakesValues registry)
    (h : content registry Builtin.eq.name clause = .ok queries) : queries = [] := by
  unfold content at h
  split at h
  · rename_i b hb
    rw [lookup_eq_builtin hb] at h
    exact builtinContent_of_not_traversable rfl h
  · rename_i op hop
    unfold customContent at h
    rw [heq op hop, if_neg Bool.false_ne_true] at h
    obtain ⟨operand, -, rfl⟩ := map_eq_ok.1 h
    rfl
  · cases h

theorem clause_content_nesting (heq : EqualityTakesValues registry) {whole : Value}
    (hclause : (key, clause) ∈ clauses whole) (h : content registry key clause = .ok queries)
    (hq : query ∈ queries) : query.nesting < whole.nesting := by
  cases whole with
  | object fields => exact Nat.lt_of_lt_of_le (content_nesting h hq) (Value.nesting_field_le hclause)
  | _ =>
    cases List.mem_singleton.1 hclause
    rw [equality_content heq h] at hq
    cases hq

/-- The key under which a query is compiled does not count for its refusal. -/
theorem refusal?_compileStatement_key (registry : Registry) (limit room : Nat) (query : Value)
    (key : Option String) :
    refusal? (compileStatement registry limit room query key) =
      refusal? (compileStatement registry limit room query none) := by
  rw [compileStatement_withKey registry limit room query none key, refusal?_map]

/-- With more room than a query nests deep, the room suffices. -/
theorem compileStatement_ne_nestingTooDeep (hoperands : registry.OperandsNeverTooDeep)
    (heq : EqualityTakesValues registry) (limit n : Nat) {room : Nat} {query : Value}
    (hroom : query.nesting < room) (key : Option String) :
    compileStatement registry limit room query key ≠ .error (.nestingTooDeep n) := by
  induction room generalizing query key with
  | zero => omega
  | succ room ih =>
    intro h
    have hrefusal := refusal?_eq_some.2 h
    rw [compileStatement_succ, refusal?_map, compileExpressions, refusal?_mapM] at hrefusal
    obtain ⟨⟨name, clause⟩, hclause, hrefusal⟩ := List.exists_of_findSome?_eq_some hrefusal
    rw [refusal?_compileClause registry name clause
      (refusal?_compileStatement_key registry limit room)] at hrefusal
    cases hcontent : content registry name clause with
    | error e =>
      rw [hcontent] at hrefusal
      cases hrefusal
      exact content_ne_nestingTooDeep hoperands n hcontent
    | ok queries =>
      rw [hcontent] at hrefusal
      obtain ⟨inner, hinner, hrefusal⟩ := List.exists_of_findSome?_eq_some hrefusal
      have hless := clause_content_nesting heq hclause hcontent hinner
      exact ih (by omega) none (refusal?_eq_some.1 hrefusal)

/-- Where equality takes queries, a scalar is its own query: there is no room in which
it compiles. -/
theorem compileStatement_scalar_endless {op : CustomOperator}
    (hop : registry.lookup Builtin.eq.name = some (.custom op)) (htraversable : op.traversable = true)
    {v : Value} (hv : v.IsScalar) (limit room : Nat) (key : Option String) :
    compileStatement registry limit room v key = .error (.nestingTooDeep limit) := by
  induction room generalizing key with
  | zero => rfl
  | succ room ih =>
    have hplan : plan registry (Builtin.eq.name, v) =
        .ok (.single v Builtin.eq.name (.customQuery op · 0)) := by
      rw [plan, resolve, hop]
      change planCustom op Builtin.eq.name v = _
      unfold planCustom
      rw [if_pos htraversable]
      cases v with
      | array items | object fields => cases hv
      | _ => rfl
    have hobject : ∀ fields, v ≠ .object fields := by
      rintro fields rfl
      cases hv
    have hsingle := compileStatement_singleton_single registry hplan limit room key
    rw [compileStatement_succ, compileExpressions, ← clauses_eq_equality hobject] at hsingle
    rw [compileStatement_succ, compileExpressions, hsingle, ih]
    rfl

/-- Where no operand is refused for nesting too deep, the operator for equality decides
about all queries: exactly if it takes no queries itself, a query is never refused
for its nesting under a limit that is not below the nesting of the query. -/
theorem nesting_suffices_iff_equality_takes_values (registry : Registry)
    (hoperands : registry.OperandsNeverTooDeep) :
    EqualityTakesValues registry ↔
      ∀ (options : CompileOptions) (query : Value), query.nesting ≤ options.depthLimit →
        ∀ n, compile registry options query ≠ .error (.nestingTooDeep n) := by
  constructor
  · intro heq options query hquery n h
    have hrefusal := refusal?_eq_some.2 h
    rw [compile_eq, refusal?_map, refusal?_eq_some] at hrefusal
    have hroom : query.nesting < options.depthLimit + 1 := Nat.lt_succ_of_le hquery
    exact compileStatement_ne_nestingTooDeep hoperands heq _ n hroom none hrefusal
  · intro h op hop
    rw [← Bool.not_eq_true]
    intro htraversable
    have hendless := compileStatement_scalar_endless hop htraversable (v := .null) trivial 0 1 none
    refine h ⟨true, 0⟩ .null (Nat.le_refl 0) 0 ?_
    rw [compile_eq, hendless]
    rfl

/-- The operator for equality is an added one, which refuses its operand for another
reason. -/
theorem nesting_suffices_with_own_equality :
    let registry := Registry.standard.register
      ⟨"eq", false, some fun _ => .error (.unknownOperator "$x"), fun _ _ _ => .answer true⟩
    let query := Value.singleton "a.b" (.singleton "$or" (.array [.string "x"]))
    query.nesting = 4 ∧ compile registry ⟨true, 4⟩ query ≠ .error (.nestingTooDeep 4) := by
  intro registry query
  have hoperands : registry.OperandsNeverTooDeep := by
    refine Registry.standard_operandsNeverTooDeep.register fun operand n h => ?_
    cases h
  have heq : EqualityTakesValues registry := by
    intro op hop
    cases hop
    rfl
  have hsuffices := (nesting_suffices_iff_equality_takes_values registry hoperands).1 heq
  exact ⟨rfl, hsuffices ⟨true, 4⟩ query (Nat.le_refl 4) 4⟩

/-- Equality is an added operator that takes queries: a string, which does not nest, is
refused for nesting deeper than 128. -/
theorem string_refused_for_nesting :
    let registry := Registry.standard.register
      ⟨"eq", true, none, fun _ _ _ => .answer true⟩
    registry.OperandsNeverTooDeep ∧ (Value.string "x").nesting = 0 ∧
      compile registry {} (.string "x") = .error (.nestingTooDeep 128) := by
  intro registry
  have hoperands : registry.OperandsNeverTooDeep := by
    refine Registry.standard_operandsNeverTooDeep.register fun operand n h => ?_
    cases h
  have hop : registry.lookup Builtin.eq.name =
      some (.custom ⟨"$eq", true, none, fun _ _ _ => .answer true⟩) := rfl
  have hendless := compileStatement_scalar_endless hop rfl (v := .string "x") trivial 128 129 none
  refine ⟨hoperands, rfl, ?_⟩
  rw [compile_eq, hendless]
  rfl

end Query
end DocQuery
