import DocQuery.Proofs.Path
import DocQuery.Proofs.Query.Compilation
import DocQuery.Proofs.Value.Nesting

/-!
Which queries are accepted, and what is reported of the others. The grammar of
clauses is given by what each clause holds: the queries within it, or what is
wrong with it. `visited` lists the points of a query in the order in which they
are written, each before what is below it, and nothing below a point that is
wrong. A query compiles exactly if nothing is wrong with any of its points, and
is refused for the first of them with which something is.
-/

namespace DocQuery

/-- What is wrong with an operand that holds no queries. It comes in its
comparable form. -/
def Builtin.operandFault? (b : Builtin) (operand : Value) : Option OperandFault :=
  match b, operand with
  | .size, .number n => if n.integer?.any fun i => 0 ≤ i then none else some .notCount
  | .size, .array _ => none
  | .size, _ => some .notCount
  | .modulo, .array [divisor, remainder] =>
    if divisor.number?.any Number.isZero then some .zeroDivisor
    else if divisor.number?.isSome && remainder.number?.isSome then none else some .notNumbers
  | .modulo, _ => some .notPair
  | .isIn, .array _ | .notIn, .array _ | .all, .array _ => none
  | .isIn, _ | .notIn, _ | .all, _ => some .notList
  | .regex, .regex _ => none
  | .regex, .string source => (refusal? (Pattern.make source "")).map .badPattern
  | .regex, _ => some .notPattern
  | .satisfies, .predicate _ => none
  | .satisfies, .string _ => some .textualPredicate
  | .satisfies, _ => some .notPredicate
  | .hasType, .string name =>
    if (ValueType.ofName? name).isSome then none else some (.unknownType name)
  | .hasType, _ => some .notTypeName
  | _, _ => none

namespace Query

/-- The clauses that are written in a query. -/
def written : Value → List (String × Value)
  | .object fields => fields
  | query => [("$eq", query)]

/-- A clause with an object around it for each segment, the first the outermost. -/
def enclosed : List (List Char) → Value → Value
  | [], clause => clause
  | segment :: rest, clause => .object [(String.ofList segment, enclosed rest clause)]

/-- A field holds one query; each further segment of a path puts an object around it. -/
def fieldContent (key : String) (clause : Value) : Except QueryError (List Value) :=
  if '.' ∈ key.toList ∧ [] ∈ key.toList.splitOn '.' then
    .error (.invalidOperand Builtin.traverse.name (.emptySegment key))
  else .ok [enclosed (key.toList.splitOn '.').tail clause]

def builtinContent (b : Builtin) (key : String) (clause : Value) :
    Except QueryError (List Value) :=
  match b, clause with
  | .and, .array items | .or, .array items | .nor, .array items => .ok items
  | .and, _ | .or, _ | .nor, _ => .error (.invalidOperand b.name .notQueries)
  | .not, .object _ | .not, .regex _ => .ok [clause]
  | .not, _ => .error (.invalidOperand b.name .notNegatable)
  | .traverse, _ => fieldContent key clause
  | _, _ =>
    match b.operandFault? clause.normalizeOperand with
    | some fault => .error (.invalidOperand b.name fault)
    | none => .ok []

/-- The queries that an added operator holds: each element of an array is one. -/
def customContent (op : CustomOperator) (clause : Value) : Except QueryError (List Value) :=
  if op.traversable then
    match clause with
    | .array items => .ok items
    | _ => .ok [clause]
  else (op.prepare clause.normalizeOperand).map fun _ => []

/-- The queries that a clause holds, or what is wrong with the clause. -/
def content (registry : Registry) (key : String) (clause : Value) :
    Except QueryError (List Value) :=
  match registry.lookup key with
  | some (.builtin b) => builtinContent b key clause
  | some (.custom op) => customContent op clause
  | none =>
    if key.toList.head? = some '$' then .error (.unknownOperator key) else fieldContent key clause

/-- A place in a query. -/
inductive Point where
  | query (depth : Nat) (query : Value)
  | clause (key : String) (operand : Value)

/-- What is wrong at a point, whatever is below it. -/
def Point.fault? (registry : Registry) (limit : Nat) : Point → Option QueryError
  | query depth _ => if limit < depth then some (.nestingTooDeep limit) else none
  | clause key operand => refusal? (content registry key operand)

/-- The points of a query at a depth, in the order in which they are written.
There is nothing below a point at which something is wrong. -/
def visited (registry : Registry) (limit depth : Nat) (query : Value) : List Point :=
  .query depth query ::
    if _h : limit < depth then []
    else (written query).flatMap fun (key, clause) =>
      .clause key clause ::
        match content registry key clause with
        | .error _ => []
        | .ok queries => queries.flatMap fun inner => visited registry limit (depth + 1) inner
termination_by limit + 1 - depth

/-! The content of a clause is what its plan leaves to compile. -/

def Plan.queries : Plan → List Value
  | done _ => []
  | single query _ _ => [query]
  | several queries _ => queries

private theorem refusal?_division (operand : Value) :
    refusal? (Operand.division operand) = Builtin.modulo.operandFault? operand := by
  cases operand with
  | array items =>
    match items with
    | [] | [_] | _ :: _ :: _ :: _ => rfl
    | [divisor, remainder] =>
      rw [Operand.division, Builtin.operandFault?]
      cases divisor.number? with
      | none => rfl
      | some d =>
        cases hd : d.isZero with
        | true => simp [hd, refusal?]
        | false => cases remainder.number? <;> simp [hd, refusal?]
  | _ => rfl

/-- An operator that holds no queries refuses exactly the operands that have
something wrong. -/
theorem refusal?_prepare (b : Builtin) (operand : Value) (h : b.isTraversable = false) :
    refusal? (b.prepare operand) = b.operandFault? operand := by
  cases b with
  | and | or | nor | not | traverse => cases h
  | eq | ne | lt | lte | gt | gte | present => rfl
  | size =>
    rw [Builtin.prepare, refusal?_map]
    cases operand with
    | number n =>
      simp only [Operand.size, Builtin.operandFault?]
      cases n.integer? with
      | none => rfl
      | some i => by_cases hi : 0 ≤ i <;> simp [hi, refusal?]
    | _ => rfl
  | modulo => exact (refusal?_map _ _).trans (refusal?_division operand)
  | isIn | notIn | all => cases operand <;> rfl
  | regex =>
    rw [Builtin.prepare, refusal?_map]
    cases operand with
    | string source =>
      simp only [Operand.pattern, Builtin.operandFault?]
      cases Pattern.make source "" <;> rfl
    | _ => rfl
  | satisfies => cases operand <;> rfl
  | hasType =>
    rw [Builtin.prepare, refusal?_map]
    cases operand with
    | string name =>
      simp only [Operand.valueType, Builtin.operandFault?]
      cases ValueType.ofName? name <;> rfl
    | _ => rfl

theorem clauses_eq_written (query : Value) : clauses query = written query := by
  cases query <;> rfl

theorem nested_eq_enclosed (segments : List (List Char)) (clause : Value) :
    nested (segments.map String.ofList) clause = enclosed segments clause := by
  induction segments with
  | nil => rfl
  | cons segment rest ih =>
    rw [enclosed, ← ih]
    rfl

/-- The first field of a path and the rest of it, as they are cut at points. -/
theorem map_expand (key : String) (clause : Value) :
    (expand key clause).map (fun part => [part.2]) = fieldContent key clause := by
  rw [expand, fieldContent, ← Path.parts_eq_splitOn]
  by_cases hdotted : '.' ∈ key.toList
  · rw [if_pos (Path.isDotted_iff.mpr hdotted), Path.segments?_eq]
    by_cases hempty : [] ∈ Path.parts key.toList
    · rw [if_pos hempty, if_pos ⟨hdotted, hempty⟩]
      rfl
    · obtain ⟨first, rest, hparts⟩ := List.exists_cons_of_ne_nil (Path.parts_ne_nil key.toList)
      rw [if_neg hempty, if_neg fun h => hempty h.2, hparts, List.tail_cons, ← nested_eq_enclosed]
      rfl
  · have hcut : Path.parts key.toList = [key.toList] := Path.parts_of_not_mem hdotted
    rw [if_neg (mt Path.isDotted_iff.mp hdotted), if_neg fun h => hdotted h.1, hcut]
    rfl

private theorem map_planPrepared (b : Builtin) (clause : Value) (h : b.isTraversable = false) :
    ((ofOperand b (b.prepare clause.normalizeOperand)).map
        fun check => Plan.done (.check check 0)).map Plan.queries =
      match b.operandFault? clause.normalizeOperand with
      | some fault => .error (.invalidOperand b.name fault)
      | none => .ok [] := by
  rw [← refusal?_prepare b _ h]
  cases b.prepare clause.normalizeOperand <;> rfl

theorem map_planBuiltin (b : Builtin) (key : String) (clause : Value) :
    (planBuiltin b key clause).map Plan.queries = builtinContent b key clause := by
  cases b with
  | and | or | nor => cases clause <;> rfl
  | not => cases clause <;> rfl
  | traverse =>
    change ((expand key clause).map _).map _ = fieldContent key clause
    rw [← map_expand]
    cases expand key clause <;> rfl
  | eq | ne | lt | lte | gt | gte | present => cases clause <;> rfl
  | size | modulo | isIn | notIn | all | regex | satisfies | hasType =>
    exact map_planPrepared _ clause rfl

private theorem map_planCustom (op : CustomOperator) (key : String) (clause : Value) :
    (planCustom op key clause).map Plan.queries = customContent op clause := by
  unfold planCustom customContent
  by_cases h : op.traversable = true
  · rw [if_pos h, if_pos h]
    cases clause <;> rfl
  · rw [if_neg h, if_neg h]
    cases op.prepare clause.normalizeOperand <;> rfl

/-- The plan of a clause leaves what the clause holds. -/
theorem map_plan (registry : Registry) (key : String) (clause : Value) :
    (plan registry (key, clause)).map Plan.queries = content registry key clause := by
  rw [plan, resolve, content]
  cases registry.lookup key with
  | some op =>
    cases op with
    | builtin b => exact map_planBuiltin b key clause
    | custom op => exact map_planCustom op key clause
  | none =>
    by_cases h : isOperatorName key = true
    · simp only [if_pos h, if_pos (isOperatorName_iff.mp h)]
      rfl
    · simp only [if_neg h, if_neg (mt isOperatorName_iff.mpr h)]
      exact map_planBuiltin .traverse key clause

theorem builtinContent_of_not_traversable {b : Builtin} (hb : b.isTraversable = false)
    {key : String} {clause : Value} {queries : List Value}
    (h : builtinContent b key clause = .ok queries) : queries = [] := by
  rw [← map_planBuiltin, planBuiltin_prepared hb] at h
  obtain ⟨p, hp, rfl⟩ := map_eq_ok.1 h
  obtain ⟨check, -, rfl⟩ := map_eq_ok.1 hp
  rfl

section Origin

variable {key : String} {clause : Value} {queries : List Value}

theorem fieldContent_origin (h : fieldContent key clause = .ok queries) :
    queries = [enclosed (Path.parts key.toList).tail clause] := by
  rw [Path.parts_eq_splitOn]
  unfold fieldContent at h
  split at h
  · cases h
  · cases h
    rfl

/-- A query that a clause holds is found in the clause, or is the clause with the rest
of a path around it. -/
theorem content_origin {registry : Registry} {query : Value}
    (h : content registry key clause = .ok queries) (hquery : query ∈ queries) :
    query.Part clause ∨ query = enclosed (Path.parts key.toList).tail clause := by
  rw [← map_plan] at h
  obtain ⟨p, hp, rfl⟩ := map_eq_ok.1 h
  cases planned_of_plan hp with
  | check | customValue => cases hquery
  | junction hop hitems | customQueries hop hqueries hitems =>
    subst hitems
    exact Or.inl (.item hquery (.self query))
  | negation | customQuery =>
    rw [List.mem_singleton.1 hquery]
    exact Or.inl (.self clause)
  | traversal hop hexpand =>
    have hcontent := map_expand key clause
    rw [hexpand] at hcontent
    rw [List.mem_singleton.1 hquery]
    exact Or.inr (List.cons.inj (fieldContent_origin hcontent.symm)).1

end Origin

/-- What refuses a plan is the first of its queries that is refused. -/
theorem Plan.refusal?_complete {inner : Inner} (p : Plan)
    (h : ∀ query key, refusal? (inner query key) = refusal? (inner query none)) :
    refusal? (p.complete inner) = p.queries.findSome? fun query => refusal? (inner query none) := by
  cases p with
  | done e => rfl
  | single query key make =>
    rw [complete, queries, refusal?_map, h, List.findSome?_cons, List.findSome?_nil]
    cases refusal? (inner query none) <;> rfl
  | several queries make => exact (refusal?_map _ _).trans (refusal?_mapM _ _)

/-- What refuses a clause is what is wrong with it, or else what refuses a query
that it holds. -/
theorem refusal?_compileClause (registry : Registry) {inner : Inner} (key : String) (clause : Value)
    (h : ∀ query key, refusal? (inner query key) = refusal? (inner query none)) :
    refusal? (compileClause registry inner (key, clause)) =
      match content registry key clause with
      | .error e => some e
      | .ok queries => queries.findSome? fun query => refusal? (inner query none) := by
  rw [compileClause_eq, ← map_plan]
  cases plan registry (key, clause) with
  | error e => rfl
  | ok p => exact (refusal?_map _ _).trans (p.refusal?_complete h)

theorem findSome?_flatMap {α β γ : Type} (f : β → Option γ) (g : α → List β) (as : List α) :
    (as.flatMap g).findSome? f = as.findSome? fun a => (g a).findSome? f := by
  induction as with
  | nil => rfl
  | cons a rest ih =>
    rw [List.flatMap_cons, List.findSome?_append, List.findSome?_cons, ih]
    cases (g a).findSome? f <;> rfl

/-- With room for the depths from `depth` up to the limit, what refuses a query is
the first of its points at which something is wrong. -/
theorem refusal?_compileStatement (registry : Registry) (limit : Nat) {room depth : Nat}
    (hroom : depth + room = limit + 1) (query : Value) (key : Option String) :
    refusal? (compileStatement registry limit room query key) =
      (visited registry limit depth query).findSome? (Point.fault? registry limit) := by
  induction room generalizing depth query key with
  | zero =>
    have hdeep : limit < depth := by omega
    rw [visited, List.findSome?_cons, Point.fault?, if_pos hdeep]
    rfl
  | succ room ih =>
    have hdeep : ¬limit < depth := by omega
    have hinner : depth + 1 + room = limit + 1 := by omega
    rw [compileStatement_succ, refusal?_map, compileExpressions, refusal?_mapM, clauses_eq_written]
    rw [visited, List.findSome?_cons, Point.fault?, if_neg hdeep, dif_neg hdeep]
    rw [findSome?_flatMap]
    congr 1
    funext field
    obtain ⟨name, clause⟩ := field
    have hkey : ∀ query key, refusal? (compileStatement registry limit room query key) =
        refusal? (compileStatement registry limit room query none) := by
      intro query key
      rw [ih hinner, ih hinner]
    rw [refusal?_compileClause registry name clause hkey, List.findSome?_cons, Point.fault?]
    cases content registry name clause with
    | error e => rfl
    | ok queries =>
      simp only [refusal?, findSome?_flatMap]
      congr 1
      funext query
      exact ih hinner query none

/-- A query is accepted exactly if nothing is wrong with any of its points, and a
query that is not accepted is refused for the first of them with which something
is wrong. -/
theorem compile_refused_for_first_fault (registry : Registry) (options : CompileOptions)
    (query : Value) :
    ((∃ s, compile registry options query = .ok s) ↔
        ∀ p ∈ visited registry options.depthLimit 0 query,
          p.fault? registry options.depthLimit = none) ∧
      ∀ e, compile registry options query = .error e ↔
        ∃ before p after, visited registry options.depthLimit 0 query = before ++ p :: after ∧
          (∀ q ∈ before, q.fault? registry options.depthLimit = none) ∧
          p.fault? registry options.depthLimit = some e := by
  have hrefusal : refusal? (compile registry options query) =
      (visited registry options.depthLimit 0 query).findSome?
        (Point.fault? registry options.depthLimit) := by
    rw [compile_eq, refusal?_map]
    exact refusal?_compileStatement registry _ (Nat.zero_add _) query none
  constructor
  · rw [← refusal?_eq_none, hrefusal, List.findSome?_eq_none_iff]
  · intro e
    rw [← refusal?_eq_some, hrefusal, List.findSome?_eq_some_iff]
    constructor
    · rintro ⟨before, p, after, hsplit, hp, hbefore⟩
      exact ⟨before, p, after, hsplit, hbefore, hp⟩
    · rintro ⟨before, p, after, hsplit, hbefore, hp⟩
      exact ⟨before, p, after, hsplit, hp, hbefore⟩

end Query
end DocQuery
