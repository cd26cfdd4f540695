import DocQuery.Proofs.Query.Plan

/-!
What the result of compiling a statement depends on. A statement that has been
compiled stays the same when more statements may nest and whatever the limit is
called in reports; the key goes into the statement as it is and decides
nothing. A key that is no operator's name is a field in every registry.
-/

namespace DocQuery.Query

/-- Whatever the first way of compiling accepts, the second accepts with the
same result. -/
def Extends (f g : Inner) : Prop :=
  ∀ query key s, f query key = .ok s → g query key = .ok s

theorem Plan.complete_mono {f g : Inner} (h : Extends f g) {p : Plan} {e : Expression}
    (hp : p.complete f = .ok e) : p.complete g = .ok e := by
  cases p with
  | done e => exact hp
  | single query key make =>
    obtain ⟨s, hs, rfl⟩ := map_eq_ok.1 hp
    exact map_eq_ok.2 ⟨s, h _ _ _ hs, rfl⟩
  | several queries make =>
    obtain ⟨statements, hs, rfl⟩ := map_eq_ok.1 hp
    have hall := (mapM_eq_ok.1 hs).imp fun query s => h query none s
    exact map_eq_ok.2 ⟨statements, mapM_eq_ok.2 hall, rfl⟩

theorem compileClause_mono {f g : Inner} (h : Extends f g) {registry : Registry}
    {clause : String × Value} {e : Expression}
    (he : compileClause registry f clause = .ok e) : compileClause registry g clause = .ok e := by
  rw [compileClause_eq] at he ⊢
  obtain ⟨p, hp, he⟩ := bind_eq_ok.1 he
  obtain ⟨e, hcomplete, rfl⟩ := map_eq_ok.1 he
  exact bind_eq_ok.2 ⟨p, hp, map_eq_ok.2 ⟨e, Plan.complete_mono h hcomplete, rfl⟩⟩

section Statements

variable (registry : Registry)

/-- The expressions of a query in which `room` more statements may nest. -/
def compileExpressions (limit room : Nat) (query : Value) : Except QueryError (List Expression) :=
  (clauses query).mapM (compileClause registry (compileStatement registry limit room))

theorem clauses_eq_equality {v : Value} (hv : ∀ fields, v ≠ .object fields) :
    clauses v = clauses (.singleton Builtin.eq.name v) := by
  cases v with
  | object fields => exact absurd rfl (hv fields)
  | _ => rfl

theorem compileExpressions_singleton (limit room : Nat) (key : String) (clause : Value) :
    compileExpressions registry limit room (.singleton key clause) =
      (compileClause registry (compileStatement registry limit room) (key, clause)).map
        fun e => [e] := by
  change List.mapM (compileClause registry (compileStatement registry limit room)) [(key, clause)] = _
  rw [List.mapM_cons, List.mapM_nil]
  cases compileClause registry (compileStatement registry limit room) (key, clause) <;> rfl

theorem compileStatement_succ (limit room : Nat) (query : Value) (key : Option String) :
    compileStatement registry limit (room + 1) query key =
      (compileExpressions registry limit room query).map (.mk · key) := by
  rw [compileStatement, compileExpressions]
  cases (clauses query).mapM (compileClause registry (compileStatement registry limit room)) <;> rfl

theorem compileStatement_singleton {name : String} {clause : Value} {p : Plan}
    (hp : plan registry (name, clause) = .ok p) (limit room : Nat) (key : Option String) :
    compileStatement registry limit (room + 1) (.singleton name clause) key =
      (p.complete (compileStatement registry limit room)).map fun e => .mk [e.weighed] key := by
  rw [compileStatement_succ, compileExpressions_singleton, compileClause_eq, hp]
  change (((p.complete _).map Expression.weighed).map _).map _ = _
  cases p.complete (compileStatement registry limit room) <;> rfl

/-- A clause that holds one query compiles if this does. -/
theorem compileStatement_singleton_single {name within : String} {clause query : Value}
    {make : Statement → Expression}
    (hp : plan registry (name, clause) = .ok (.single query within make)) (limit room : Nat)
    (key : Option String) :
    compileStatement registry limit (room + 1) (.singleton name clause) key =
      (compileStatement registry limit room query (some within)).map
        fun s => .mk [(make s).weighed] key := by
  rw [compileStatement_singleton registry hp, Plan.complete]
  cases compileStatement registry limit room query (some within) <;> rfl

theorem compileStatement_singleton_several {name : String} {clause : Value} {queries : List Value}
    {make : List Statement → Expression}
    (hp : plan registry (name, clause) = .ok (.several queries make)) (limit room : Nat)
    (key : Option String) :
    compileStatement registry limit (room + 1) (.singleton name clause) key =
      (queries.mapM fun query => compileStatement registry limit room query none).map
        fun statements => .mk [(make statements).weighed] key := by
  rw [compileStatement_singleton registry hp, Plan.complete]
  cases queries.mapM fun query => compileStatement registry limit room query none <;> rfl

theorem compileStatement_singleton_refused {name : String} {clause : Value} {e : QueryError}
    (hp : plan registry (name, clause) = .error e) (limit room : Nat) (key : Option String) :
    compileStatement registry limit (room + 1) (.singleton name clause) key = .error e := by
  rw [compileStatement_succ, compileExpressions_singleton, compileClause_eq, hp]
  rfl

/-- A query that compiles does so with any key, and only the key changes. -/
theorem compileStatement_withKey (limit room : Nat) (query : Value) (key key' : Option String) :
    compileStatement registry limit room query key' =
      (compileStatement registry limit room query key).map fun s => .mk s.expressions key' := by
  cases room with
  | zero => rfl
  | succ room =>
    rw [compileStatement_succ, compileStatement_succ]
    cases compileExpressions registry limit room query <;> rfl

theorem compileStatement_mono {limit limit' room room' : Nat} (h : room ≤ room') :
    Extends (compileStatement registry limit room) (compileStatement registry limit' room') := by
  induction room generalizing room' with
  | zero =>
    intro query key s hs
    cases hs
  | succ room ih =>
    intro query key s hs
    cases room' with
    | zero => omega
    | succ room' =>
      rw [compileStatement_succ] at hs ⊢
      obtain ⟨expressions, he, rfl⟩ := map_eq_ok.1 hs
      refine map_eq_ok.2 ⟨expressions, ?_, rfl⟩
      have hinner := ih (Nat.le_of_succ_le_succ h)
      exact mapM_eq_ok.2 ((mapM_eq_ok.1 he).imp fun _ _ => compileClause_mono hinner)

end Statements

/-- The names of all operators are signed, so any other key is a field. -/
theorem resolve_field (registry : Registry) {key : String} (h : isOperatorName key = false) :
    resolve registry key = .ok (.builtin .traverse) := by
  have hnone : registry.lookup key = none := by
    rw [Option.eq_none_iff_forall_ne_some]
    intro op hop
    have hsigned := Registry.signed_of_lookup hop
    rw [h] at hsigned
    cases hsigned
  rw [resolve, hnone]
  simp only [h, Bool.false_eq_true, if_false]

theorem plan_builtIn {registry : Registry} {b : Builtin} (h : registry.HasBuiltIn b)
    (clause : Value) : plan registry (b.name, clause) = planBuiltin b b.name clause := by
  rw [plan, resolve, h]
  rfl

theorem compile_eq (registry : Registry) (options : CompileOptions) (query : Value) :
    compile registry options query =
      (compileStatement registry options.depthLimit (options.depthLimit + 1) query none).map
        fun s => if options.reorder then s.reorder else s := by
  unfold compile
  cases compileStatement registry options.depthLimit (options.depthLimit + 1) query none <;> rfl

end DocQuery.Query
