import DocQuery.Proofs.Query.Compilation
import DocQuery.Proofs.Statement.Depth

/-!
What the limit on nesting does. A query that compiles under some limit gives the
same statement under every limit that is not below the depth of this statement,
and is refused for its nesting under every other one. The argument compares two
ways of compiling of which the second goes through for some of the statements of
the first only; each clause, and each list of clauses, passes this on from the
statements in its expression.
-/

namespace DocQuery.Query

/-- The second way of compiling gives the statements of the first that satisfy `P`,
and refuses the queries of all others for the reason `e`. -/
def Restricts (P : Statement → Prop) [DecidablePred P] (e : QueryError) (f g : Inner) : Prop :=
  ∀ query key s, f query key = .ok s → g query key = if P s then .ok s else .error e

namespace Plan

/-- The expression that a plan makes holds the statements for the queries of the
plan, and no others. -/
def HoldsOwn : Plan → Prop
  | done e => e.statements = []
  | single _ _ make => ∀ s, (make s).statements = [s]
  | several _ make => ∀ statements, (make statements).statements = statements

variable {P : Statement → Prop} [DecidablePred P] {reason : QueryError} {f g : Inner}

theorem complete_restricts (h : Restricts P reason f g) {p : Plan} (hp : p.HoldsOwn)
    {e : Expression} (he : p.complete f = .ok e) :
    p.complete g = if ∀ s ∈ e.statements, P s then .ok e else .error reason := by
  cases p with
  | done e' =>
    cases he
    have hnone : ∀ s ∈ e.statements, P s := by
      intro s hs
      rw [hp] at hs
      cases hs
    rw [if_pos hnone]
    rfl
  | single query key make =>
    obtain ⟨s, hs, rfl⟩ := map_eq_ok.1 he
    rw [complete, h query (some key) s hs, hp s]
    simp only [List.mem_singleton, forall_eq]
    split <;> rfl
  | several queries make =>
    obtain ⟨statements, hs, rfl⟩ := map_eq_ok.1 he
    have hall := (mapM_eq_ok.1 hs).imp fun query s => h query none s
    rw [complete, mapM_eq_ite hall, hp statements]
    split <;> rfl

end Plan

theorem plan_holdsOwn {registry : Registry} {clause : String × Value} {p : Plan}
    (h : plan registry clause = .ok p) : p.HoldsOwn := by
  obtain ⟨key, clause⟩ := clause
  cases planned_of_plan h with
  | check | customValue => rfl
  | _ =>
    intro statements
    rfl

theorem statements_weighed (e : Expression) : e.weighed.statements = e.statements := by
  cases e <;> rfl

section Restriction

variable {P : Statement → Prop} [DecidablePred P] {reason : QueryError} {f g : Inner}

theorem compileClause_restricts (h : Restricts P reason f g) {registry : Registry}
    {clause : String × Value} {e : Expression} (he : compileClause registry f clause = .ok e) :
    compileClause registry g clause =
      if ∀ s ∈ e.statements, P s then .ok e else .error reason := by
  rw [compileClause_eq] at he ⊢
  obtain ⟨p, hp, he⟩ := bind_eq_ok.1 he
  obtain ⟨e, hcomplete, rfl⟩ := map_eq_ok.1 he
  have hg := Plan.complete_restricts h (plan_holdsOwn hp) hcomplete
  rw [hp, statements_weighed]
  change (p.complete g).map Expression.weighed = _
  rw [hg]
  split <;> rfl

end Restriction

/-- How a query is compiled with less room, or with more, than it has been compiled
with: room for as many statements as nest in the result, this one included, is
needed and is enough. -/
theorem compileStatement_restricts (registry : Registry) (limit limit' room room' : Nat) :
    Restricts (fun s => s.depth < room') (.nestingTooDeep limit')
      (compileStatement registry limit room) (compileStatement registry limit' room') := by
  induction room' generalizing room with
  | zero =>
    intro query key s _
    rw [if_neg (Nat.not_lt_zero _)]
    rfl
  | succ room' ih =>
    intro query key s hs
    cases room with
    | zero => cases hs
    | succ room =>
      rw [compileStatement_succ] at hs ⊢
      obtain ⟨expressions, he, rfl⟩ := map_eq_ok.1 hs
      have hclauses := (mapM_eq_ok.1 he).imp fun _ _ => compileClause_restricts (ih room)
      have hdepth : (Statement.mk expressions key).depth < room' + 1 ↔
          ∀ e ∈ expressions, ∀ s ∈ e.statements, s.depth < room' :=
        Nat.lt_succ_iff.trans Statement.depth_mk_le_iff
      rw [compileExpressions, mapM_eq_ite hclauses]
      simp only [hdepth]
      split <;> rfl

/-- The depth of a statement that has been compiled is the least limit on nesting
under which its query compiles. Under this limit and every larger one the result
is the same statement; under a smaller one the query is refused for its nesting. -/
theorem depth_is_least_limit (registry : Registry) (sorted : Bool) (limit : Nat) (query : Value)
    (s : Statement) (hs : compile registry ⟨sorted, limit⟩ query = .ok s) :
    s.depth ≤ limit ∧
      (∀ limit', s.depth ≤ limit' → compile registry ⟨sorted, limit'⟩ query = .ok s) ∧
      (∀ limit', limit' < s.depth →
        compile registry ⟨sorted, limit'⟩ query = .error (.nestingTooDeep limit')) ∧
      ∀ limit', limit ≤ limit' → compile registry ⟨sorted, limit'⟩ query = .ok s := by
  have hwithin : ∀ limit', compile registry ⟨sorted, limit'⟩ query =
      if s.depth ≤ limit' then .ok s else .error (.nestingTooDeep limit') := by
    intro limit'
    rw [compile_eq] at hs ⊢
    obtain ⟨written, hwritten, rfl⟩ := map_eq_ok.1 hs
    have hdepth : (if sorted then written.reorder else written).depth = written.depth := by
      split
      · exact written.depth_reorder
      · rfl
    have hroom := compileStatement_restricts registry limit limit' (limit + 1) (limit' + 1)
      query none written hwritten
    rw [hroom, hdepth]
    simp only [Nat.lt_succ_iff]
    by_cases hfits : written.depth ≤ limit'
    · rw [if_pos hfits, if_pos hfits]
      rfl
    · rw [if_neg hfits, if_neg hfits]
      rfl
  have hle : s.depth ≤ limit := by
    by_contra hdeep
    have hrefused := hwithin limit
    rw [if_neg hdeep, hs] at hrefused
    cases hrefused
  refine ⟨hle, fun limit' h => ?_, fun limit' h => ?_, fun limit' h => ?_⟩
  · rw [hwithin, if_pos h]
  · rw [hwithin, if_neg (Nat.not_le.2 h)]
  · rw [hwithin, if_pos (hle.trans h)]

/-- A path of two fields, with a list of queries below it, needs a limit of 3; an
empty list needs nothing. -/
theorem depth_of_listed_path :
    let query : Value := .object [("$or", .array []),
      ("a.b", .singleton "$and" (.array [.null, .singleton "$nor" (.array [])]))]
    ∃ s, compile .standard ⟨false, 9⟩ query = .ok s ∧ s.depth = 3 ∧
      compile .standard ⟨false, 3⟩ query = .ok s ∧
      compile .standard ⟨false, 2⟩ query = .error (.nestingTooDeep 2) := by
  intro query
  have hs : ∃ s, compile .standard ⟨false, 9⟩ query = .ok s ∧ s.depth = 3 := ⟨_, rfl, rfl⟩
  obtain ⟨s, hs, hdepth⟩ := hs
  obtain ⟨-, hsame, hrefused, -⟩ := depth_is_least_limit .standard false 9 query s hs
  exact ⟨s, hs, hdepth, hsame 3 hdepth.le, hrefused 2 (hdepth ▸ Nat.lt_succ_self 2)⟩

end DocQuery.Query
