import DocQuery.Proofs.Query.Acceptance

/-!
What the keys of a query stand for, and which names of a registry matter to a query.
A key is looked up as it is written; a path is followed by objects whose keys are the
parts of the path, and these are looked up in their turn; and whatever is no object
asks for the operator of equality. No other name is ever looked up, so registries that
agree on these compile a query alike, down to its refusal. What else is added to a
registry, put in the place of an operator or taken away does not show.
-/

namespace DocQuery

/-- After any run of changes, a name stands for what the last change under it has left, or
else for what it stood for at first: nothing, or the built-in operator of that name. What a
name stands for is an operator of that name, which begins with a dollar sign, and taking an
operator away gives it back. Hence a key without the sign stands for a field, even where the
operator for fields was replaced or is gone. -/
theorem Registry.holds_last_changes (start : Registry) (changes : List Registry.Change) :
    (∀ name op, (start.after changes).lookup name = some op →
        name.toList.head? = some '$' ∧ op.name = name) ∧
      (∀ name, (start.after changes).lookup name =
        match lastChange? changes name with
        | some change => change.left
        | none => start.lookup name) ∧
      (∀ name, ((start.after changes).unregister name).1 =
        (start.after changes).lookup (signedName name)) ∧
      (start.after changes).size =
        {name | ((start.after changes).lookup name).isSome = true}.ncard ∧
      (∀ key, key.toList.head? ≠ some '$' →
        Query.resolve (start.after changes) key = .ok (.builtin .traverse)) ∧
      (∀ name, empty.lookup name = none) ∧
      ∀ name op, standard.lookup name = some op ↔ ∃ b, op = .builtin b ∧ b.name = name := by
  refine ⟨?_, start.lookup_after changes, ?_, (start.after changes).size_eq_ncard, ?_,
    fun _ => rfl, fun _ _ => lookup_standard_iff⟩
  · intro name op hop
    exact ⟨isOperatorName_iff.mp (signed_of_lookup hop), name_of_lookup hop⟩
  · intro name
    rw [← canonicalName_eq_signedName]
    rfl
  · intro key hkey
    exact Query.resolve_field _ (isOperatorName_eq_false_iff.mpr hkey)

namespace Value

/-- The name is a key somewhere in the value, or a part of one between points. -/
def Mentions (v : Value) (name : String) : Prop :=
  ∃ fields, Part (object fields) v ∧
    ∃ field ∈ fields, field.1 = name ∨ name.toList ∈ Path.parts field.1.toList

theorem Mentions.of_part {u v : Value} {name : String} (h : u.Mentions name) (huv : Part u v) :
    v.Mentions name := by
  obtain ⟨fields, hpart, hfield⟩ := h
  exact ⟨fields, hpart.trans huv, hfield⟩

theorem mentions_singleton_iff {key name : String} {v : Value} :
    (singleton key v).Mentions name ↔
      (key = name ∨ name.toList ∈ Path.parts key.toList) ∨ v.Mentions name := by
  constructor
  · rintro ⟨fields, hpart, field, hfield, hname⟩
    cases hpart with
    | self =>
      rw [List.mem_singleton.mp hfield] at hname
      exact Or.inl hname
    | field hmem hwithin =>
      rw [List.mem_singleton.mp hmem] at hwithin
      exact Or.inr ⟨fields, hwithin, field, hfield, hname⟩
  · rintro (hname | hv)
    · exact ⟨_, .self _, _, List.mem_singleton_self _, hname⟩
    · exact hv.of_part (.field (List.mem_singleton_self (key, v)) (.self v))

end Value

namespace Query

/-- Objects around a query mention their keys, apart from what the query mentions. -/
theorem mentions_enclosed {segments : List (List Char)} (h : ∀ s ∈ segments, '.' ∉ s)
    {clause : Value} {name : String}
    (hname : (enclosed segments clause).Mentions name) :
    name.toList ∈ segments ∨ clause.Mentions name := by
  induction segments with
  | nil => exact Or.inr hname
  | cons segment rest ih =>
    obtain ⟨hsegment, hrest⟩ := List.forall_mem_cons.mp h
    have hparts := Path.parts_ofList hsegment
    rcases Value.mentions_singleton_iff.mp hname with hkey | hwithin
    · left
      rw [hparts, List.mem_singleton] at hkey
      rcases hkey with rfl | hkey
      · rw [String.toList_ofList]
        exact List.mem_cons_self
      · rw [hkey]
        exact List.mem_cons_self
    · rcases ih hrest hwithin with hmem | hclause
      · exact Or.inl (List.mem_cons_of_mem segment hmem)
      · exact Or.inr hclause

/-- What is mentioned in the queries that a clause holds is mentioned where the clause
is written. -/
theorem mentions_of_content {registry : Registry} {whole clause query : Value} {key name : String}
    {queries : List Value} (hclause : (key, clause) ∈ clauses whole)
    (h : content registry key clause = .ok queries) (hquery : query ∈ queries)
    (hname : query.Mentions name) : whole.Mentions name := by
  have horigin : name.toList ∈ (Path.parts key.toList).tail ∨ clause.Mentions name := by
    rcases content_origin h hquery with hpart | rfl
    · exact Or.inr (hname.of_part hpart)
    · apply mentions_enclosed ?_ hname
      intro segment hsegment
      exact Path.not_mem_of_mem_parts (List.mem_of_mem_tail hsegment)
  cases whole with
  | object fields =>
    rcases horigin with hsegment | hwithin
    · exact ⟨fields, .self _, _, hclause, Or.inr (List.mem_of_mem_tail hsegment)⟩
    · exact hwithin.of_part (.field hclause (.self clause))
  | _ =>
    cases List.mem_singleton.mp hclause
    rcases horigin with hsegment | hwithin
    · have hone : (Path.parts Builtin.eq.name.toList).tail = [] := by decide
      rw [hone] at hsegment
      cases hsegment
    · exact hwithin

section Agreement

variable {r r' : Registry}

theorem plan_congr {clause : String × Value} (h : r.lookup clause.1 = r'.lookup clause.1) :
    plan r clause = plan r' clause := by
  rw [plan, plan, resolve, resolve, h]

theorem Plan.complete_congr {f g : Inner} {p : Plan}
    (h : ∀ query ∈ p.queries, ∀ key, f query key = g query key) :
    p.complete f = p.complete g := by
  cases p with
  | done e => rfl
  | single query key make => rw [complete, complete, h query (List.mem_singleton_self query)]
  | several queries make =>
    have hqueries : queries.mapM (f · none) = queries.mapM (g · none) := by
      apply mapM_congr
      intro query hquery
      exact h query hquery none
    rw [complete, complete, hqueries]

/-- A clause is compiled alike if its key stands for the same and its queries are
compiled alike. -/
theorem compileClause_congr {f g : Inner} {key : String} {clause : Value}
    (hkey : r.lookup key = r'.lookup key)
    (h : ∀ queries, content r key clause = .ok queries →
      ∀ query ∈ queries, ∀ within, f query within = g query within) :
    compileClause r f (key, clause) = compileClause r' g (key, clause) := by
  have hplan : plan r (key, clause) = plan r' (key, clause) := plan_congr hkey
  rw [compileClause_eq, compileClause_eq, ← hplan]
  cases hp : plan r (key, clause) with
  | error e => rfl
  | ok p =>
    have hcontent : content r key clause = .ok p.queries := by
      rw [← map_plan, hp]
      rfl
    change (p.complete f).map _ = (p.complete g).map _
    rw [Plan.complete_congr (h p.queries hcontent)]

theorem compileStatement_congr (hequality : r.lookup Builtin.eq.name = r'.lookup Builtin.eq.name)
    {query : Value} (h : ∀ name, query.Mentions name → r.lookup name = r'.lookup name)
    (limit room : Nat) (key : Option String) :
    compileStatement r limit room query key = compileStatement r' limit room query key := by
  induction room generalizing query key with
  | zero => rfl
  | succ room ih =>
    rw [compileStatement_succ, compileStatement_succ, compileExpressions, compileExpressions]
    congr 1
    apply mapM_congr
    rintro ⟨name, clause⟩ hclause
    apply compileClause_congr
    · cases query with
      | object fields => exact h name ⟨fields, .self _, _, hclause, Or.inl rfl⟩
      | _ =>
        cases List.mem_singleton.mp hclause
        exact hequality
    · intro queries hcontent inner hinner within
      apply ih
      intro other hother
      exact h other (mentions_of_content hclause hcontent hinner hother)

/-- Registries that agree on equality and on all names that a query mentions compile
the query alike. -/
theorem compile_congr (hequality : r.lookup Builtin.eq.name = r'.lookup Builtin.eq.name)
    {query : Value} (h : ∀ name, query.Mentions name → r.lookup name = r'.lookup name)
    (options : CompileOptions) : compile r options query = compile r' options query := by
  rw [compile_eq, compile_eq, compileStatement_congr hequality h]

end Agreement

/-- A change under a name that a query does not mention, and that is not the name of
equality, makes no difference to the query: it is refused for the same reason, or
compiles to the same statement with the same operators. -/
theorem unmentioned_change_is_immaterial (registry : Registry) (options : CompileOptions)
    (query : Value) (change : Registry.Change) (hequality : change.name ≠ Builtin.eq.name)
    (hquery : ¬query.Mentions change.name) :
    compile (change.apply registry) options query = compile registry options query := by
  have hother : ∀ name, name ≠ change.name →
      (change.apply registry).lookup name = registry.lookup name := by
    intro name hname
    rw [change.lookup_apply registry, if_neg hname]
  apply compile_congr
  · exact hother _ (Ne.symm hequality)
  · intro name hname
    apply hother
    rintro rfl
    exact hquery hname

/-- The operator for fields is replaced; a query of fields alone does not mention it. -/
theorem replaced_traversal_is_immaterial :
    let change := Registry.Change.register ⟨"trav", true, none, fun _ _ _ => .answer true⟩
    let query := Value.singleton "a.b" (.array [.string "$trav"])
    change.name = Builtin.traverse.name ∧
      compile (change.apply .standard) {} query = compile .standard {} query := by
  intro change query
  have hname : change.name = "$trav" := by decide
  have hquery : ¬query.Mentions change.name := by
    rw [hname, Value.mentions_singleton_iff]
    rintro (hkey | ⟨fields, hpart, -⟩)
    · revert hkey
      decide
    · cases hpart with
      | item hmem hwithin =>
        cases List.mem_singleton.mp hmem
        cases hwithin
  have hequality : change.name ≠ Builtin.eq.name := by
    rw [hname]
    decide
  exact ⟨hname, unmentioned_change_is_immaterial .standard {} query change hequality hquery⟩

end Query
end DocQuery
