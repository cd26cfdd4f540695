import DocQuery.Proofs.Query.Compilation
import DocQuery.Proofs.Statement.Likeness

/-!
Compiling queries that differ only in the order of object keys. With built-in
operators alone both are accepted or both are refused, and the statements weigh
the same and answer alike. The argument follows the compiler: operands give like
tests, clauses give like plans, and like plans are completed to like expressions,
whatever the order in which the clauses are written.
-/

namespace DocQuery

open Value (Part Rearranged)

variable {known : Predicate → Prop} {v w : Value}

/-- The operands, or queries, differ only in the order of object keys, and hold known
predicates alone. -/
structure SameOperand (known : Predicate → Prop) (v w : Value) : Prop where
  wellFormed : v.WellFormed
  rearranged : v.Rearranged w
  predicates : ∀ p, Part (.predicate p) v → known p

namespace SameOperand

theorem of_part {q r : Value} (h : SameOperand known q r) (hv : Part v q)
    (hvw : v.Rearranged w) : SameOperand known v w where
  wellFormed := h.wellFormed.part hv
  rearranged := hvw
  predicates p hp := h.predicates p (hp.trans hv)

theorem normalizeOperand (h : SameOperand known v w) :
    SameOperand known v.normalizeOperand w.normalizeOperand := by
  rw [Value.normalizeOperand_eq, Value.normalizeOperand_eq]
  exact ⟨h.wellFormed.normalize, h.rearranged.normalize, fun p hp => h.predicates p hp.of_normalize⟩

theorem items {items others : List Value} (h : SameOperand known (.array items) (.array others)) :
    List.Forall₂ (SameOperand known) items others := by
  obtain ⟨_, heq, hitems⟩ := h.rearranged.of_array
  cases heq
  exact forall₂_imp hitems fun v hv w _ hvw => h.of_part (.item hv (.self v)) hvw

theorem singleton (h : SameOperand known v w) (key : String) :
    SameOperand known (.singleton key v) (.singleton key w) where
  wellFormed := Value.wellFormed_singleton h.wellFormed
  rearranged := h.rearranged.singleton key
  predicates p hp := by
    cases hp with
    | field hmem hp =>
      rw [List.mem_singleton.1 hmem] at hp
      exact h.predicates p hp

theorem nested (h : SameOperand known v w) (segments : List String) :
    SameOperand known (Query.nested segments v) (Query.nested segments w) := by
  induction segments with
  | nil => exact h
  | cons segment rest ih => exact ih.singleton segment

end SameOperand

/-! Operands that give the same result, or results that are compared one by one. -/

namespace Operand

theorem size_eq (h : v.Rearranged w) : size v = size w := by
  cases h with
  | same | object => rfl
  | array hitems => exact congrArg Except.ok hitems.length_eq

theorem division_eq (h : v.Rearranged w) : division v = division w := by
  cases h with
  | same | object => rfl
  | array hitems =>
    rcases hitems with _ | ⟨hfirst, _ | ⟨hsecond, _ | _⟩⟩
    · rfl
    · rfl
    · rw [division, division, hfirst.number?_eq, hsecond.number?_eq]
    · rfl

theorem pattern_eq (h : v.Rearranged w) : pattern v = pattern w := by
  cases h <;> rfl

theorem predicate_eq (h : v.Rearranged w) : predicate v = predicate w := by
  cases h <;> rfl

theorem valueType_eq (h : v.Rearranged w) : valueType v = valueType w := by
  cases h <;> rfl

theorem members_alike (h : v.Rearranged w) :
    Alike (List.Forall₂ Rearranged) (members v) (members w) := by
  cases v with
  | array items =>
    obtain ⟨others, rfl, hitems⟩ := h.of_array
    exact .done hitems
  | _ => cases h <;> exact .refused _ _

end Operand

namespace SameCheck

theorem matcher_value_eq {answers : Answers} {x y : Value} (h : SameOperand known v w)
    (hxy : SameDatum answers known x y) :
    ((Matcher.ofValue v).run answers x.normalize x).value =
      ((Matcher.ofValue w).run answers y.normalize y).value := by
  have hliteral : equalsLiteral v x.normalize = equalsLiteral w y.normalize :=
    equalsLiteral_eq h.rearranged h.wellFormed hxy.rearranged.normalize
  have hvw := h.rearranged
  cases v with
  | regex p =>
    cases hvw
    exact matchesValue_eq p hxy.rearranged
  | predicate p =>
    cases hvw
    exact hxy.blind p (h.predicates p (.self _)) x y (.self x) (.self y) hxy.rearranged
  | _ =>
    cases hvw
    all_goals exact hliteral

theorem matcher_magnitude_eq (h : v.Rearranged w) :
    (Matcher.ofValue v).magnitude = (Matcher.ofValue w).magnitude := by
  have hvalue : ∀ u, (Matcher.ofValue u).magnitude = u.magnitude := fun u => by cases u <;> rfl
  rw [hvalue, hvalue, h.magnitude_eq]

theorem members_magnitude_eq {members others : List Value}
    (h : List.Forall₂ Rearranged members others) :
    boundedSum (members.map Value.magnitude) = boundedSum (others.map Value.magnitude) := by
  rw [map_eq_of_forall₂ h fun v _ w hvw => hvw.magnitude_eq]

end SameCheck

private theorem alike_map {α : Type} {x y : Except OperandFault α} {make : α → Check} (h : x = y)
    (hself : ∀ a, x = .ok a → SameCheck known (make a) (make a)) :
    Alike (SameCheck known) (x.map make) (y.map make) := by
  refine .of_eq (congrArg _ h) fun check hcheck => ?_
  obtain ⟨a, ha, rfl⟩ := map_eq_ok.1 hcheck
  exact hself a ha

theorem SameOperand.prepare (h : SameOperand known v w) (b : Builtin) :
    Alike (SameCheck known) (b.prepare v) (b.prepare w) := by
  have hvw := h.rearranged
  cases b with
  | eq =>
    refine .done ⟨rfl, SameCheck.matcher_magnitude_eq hvw, fun hxy => ?_⟩
    exact SameCheck.matcher_value_eq h hxy
  | ne =>
    refine .done ⟨rfl, SameCheck.matcher_magnitude_eq hvw, fun hxy => ?_⟩
    exact congrArg Bool.not (SameCheck.matcher_value_eq h hxy)
  | lt | lte | gt | gte =>
    refine .done ⟨rfl, hvw.magnitude_eq, fun hxy => ?_⟩
    exact relation_test_eq _ hvw hxy.rearranged.normalize
  | present =>
    rw [Builtin.prepare, Builtin.prepare, hvw.isTruthy_eq]
    refine .done ⟨rfl, rfl, fun hxy => ?_⟩
    exact congrArg (fun b => w.isTruthy == !b) hxy.rearranged.normalize.isNullish_eq
  | size =>
    refine alike_map (Operand.size_eq hvw) fun n _ => ?_
    exact ⟨rfl, rfl, fun hxy => congrArg (· == some n) hxy.rearranged.normalize.length?_eq⟩
  | modulo =>
    refine alike_map (Operand.division_eq hvw) fun pair _ => ?_
    exact ⟨rfl, rfl, fun hxy => leavesRemainder_eq _ _ hxy.rearranged.normalize⟩
  | isIn =>
    refine (Operand.members_alike hvw).map fun members others hmembers => ?_
    refine ⟨rfl, SameCheck.members_magnitude_eq hmembers, fun hxy => ?_⟩
    exact isAmong_eq hmembers hxy.rearranged.normalize hxy.wellFormed.normalize
  | notIn =>
    refine (Operand.members_alike hvw).map fun members others hmembers => ?_
    refine ⟨rfl, SameCheck.members_magnitude_eq hmembers, fun hxy => congrArg Bool.not ?_⟩
    exact isAmong_eq hmembers hxy.rearranged.normalize hxy.wellFormed.normalize
  | all =>
    refine (Operand.members_alike hvw).map fun members others hmembers => ?_
    refine ⟨rfl, SameCheck.members_magnitude_eq hmembers, fun hxy => ?_⟩
    exact hasAllOf_eq hmembers hxy.rearranged.normalize hxy.wellFormed.normalize
  | regex =>
    refine alike_map (Operand.pattern_eq hvw) fun p _ => ?_
    exact ⟨rfl, rfl, fun hxy => matchesValue_eq p hxy.rearranged⟩
  | satisfies =>
    refine alike_map (Operand.predicate_eq hvw) fun p hp => ?_
    have hpart : Part (.predicate p) v := by
      cases v with
      | predicate q =>
        cases hp
        exact .self _
      | _ => cases hp
    refine ⟨rfl, rfl, fun {_ x y} hxy => ?_⟩
    exact hxy.blind p (h.predicates p hpart) x y (.self x) (.self y) hxy.rearranged
  | hasType =>
    refine alike_map (Operand.valueType_eq hvw) fun t _ => ?_
    exact ⟨rfl, rfl, fun hxy => congrArg (· == some t) hxy.rearranged.type?_eq⟩
  | and | or | nor | not | traverse => exact .refused _ _

namespace Query

/-- The clauses of queries that differ only in the order of keys are alike, when they
are brought into one order. -/
theorem clauses_alike {q r : Value} (h : SameOperand known q r) :
    ∃ middle, List.Forall₂ (fun c d => c.1 = d.1 ∧ SameOperand known c.2 d.2) (clauses q) middle ∧
      middle.Perm (clauses r) := by
  have hvw := h.rearranged
  cases q with
  | object fields =>
    obtain ⟨middle, others, rfl, hfields, hperm⟩ := hvw.of_object
    refine ⟨middle, forall₂_imp hfields fun f hf g _ hfg => ?_, hperm⟩
    exact ⟨hfg.1, h.of_part (.field hf (.self f.2)) hfg.2⟩
  | array items =>
    obtain ⟨others, rfl, -⟩ := hvw.of_array
    exact ⟨[(Builtin.eq.name, .array others)], .cons ⟨rfl, h⟩ .nil, .refl _⟩
  | _ =>
    cases hvw
    exact ⟨_, .cons ⟨rfl, h⟩ .nil, .refl _⟩

/-- Plans that leave like queries to compile and make like expressions of like
statements. -/
inductive SamePlan (known : Predicate → Prop) : Plan → Plan → Prop
  | done {e f : Expression} (h : SameExpression known e f) : SamePlan known (.done e) (.done f)
  | single {q r : Value} {make : Statement → Expression} (key : String)
    (h : SameOperand known q r)
    (hmake : ∀ {s t}, SameStatement known s t → SameExpression known (make s) (make t)) :
    SamePlan known (.single q key make) (.single r key make)
  | several {qs rs : List Value} {make : List Statement → Expression}
    (h : List.Forall₂ (SameOperand known) qs rs)
    (hmake : ∀ {ss ts}, List.Forall₂ (SameStatement known) ss ts →
      SameExpression known (make ss) (make ts)) :
    SamePlan known (.several qs make) (.several rs make)

theorem ofOperand_alike (b : Builtin) {x y : Except OperandFault Check}
    (h : Alike (SameCheck known) x y) :
    Alike (SameCheck known) (ofOperand b x) (ofOperand b y) := by
  cases h with
  | refused e e' => exact .refused _ _
  | done h => exact .done h

theorem planList_alike (operator : String) (kind : Junction) (h : SameOperand known v w) :
    Alike (SamePlan known) (planList operator (.junction kind · 0) v)
      (planList operator (.junction kind · 0) w) := by
  have hvw := h.rearranged
  cases v with
  | array items =>
    obtain ⟨others, rfl, -⟩ := hvw.of_array
    exact .done (.several h.items fun hst => .junction kind hst 0)
  | _ => cases hvw <;> exact .refused _ _

theorem planBuiltin_alike (b : Builtin) (key : String) (h : SameOperand known v w) :
    Alike (SamePlan known) (planBuiltin b key v) (planBuiltin b key w) := by
  have hprepared : Alike (SamePlan known)
      ((ofOperand b (b.prepare v.normalizeOperand)).map fun check => Plan.done (.check check 0))
      ((ofOperand b (b.prepare w.normalizeOperand)).map fun check => Plan.done (.check check 0)) :=
    (ofOperand_alike b (h.normalizeOperand.prepare b)).map fun c d hcd => .done (.check hcd 0)
  cases b with
  | and | or | nor => exact planList_alike _ _ h
  | not =>
    have hvw := h.rearranged
    cases v with
    | object fields =>
      obtain ⟨_, _, rfl, -, -⟩ := hvw.of_object
      exact .done (.single key h fun hst => .negation hst 0)
    | regex p =>
      cases hvw
      exact .done (.single key h fun hst => .negation hst 0)
    | _ => cases hvw <;> exact .refused _ _
  | traverse =>
    rw [planBuiltin, planBuiltin, expand, expand]
    by_cases hdotted : Path.isDotted key = true
    · rw [if_pos hdotted, if_pos hdotted]
      cases Path.segments? key with
      | none => exact .refused _ _
      | some segments =>
        cases segments with
        | nil => exact .refused _ _
        | cons first rest =>
          exact .done (.single first (h.nested rest) fun hst => .traversal hst first 0)
    · rw [if_neg hdotted, if_neg hdotted]
      exact .done (.single key h fun hst => .traversal hst key 0)
  | _ => exact hprepared

section Compilation

variable {inner : Inner}
  (hinner : ∀ {q r} key, SameOperand known q r →
    Alike (SameStatement known) (inner q key) (inner r key))

include hinner

theorem SamePlan.complete_alike {p p' : Plan} (h : SamePlan known p p') :
    Alike (SameExpression known) (p.complete inner) (p'.complete inner) := by
  cases h with
  | done h => exact .done h
  | single key h hmake => exact (hinner (some key) h).map fun _ _ hst => hmake hst
  | several h hmake =>
    exact (Alike.mapM h fun q r hqr => hinner none hqr).map fun _ _ hst => hmake hst

theorem compileClause_alike {registry : Registry}
    (hbuiltin : ∀ op ∈ registry.operators, ∃ b, op = .builtin b) (key : String)
    (h : SameOperand known v w) :
    Alike (SameExpression known) (compileClause registry inner (key, v))
      (compileClause registry inner (key, w)) := by
  have hresolve : ∀ op, resolve registry key = .ok op → ∃ b, op = .builtin b := by
    intro op hop
    rw [resolve] at hop
    cases hfound : registry.lookup key with
    | some found =>
      rw [hfound] at hop
      cases hop
      exact hbuiltin op (List.mem_of_find?_eq_some hfound)
    | none =>
      rw [hfound] at hop
      by_cases hname : isOperatorName key = true
      · simp only [if_pos hname, reduceCtorEq] at hop
      · simp only [if_neg hname, Except.ok.injEq] at hop
        exact ⟨.traverse, hop.symm⟩
  have hplan : Alike (SamePlan known) (plan registry (key, v)) (plan registry (key, w)) := by
    rw [plan, plan]
    cases hop : resolve registry key with
    | error e => exact .refused e e
    | ok op =>
      obtain ⟨b, rfl⟩ := hresolve op hop
      exact planBuiltin_alike b key h
  rw [compileClause_eq, compileClause_eq]
  refine hplan.bind fun p p' hp => ?_
  exact (hp.complete_alike hinner).map fun e f hef => hef.weighed

end Compilation

/-- Queries that are alike compile to statements that are alike, or not at all. -/
theorem compileStatement_alike {registry : Registry}
    (hbuiltin : ∀ op ∈ registry.operators, ∃ b, op = .builtin b) (limit room : Nat) {q r : Value}
    (key : Option String) (h : SameOperand known q r) :
    Alike (SameStatement known) (compileStatement registry limit room q key)
      (compileStatement registry limit room r key) := by
  induction room generalizing q r key with
  | zero => exact .refused _ _
  | succ room ih =>
    obtain ⟨middle, hclauses, hperm⟩ := clauses_alike h
    rw [compileStatement_succ, compileStatement_succ, compileExpressions, compileExpressions]
    have hone : Alike (List.Forall₂ (SameExpression known))
        ((clauses q).mapM (compileClause registry (compileStatement registry limit room)))
        (middle.mapM (compileClause registry (compileStatement registry limit room))) := by
      refine Alike.mapM hclauses fun c d hcd => ?_
      obtain ⟨name, v⟩ := c
      obtain ⟨name', w⟩ := d
      obtain ⟨rfl, hvw⟩ := hcd
      exact compileClause_alike (fun key hqr => ih key hqr) hbuiltin name hvw
    have hother := Alike.mapM_perm hperm
      (compileClause registry (compileStatement registry limit room))
    refine (hone.trans hother).map fun expressions others hexpressions => ?_
    obtain ⟨between, hbetween, hperm'⟩ := hexpressions
    exact .of_expressions key key hbetween hperm'

/-- Where all operators are built in, two queries that differ only in the order of
object keys are both accepted or both refused. Their statements weigh the same,
and answer alike about data that differ only in the order of object keys, if the
predicates in the query answer alike about the parts of these data. Queries and
data are well-formed, as values with distinct keys are. -/
theorem key_order_is_immaterial (registry : Registry)
    (hbuiltin : ∀ op ∈ registry.operators, ∃ b, op = .builtin b) (options : CompileOptions)
    {q r : Value} (hq : q.WellFormed) (hqr : q.Rearranged r) :
    ((∃ s, compile registry options q = .ok s) ↔ ∃ t, compile registry options r = .ok t) ∧
      ∀ s t, compile registry options q = .ok s → compile registry options r = .ok t →
        s.weight = t.weight ∧
          ∀ (answers : Answers) (x y : Value), x.WellFormed → x.Rearranged y →
            (∀ p, Part (.predicate p) q → ∀ v w, Part v x → Part w y → v.Rearranged w →
              answers p v = answers p w) →
            s.test answers x = t.test answers y := by
  have hsame : SameOperand (fun p => Part (.predicate p) q) q r := ⟨hq, hqr, fun _ hp => hp⟩
  have halike : Alike (SameStatement fun p => Part (.predicate p) q)
      (compile registry options q) (compile registry options r) := by
    rw [compile_eq, compile_eq]
    refine (compileStatement_alike hbuiltin _ _ none hsame).map fun s t hst => ?_
    by_cases hsorted : options.reorder = true
    · rw [if_pos hsorted, if_pos hsorted]
      exact hst.reorder
    · rw [if_neg hsorted, if_neg hsorted]
      exact hst
  refine ⟨halike.exists_iff, fun s t hs ht => ?_⟩
  have hst := halike.related hs ht
  exact ⟨hst.weight, fun answers x y hx hxy hblind => hst.test ⟨hx, hxy, hblind⟩⟩

/-- The clauses, the fields of a listed object and those of the datum all come in
another order. -/
theorem key_order_of_listed_object :
    let listed : Value := .object [("x", .bool true), ("y", .null)]
    let listed' : Value := .object [("y", .null), ("x", .bool true)]
    ∃ s t,
      compile .standard ⟨false, 1⟩ (.object
        [("a", .singleton "$in" (.array [listed])), ("$where", .predicate ⟨0⟩)]) = .ok s ∧
      compile .standard ⟨false, 1⟩ (.object
        [("$where", .predicate ⟨0⟩), ("a", .singleton "$in" (.array [listed']))]) = .ok t ∧
      s.weight = t.weight ∧
      s.test (fun _ v => !v.isNullish) (.object [("a", listed), ("b", .null)]) = true ∧
      t.test (fun _ v => !v.isNullish) (.object [("b", .null), ("a", listed')]) = true := by
  intro listed listed'
  have hlisted : listed.Rearranged listed' := Rearranged.swap (.same _) (.same _)
  have hmembers : (Value.array [listed]).Rearranged (.array [listed']) :=
    .array (.cons hlisted .nil)
  have hbuiltin : ∀ op ∈ Registry.standard.operators, ∃ b, op = .builtin b := by
    intro op hop
    obtain ⟨b, -, rfl⟩ := List.mem_map.1 hop
    exact ⟨b, rfl⟩
  have hquery : (Value.object [("a", .singleton "$in" (.array [listed])),
      ("$where", .predicate ⟨0⟩)]).WellFormed := by
    simp [listed, Value.singleton, Value.WellFormed, Value.AllWellFormed, Value.FieldsWellFormed,
      Fields.keys]
  have hdatum : (Value.object [("a", listed), ("b", .null)]).WellFormed := by
    simp [listed, Value.WellFormed, Value.FieldsWellFormed, Fields.keys]
  obtain ⟨haccepted, halike⟩ := key_order_is_immaterial .standard hbuiltin ⟨false, 1⟩ hquery
    (Rearranged.swap (hmembers.singleton "$in") (.same _))
  have hs : compile .standard ⟨false, 1⟩ (.object
      [("a", .singleton "$in" (.array [.object [("x", .bool true), ("y", .null)]])),
        ("$where", .predicate ⟨0⟩)]) =
      .ok (.mk [.traversal "a" (.mk [.check (.isIn [listed]) 400] (some "a")) 1200,
        .check (.satisfies ⟨0⟩) 1000] none) := rfl
  obtain ⟨t, ht⟩ := haccepted.1 ⟨_, hs⟩
  obtain ⟨hweight, htest⟩ := halike _ t hs ht
  have hanswer := htest (fun _ v => !v.isNullish) (.object [("a", listed), ("b", .null)])
    (.object [("b", .null), ("a", listed')]) hdatum (Rearranged.swap hlisted (.same _))
    fun _ _ v w _ _ hvw => congrArg Bool.not hvw.isNullish_eq
  have htrue := hanswer.symm.trans rfl
  exact ⟨_, t, hs, ht, hweight, rfl, htrue⟩

end Query
end DocQuery
