import DocQuery.Proofs.Statement.Cost

/-!
Values and statements that differ only in the order of what they hold, at any depth: of
the elements of arrays and the fields of objects, the expressions of statements, the
queries in lists, and the members that a test has. Most of these orders mean something,
so shuffled statements need not answer alike; but all cost the same. In each constructor
with a list, `middle` has the parts of the second list in the order of the first.
-/

namespace DocQuery

/-- Sums over lists in some order, of terms that correspond. -/
theorem sum_map_eq_of_forall₂ {α β : Type} {R : α → β → Prop} {as : List α} {middle bs : List β}
    {f : α → Nat} {g : β → Nat} (h : List.Forall₂ R as middle) (hperm : middle.Perm bs)
    (hfg : ∀ a ∈ as, ∀ b, R a b → f a = g b) : (as.map f).sum = (bs.map g).sum := by
  rw [map_eq_of_forall₂ h hfg, (hperm.map g).sum_nat]

inductive Value.Shuffled : Value → Value → Prop
  | same (v : Value) : Shuffled v v
  | array {items middle others : List Value} (h : List.Forall₂ Shuffled items middle)
      (hperm : middle.Perm others) : Shuffled (array items) (array others)
  | object {fields middle others : List (String × Value)}
      (hkeys : Fields.keys fields = Fields.keys middle)
      (hvalues : List.Forall₂ Shuffled (fields.map Prod.snd) (middle.map Prod.snd))
      (hperm : middle.Perm others) : Shuffled (object fields) (object others)

theorem Value.Shuffled.plainMagnitude_eq {v w : Value} (h : v.Shuffled w) :
    v.plainMagnitude = w.plainMagnitude := by
  induction v generalizing w with
  | array items ih =>
    cases h with
    | same => rfl
    | array hitems hperm =>
      rw [plainMagnitude_array, plainMagnitude_array]
      exact sum_map_eq_of_forall₂ hitems hperm fun v hv w hvw => ih v hv hvw
  | object fields ih =>
    cases h with
    | same => rfl
    | object hkeys hvalues hperm =>
      rw [List.forall₂_map_left_iff, List.forall₂_map_right_iff] at hvalues
      rw [plainMagnitude_object, plainMagnitude_object]
      exact sum_map_eq_of_forall₂ hvalues hperm fun field hfield other hvw =>
        ih field hfield hvw
  | _ =>
    cases h
    rfl

/-- The tests have the same operand but for its order. -/
inductive Check.Shuffled : Check → Check → Prop
  | same (c : Check) : Shuffled c c
  | equals {v w : Value} (h : v.Shuffled w) : Shuffled (equals (.literal v)) (equals (.literal w))
  | differs {v w : Value} (h : v.Shuffled w) : Shuffled (differs (.literal v)) (differs (.literal w))
  | compares (r : Relation) {v w : Value} (h : v.Shuffled w) :
      Shuffled (compares r v) (compares r w)
  | members {make : List Value → Check} (hmake : make ∈ [isIn, notIn, hasAll])
      {items middle others : List Value} (h : List.Forall₂ Value.Shuffled items middle)
      (hperm : middle.Perm others) : Shuffled (make items) (make others)

theorem Check.Shuffled.rank_eq {c d : Check} (h : c.Shuffled d) : c.rank = d.rank := by
  cases h with
  | members hmake =>
    simp only [List.mem_cons, List.not_mem_nil, or_false] at hmake
    rcases hmake with rfl | rfl | rfl <;> rfl
  | _ => rfl

theorem Check.Shuffled.plainMagnitude_eq {c d : Check} (h : c.Shuffled d) :
    c.plainMagnitude = d.plainMagnitude := by
  cases h with
  | same => rfl
  | equals hvw | differs hvw | compares r hvw => exact hvw.plainMagnitude_eq
  | members hmake hitems hperm =>
    have hsum := sum_map_eq_of_forall₂ hitems hperm fun v _ w hvw => hvw.plainMagnitude_eq
    simp only [List.mem_cons, List.not_mem_nil, or_false] at hmake
    rcases hmake with rfl | rfl | rfl <;> exact hsum

mutual

inductive Statement.Shuffled : Statement → Statement → Prop
  | mk {expressions middle others : List Expression} (key : Option String)
      (h : List.Forall₂ Expression.Shuffled expressions middle) (hperm : middle.Perm others) :
      Statement.Shuffled (.mk expressions key) (.mk others key)

inductive Expression.Shuffled : Expression → Expression → Prop
  | check {c d : Check} (h : c.Shuffled d) (cost : Nat) :
      Expression.Shuffled (.check c cost) (.check d cost)
  | junction (kind : Junction) {statements middle others : List Statement}
      (h : List.Forall₂ Statement.Shuffled statements middle) (hperm : middle.Perm others)
      (cost : Nat) : Expression.Shuffled (.junction kind statements cost) (.junction kind others cost)
  | negation {s t : Statement} (h : s.Shuffled t) (cost : Nat) :
      Expression.Shuffled (.negation s cost) (.negation t cost)
  | traversal (field : String) {s t : Statement} (h : s.Shuffled t) (cost : Nat) :
      Expression.Shuffled (.traversal field s cost) (.traversal field t cost)
  | customValue (operator : CustomOperator) {v w : Value} (h : v.Shuffled w) (cost : Nat) :
      Expression.Shuffled (.customValue operator v cost) (.customValue operator w cost)
  | customQuery (operator : CustomOperator) {s t : Statement} (h : s.Shuffled t) (cost : Nat) :
      Expression.Shuffled (.customQuery operator s cost) (.customQuery operator t cost)
  | customQueries (operator : CustomOperator) {statements middle others : List Statement}
      (h : List.Forall₂ Statement.Shuffled statements middle) (hperm : middle.Perm others)
      (cost : Nat) :
      Expression.Shuffled (.customQueries operator statements cost)
        (.customQueries operator others cost)

end

theorem Expression.Shuffled.plainCost_eq_of_statements {e f : Expression} (hef : e.Shuffled f)
    (h : ∀ s ∈ e.statements, ∀ t, s.Shuffled t → s.plainWeight = t.plainWeight) :
    e.plainCost = f.plainCost := by
  have hlists : ∀ {middle others : List Statement},
      List.Forall₂ Statement.Shuffled e.statements middle → middle.Perm others →
        plainWeights e.statements = plainWeights others := by
    intro middle others hwithin hperm
    rw [plainWeights_eq, plainWeights_eq]
    exact sum_map_eq_of_forall₂ hwithin hperm h
  have hrank : e.rank = f.rank := by
    cases hef with
    | check hcd => exact hcd.rank_eq
    | _ => rfl
  have hmagnitude : e.plainMagnitude = f.plainMagnitude := by
    cases hef with
    | check hcd => exact hcd.plainMagnitude_eq
    | customValue operator hvw => exact hvw.plainMagnitude_eq
    | junction kind hwithin hperm | customQueries operator hwithin hperm =>
      exact hlists hwithin hperm
    | negation hst | traversal field hst | customQuery operator hst =>
      exact h _ (List.mem_singleton_self _) _ hst
  rw [plainCost, plainCost, hrank, hmagnitude]

theorem Statement.Shuffled.plainWeight_eq {s t : Statement} (h : s.Shuffled t) :
    s.plainWeight = t.plainWeight := by
  induction s generalizing t with
  | mk expressions key ih =>
    cases h with
    | mk _ hwithin hperm =>
      rw [plainWeight_mk, plainWeight_mk]
      exact sum_map_eq_of_forall₂ hwithin hperm fun e he f hef =>
        hef.plainCost_eq_of_statements fun s hs t hst => ih e he s hs hst

theorem Expression.Shuffled.plainCost_eq {e f : Expression} (h : e.Shuffled f) :
    e.plainCost = f.plainCost :=
  h.plainCost_eq_of_statements fun _ _ _ hst => hst.plainWeight_eq

end DocQuery
