import DocQuery.Proofs.Operator.Rearrangement
import DocQuery.Proofs.Statement.Reordering

/-!
Statements that weigh the same and answer alike about data that differ only in
the order of object keys. The predicates that a statement may ask are given as
`known`; of data that are compared, they have to answer alike about parts that
correspond. Each kind of expression passes likeness on from the statements within
it, and a statement may have its expressions in another order.
-/

namespace DocQuery

open Value (Part Rearranged)

/-- The data are well-formed and differ only in the order of object keys, and no
known predicate sees a difference between their parts. -/
structure SameDatum (answers : Answers) (known : Predicate → Prop) (x y : Value) : Prop where
  wellFormed : x.WellFormed
  rearranged : x.Rearranged y
  blind : ∀ p, known p → ∀ v w, Part v x → Part w y → v.Rearranged w → answers p v = answers p w

structure SameCheck (known : Predicate → Prop) (c d : Check) : Prop where
  rank : c.rank = d.rank
  magnitude : c.magnitude = d.magnitude
  value : ∀ {answers x y}, SameDatum answers known x y →
    (c.run answers x.normalize x).value = (d.run answers y.normalize y).value

structure SameExpression (known : Predicate → Prop) (e f : Expression) : Prop where
  cost : e.cost = f.cost
  weigh : e.weigh = f.weigh
  test : ∀ {answers x y}, SameDatum answers known x y → e.test answers x = f.test answers y

structure SameStatement (known : Predicate → Prop) (s t : Statement) : Prop where
  weight : s.weight = t.weight
  test : ∀ {answers x y}, SameDatum answers known x y → s.test answers x = t.test answers y

variable {known : Predicate → Prop}

namespace SameDatum

variable {answers : Answers} {x y : Value}

theorem of_part (h : SameDatum answers known x y) {v w : Value} (hv : Part v x) (hw : Part w y)
    (hvw : v.Rearranged w) : SameDatum answers known v w where
  wellFormed := h.wellFormed.part hv
  rearranged := hvw
  blind p hp v' w' hv' hw' hr := h.blind p hp v' w' (hv'.trans hv) (hw'.trans hw) hr

theorem undefined : SameDatum answers known .undefined .undefined where
  wellFormed := trivial
  rearranged := .same _
  blind p _ v w hv hw _ := by
    cases hv
    cases hw
    rfl

theorem get?_rel (h : SameDatum answers known x y) (key : String) :
    Option.Rel (SameDatum answers known) (x.get? key) (y.get? key) := by
  have hrel := h.rearranged.get?_rel h.wellFormed key
  refine rel_imp hrel fun v hv w hw hvw => ?_
  exact h.of_part (.of_get? hv) (.of_get? hw) hvw

theorem items {items others : List Value}
    (h : SameDatum answers known (.array items) (.array others)) :
    List.Forall₂ (SameDatum answers known) items others := by
  obtain ⟨_, heq, hitems⟩ := h.rearranged.of_array
  cases heq
  refine forall₂_imp hitems fun v hv w hw hvw => ?_
  exact h.of_part (.item hv (.self v)) (.item hw (.self w)) hvw

/-- What a field is read from corresponds one by one. -/
theorem readField (h : SameDatum answers known x y) (field : String) :
    List.Forall₂ (SameDatum answers known) (readField field x) (readField field y) := by
  have hsingle : List.Forall₂ (SameDatum answers known)
      [(x.get? field).getD .undefined] [(y.get? field).getD .undefined] :=
    .cons (getD_rel (h.get?_rel field) undefined) .nil
  have hxy := h.rearranged
  cases x with
  | array items =>
    obtain ⟨others, rfl, -⟩ := hxy.of_array
    exact List.rel_filterMap (fun _ _ hvw => hvw.get?_rel field) h.items
  | _ =>
    cases hxy
    all_goals exact hsingle

end SameDatum

namespace SameExpression

theorem weighed {e f : Expression} (h : SameExpression known e f) :
    SameExpression known e.weighed f.weighed where
  cost := by rw [Expression.cost_weighed, Expression.cost_weighed, h.weigh]
  weigh := by rw [Expression.weigh_weighed, Expression.weigh_weighed, h.weigh]
  test hxy := by
    rw [Expression.test_weighed, Expression.test_weighed]
    exact h.test hxy

private theorem weigh_eq {e f : Expression} (hrank : e.rank = f.rank)
    (hmagnitude : e.magnitude = f.magnitude) : e.weigh = f.weigh := by
  rw [Expression.weigh, Expression.weigh, hrank, hmagnitude]

theorem check {c d : Check} (h : SameCheck known c d) (cost : Nat) :
    SameExpression known (.check c cost) (.check d cost) where
  cost := rfl
  weigh := weigh_eq h.rank h.magnitude
  test hxy := by
    rw [Expression.test_check, Expression.test_check, h.value hxy]

theorem junction (kind : Junction) {statements others : List Statement}
    (h : List.Forall₂ (SameStatement known) statements others) (cost : Nat) :
    SameExpression known (.junction kind statements cost) (.junction kind others cost) where
  cost := rfl
  weigh := by
    refine weigh_eq rfl ?_
    have hweights := map_eq_of_forall₂ h fun s _ t hst => hst.weight
    exact congrArg boundedSum hweights
  test hxy := by
    rw [Expression.test_junction, Expression.test_junction]
    rw [map_eq_of_forall₂ h fun s _ t hst => hst.test hxy]

variable {s t : Statement} (h : SameStatement known s t)

include h

theorem negation (cost : Nat) : SameExpression known (.negation s cost) (.negation t cost) where
  cost := rfl
  weigh := weigh_eq rfl h.weight
  test hxy := by
    rw [Expression.test_negation, Expression.test_negation, h.test hxy]

theorem traversal (field : String) (cost : Nat) :
    SameExpression known (.traversal field s cost) (.traversal field t cost) where
  cost := rfl
  weigh := weigh_eq rfl h.weight
  test hxy := by
    rw [Expression.test_traversal, Expression.test_traversal]
    exact any_eq_of_forall₂ (hxy.readField field) fun v _ w hvw => h.test hvw

end SameExpression

namespace SameStatement

/-- The expressions of a statement may come in any order. -/
theorem of_expressions {expressions middle others : List Expression} (key key' : Option String)
    (h : List.Forall₂ (SameExpression known) expressions middle) (hperm : middle.Perm others) :
    SameStatement known (.mk expressions key) (.mk others key') where
  weight := by
    rw [Statement.weight_mk, Statement.weight_mk]
    rw [map_eq_of_forall₂ h fun e _ f hef => hef.cost]
    exact boundedSum_perm (hperm.map _)
  test hxy := by
    rw [Statement.test_mk, Statement.test_mk, ← hperm.all_eq]
    exact all_eq_of_forall₂ h fun e _ f hef => hef.test hxy

theorem reorder {s t : Statement} (h : SameStatement known s t) :
    SameStatement known s.reorder t.reorder where
  weight := by rw [Statement.weight_reorder, Statement.weight_reorder, h.weight]
  test hxy := by rw [Statement.test_reorder, Statement.test_reorder, h.test hxy]

end SameStatement
end DocQuery
