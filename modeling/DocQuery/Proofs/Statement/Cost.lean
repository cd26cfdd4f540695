import DocQuery.Proofs.Statement.WellFormed

/-!
Costs against the plain sums that they stand for. Sizes, weights and costs are summed
within a limit at every level; here each has a plain counterpart that is summed without
one. Cutting off a part changes nothing of a sum that is cut off in the end, so only one
cut remains of all those on the way: what is computed is the smaller of the plain sum
and the limit. Two numbers are said to agree below the limit if they come out the same
when they are cut off.
-/

namespace DocQuery

/-- The numbers come out the same when they are cut off at the limit. -/
def AgreeBelow (a b : Nat) : Prop := min a costLimit = min b costLimit

namespace AgreeBelow

theorem of_eq_min {a b : Nat} (h : a = min b costLimit) : AgreeBelow a b := by
  rw [AgreeBelow, h, Nat.min_assoc, Nat.min_self]

theorem boundedAdd_eq {a b c d : Nat} (hac : AgreeBelow a c) (hbd : AgreeBelow b d) :
    boundedAdd a b = min (c + d) costLimit := by
  rw [AgreeBelow] at hac hbd
  rw [boundedAdd]
  omega

theorem add {a b c d : Nat} (hac : AgreeBelow a c) (hbd : AgreeBelow b d) :
    AgreeBelow (a + b) (c + d) :=
  hac.boundedAdd_eq hbd

theorem sum_map {α : Type} {list : List α} {f g : α → Nat}
    (h : ∀ a ∈ list, AgreeBelow (f a) (g a)) : AgreeBelow (list.map f).sum (list.map g).sum := by
  induction list with
  | nil => rfl
  | cons a rest ih =>
    obtain ⟨hhead, hrest⟩ := List.forall_mem_cons.mp h
    rw [List.map_cons, List.map_cons, List.sum_cons, List.sum_cons]
    exact hhead.add (ih hrest)

theorem boundedSum_eq {α : Type} {list : List α} {f g : α → Nat}
    (h : ∀ a ∈ list, AgreeBelow (f a) (g a)) :
    boundedSum (list.map f) = min (list.map g).sum costLimit := by
  rw [DocQuery.boundedSum_eq]
  exact sum_map h

end AgreeBelow

theorem numberMagnitude_le (n : Number) : numberMagnitude n ≤ costLimit := by
  rw [numberMagnitude, Number.wholeMagnitude]
  split
  · exact Nat.zero_le _
  · exact Nat.min_le_right _ _

namespace Value

mutual

/-- The size of a value without a limit. -/
def plainMagnitude : Value → Nat
  | .null | .undefined | .bool _ | .date _ => 0
  | .number n => numberMagnitude n
  | .string s => s.length
  | .array items => plainMagnitudes items
  | .object fields => plainFieldMagnitudes fields
  | .regex _ | .predicate _ => 100

def plainMagnitudes : List Value → Nat
  | [] => 0
  | v :: rest => v.plainMagnitude + plainMagnitudes rest

def plainFieldMagnitudes : List (String × Value) → Nat
  | [] => 0
  | (_, v) :: rest => v.plainMagnitude + plainFieldMagnitudes rest

end

theorem plainMagnitude_array (items : List Value) :
    (array items).plainMagnitude = (items.map plainMagnitude).sum := by
  rw [plainMagnitude]
  induction items with
  | nil => rfl
  | cons v rest ih => rw [plainMagnitudes, ih, List.map_cons, List.sum_cons]

theorem plainMagnitude_object (fields : List (String × Value)) :
    (object fields).plainMagnitude = (fields.map fun field => field.2.plainMagnitude).sum := by
  rw [plainMagnitude]
  induction fields with
  | nil => rfl
  | cons field rest ih => rw [plainFieldMagnitudes, ih, List.map_cons, List.sum_cons]

theorem magnitude_eq_min (v : Value) : v.magnitude = min v.plainMagnitude costLimit := by
  induction v with
  | null | undefined | bool | date => rfl
  | number n => exact (Nat.min_eq_left (numberMagnitude_le n)).symm
  | string s => rfl
  | regex p | predicate p =>
    rw [magnitude, plainMagnitude, opaqueMagnitude, costLimit]
    rfl
  | array items ih =>
    rw [magnitude, magnitudes_eq_map, plainMagnitude_array]
    exact AgreeBelow.boundedSum_eq fun v hv => .of_eq_min (ih v hv)
  | object fields ih =>
    rw [magnitude, fieldMagnitudes_eq_map, plainMagnitude_object]
    exact AgreeBelow.boundedSum_eq fun field hfield => .of_eq_min (ih field hfield)

theorem magnitude_agree (v : Value) : AgreeBelow v.magnitude v.plainMagnitude :=
  .of_eq_min v.magnitude_eq_min

end Value

def Matcher.plainMagnitude : Matcher → Nat
  | literal v => v.plainMagnitude
  | pattern _ | predicate _ => 100

def Check.plainMagnitude : Check → Nat
  | equals m | differs m => m.plainMagnitude
  | compares _ v => v.plainMagnitude
  | present _ | hasType _ => 0
  | hasSize n => n
  | leaves divisor remainder => numberMagnitude divisor + numberMagnitude remainder
  | isIn members | notIn members | hasAll members => (members.map Value.plainMagnitude).sum
  | matchesPattern _ | satisfies _ => 100

theorem Matcher.magnitude_agree (m : Matcher) : AgreeBelow m.magnitude m.plainMagnitude := by
  cases m with
  | literal v => exact v.magnitude_agree
  | _ => rfl

theorem Check.magnitude_agree (c : Check) : AgreeBelow c.magnitude c.plainMagnitude := by
  cases c with
  | equals m | differs m => exact m.magnitude_agree
  | compares o v => exact v.magnitude_agree
  | isIn members | notIn members | hasAll members =>
    exact .of_eq_min (AgreeBelow.boundedSum_eq fun v _ => v.magnitude_agree)
  | leaves divisor remainder => exact .of_eq_min rfl
  | _ => rfl

mutual

/-- What the expressions of a statement cost together, without a limit. -/
def Statement.plainWeight : Statement → Nat
  | .mk expressions _ => plainCosts expressions

/-- The size of an operand without a limit; for queries, their weight. -/
def Expression.plainMagnitude : Expression → Nat
  | .check test _ => test.plainMagnitude
  | .junction _ statements _ | .customQueries _ statements _ => plainWeights statements
  | .negation statement _ | .traversal _ statement _ | .customQuery _ statement _ =>
    statement.plainWeight
  | .customValue _ operand _ => operand.plainMagnitude

def plainCosts : List Expression → Nat
  | [] => 0
  | e :: rest => 100 * e.rank + e.plainMagnitude + plainCosts rest

def plainWeights : List Statement → Nat
  | [] => 0
  | s :: rest => s.plainWeight + plainWeights rest

end

/-- What the expression should cost, without a limit. The cost that it carries does not
count, nor do those of the expressions within. -/
def Expression.plainCost (e : Expression) : Nat :=
  100 * e.rank + e.plainMagnitude

theorem plainWeights_eq (statements : List Statement) :
    plainWeights statements = (statements.map Statement.plainWeight).sum := by
  induction statements with
  | nil => rfl
  | cons s rest ih => rw [plainWeights, ih, List.map_cons, List.sum_cons]

theorem Statement.plainWeight_mk (expressions : List Expression) (key : Option String) :
    (mk expressions key).plainWeight = (expressions.map Expression.plainCost).sum := by
  rw [plainWeight]
  induction expressions with
  | nil => rfl
  | cons e rest ih => rw [plainCosts, ih, List.map_cons, List.sum_cons, Expression.plainCost]

theorem Expression.weigh_eq_min {e : Expression}
    (h : ∀ s ∈ e.statements, s.weight = min s.plainWeight costLimit) :
    e.weigh = min e.plainCost costLimit := by
  have hweights : ∀ s ∈ e.statements, AgreeBelow s.weight s.plainWeight := by
    intro s hs
    exact .of_eq_min (h s hs)
  rw [weigh, plainCost, Nat.mul_comm e.rank, rankScale]
  refine AgreeBelow.boundedAdd_eq rfl ?_
  cases e with
  | check test cost => exact test.magnitude_agree
  | customValue operator operand cost => exact operand.magnitude_agree
  | junction kind statements cost | customQueries operator statements cost =>
    rw [plainMagnitude, plainWeights_eq]
    exact .of_eq_min (AgreeBelow.boundedSum_eq hweights)
  | negation s cost | traversal field s cost | customQuery operator s cost =>
    exact hweights s (List.mem_singleton_self s)

namespace Statement

theorem WellFormed.within {s t : Statement} (h : s.WellFormed) (ht : t.Within s) :
    t.WellFormed :=
  fun u hu => h u (hu.trans ht)

/-- Where the expressions carry the costs that they should have, the weight of a statement
is its plain weight up to the limit. -/
theorem WellFormed.weight_eq_min {s : Statement} (h : s.WellFormed) :
    s.weight = min s.plainWeight costLimit := by
  induction s with
  | mk expressions key ih =>
    rw [wellFormed_mk_iff] at h
    rw [weight_mk, plainWeight_mk]
    refine AgreeBelow.boundedSum_eq fun e he => .of_eq_min ?_
    obtain ⟨hform, hinner⟩ := h e he
    rw [hform.cost]
    exact Expression.weigh_eq_min fun s hs => ih e he s hs (hinner s hs)

theorem WellFormed.cost_eq_min {s : Statement} (h : s.WellFormed) {e : Expression}
    (he : e ∈ s.expressions) : e.cost = min e.plainCost costLimit := by
  obtain ⟨expressions, key⟩ := s
  obtain ⟨hform, hinner⟩ := wellFormed_mk_iff.mp h e he
  rw [hform.cost]
  exact Expression.weigh_eq_min fun s hs => (hinner s hs).weight_eq_min

end Statement
end DocQuery
