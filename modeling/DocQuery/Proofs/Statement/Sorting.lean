import DocQuery.Proofs.Statement.Reordering
import DocQuery.Proofs.Value.Rearrangement

/-!
What a reordered statement looks like. A stable sort of a list is described by its
result alone: a permutation in ascending order in which equals stay as they were;
there is only one. `SortsInto` says of two statements that the second is the first
with such a sort at every level, from the innermost statements outwards, and no
other change. Reordering gives the one statement that a statement sorts into. The
order at a level is kept by what is sorted below it, since no weight changes there,
so a statement in which every level is in order is reordered into itself.
-/

namespace DocQuery

/-- The second list is the first in ascending order of a measure, and elements of equal
measure stay in the order in which they were. -/
structure StableSort {α : Type} (measure : α → Nat) (before after : List α) : Prop where
  perm : after.Perm before
  sorted : after.Pairwise fun a b => measure a ≤ measure b
  stable : ∀ n, (after.filter fun a => measure a = n) = before.filter fun a => measure a = n

namespace StableSort

variable {α : Type} {measure : α → Nat}

theorem mergeSort (measure : α → Nat) (list : List α) :
    StableSort measure list (list.mergeSort fun a b => decide (measure a ≤ measure b)) := by
  have htrans : ∀ a b c : α, decide (measure a ≤ measure b) = true →
      decide (measure b ≤ measure c) = true → decide (measure a ≤ measure c) = true := by
    intro a b c hab hbc
    simp only [decide_eq_true_eq] at hab hbc ⊢
    omega
  have htotal : ∀ a b : α,
      (decide (measure a ≤ measure b) || decide (measure b ≤ measure a)) = true := by
    intro a b
    simp only [Bool.or_eq_true, decide_eq_true_eq]
    omega
  have hperm := List.mergeSort_perm list fun a b => decide (measure a ≤ measure b)
  refine ⟨hperm, ?_, ?_⟩
  · have hsorted := List.pairwise_mergeSort htrans htotal list
    exact hsorted.imp fun h => of_decide_eq_true h
  · intro n
    have hordered : (list.filter fun a => measure a = n).Pairwise
        fun a b => decide (measure a ≤ measure b) = true := by
      apply List.pairwise_of_forall_mem_list
      intro a ha b hb
      have hma := of_decide_eq_true (List.mem_filter.mp ha).2
      have hmb := of_decide_eq_true (List.mem_filter.mp hb).2
      simp only [hma, hmb, le_refl, decide_true]
    have hsublist := List.sublist_mergeSort htrans htotal hordered List.filter_sublist
    have hfiltered := hsublist.filter fun a => decide (measure a = n)
    simp only [List.filter_filter, Bool.and_self] at hfiltered
    exact (hfiltered.eq_of_length (hperm.filter _).length_eq.symm).symm

/-- Two lists in order that have the same elements of each measure, in the same order,
are the same. -/
private theorem eq_of_filter_eq {as bs : List α}
    (has : as.Pairwise fun a b => measure a ≤ measure b)
    (hbs : bs.Pairwise fun a b => measure a ≤ measure b)
    (h : ∀ n, (as.filter fun a => measure a = n) = bs.filter fun a => measure a = n) :
    as = bs := by
  induction as generalizing bs with
  | nil =>
    cases bs with
    | nil => rfl
    | cons b bs =>
      have hb := h (measure b)
      simp at hb
  | cons a as ih =>
    cases bs with
    | nil =>
      have ha := h (measure a)
      simp at ha
    | cons b bs =>
      rw [List.pairwise_cons] at has hbs
      have hmem : ∀ {x : α} {xs ys : List α},
          ((x :: xs).filter fun c => measure c = measure x) =
            ys.filter (fun c => measure c = measure x) → x ∈ ys := by
        intro x xs ys hxy
        have hx : x ∈ (x :: xs).filter fun c => measure c = measure x := by simp
        rw [hxy] at hx
        exact (List.mem_filter.mp hx).1
      have hle : measure b ≤ measure a := by
        rcases List.mem_cons.mp (hmem (h (measure a))) with heq | hrest
        · rw [heq]
        · exact hbs.1 a hrest
      have hge : measure a ≤ measure b := by
        rcases List.mem_cons.mp (hmem (h (measure b)).symm) with heq | hrest
        · rw [heq]
        · exact has.1 b hrest
      have hmeasure : measure b = measure a := by omega
      have hhead := h (measure a)
      simp only [List.filter_cons, hmeasure, decide_true, if_true, List.cons.injEq] at hhead
      obtain ⟨rfl, -⟩ := hhead
      congr 1
      apply ih has.2 hbs.2
      intro n
      have hn := h n
      simp only [List.filter_cons] at hn
      split at hn
      · exact (List.cons.inj hn).2
      · exact hn

theorem unique {list as bs : List α} (has : StableSort measure list as)
    (hbs : StableSort measure list bs) : as = bs := by
  apply eq_of_filter_eq has.sorted hbs.sorted
  intro n
  rw [has.stable, hbs.stable]

end StableSort

mutual

/-- The second statement is the first with every level sorted. -/
inductive Statement.SortsInto : Statement → Statement → Prop
  | mk {expressions middle sorted : List Expression} (key : Option String)
      (hwithin : List.Forall₂ Expression.SortsInto expressions middle)
      (hsort : StableSort Expression.cost middle sorted) :
      Statement.SortsInto (.mk expressions key) (.mk sorted key)

/-- The second expression is the first with the statements within it sorted. Lists of
built-in operators are sorted by weight; those of added operators stay as they are. -/
inductive Expression.SortsInto : Expression → Expression → Prop
  | check (test : Check) (cost : Nat) : Expression.SortsInto (.check test cost) (.check test cost)
  | junction (kind : Junction) {statements middle sorted : List Statement}
      (hwithin : List.Forall₂ Statement.SortsInto statements middle)
      (hsort : StableSort Statement.weight middle sorted) (cost : Nat) :
      Expression.SortsInto (.junction kind statements cost) (.junction kind sorted cost)
  | negation {s t : Statement} (h : s.SortsInto t) (cost : Nat) :
      Expression.SortsInto (.negation s cost) (.negation t cost)
  | traversal (field : String) {s t : Statement} (h : s.SortsInto t) (cost : Nat) :
      Expression.SortsInto (.traversal field s cost) (.traversal field t cost)
  | customValue (operator : CustomOperator) (operand : Value) (cost : Nat) :
      Expression.SortsInto (.customValue operator operand cost) (.customValue operator operand cost)
  | customQuery (operator : CustomOperator) {s t : Statement} (h : s.SortsInto t) (cost : Nat) :
      Expression.SortsInto (.customQuery operator s cost) (.customQuery operator t cost)
  | customQueries (operator : CustomOperator) {statements others : List Statement}
      (hwithin : List.Forall₂ Statement.SortsInto statements others) (cost : Nat) :
      Expression.SortsInto (.customQueries operator statements cost)
        (.customQueries operator others cost)

end

theorem Expression.sortByCost_stableSort (expressions : List Expression) :
    StableSort Expression.cost expressions (sortByCost expressions) :=
  .mergeSort _ _

theorem Statement.sortByWeight_stableSort (statements : List Statement) :
    StableSort Statement.weight statements (sortByWeight statements) :=
  .mergeSort _ _

private theorem forall₂_map {α : Type} {R : α → α → Prop} {f : α → α} {list : List α}
    (h : ∀ a ∈ list, R a (f a)) : List.Forall₂ R list (list.map f) := by
  rw [List.forall₂_map_right_iff, List.forall₂_same]
  exact h

private theorem eq_map_of_forall₂ {α : Type} {R : α → α → Prop} {f : α → α} {as bs : List α}
    (hab : List.Forall₂ R as bs) (h : ∀ a ∈ as, ∀ b, R a b → b = f a) : bs = as.map f := by
  have hmap := map_eq_of_forall₂ hab (f := f) (g := id) fun a ha b hb => (h a ha b hb).symm
  rw [hmap, List.map_id]

namespace Expression

theorem sortsInto_reorder (e : Expression) (h : ∀ s ∈ e.statements, s.SortsInto s.reorder) :
    e.SortsInto e.reorder := by
  cases e with
  | check test cost => exact .check test cost
  | customValue operator operand cost => exact .customValue operator operand cost
  | junction kind list cost =>
    rw [reorder, reorderStatements_eq_map]
    exact .junction kind (forall₂_map h) (Statement.sortByWeight_stableSort _) cost
  | customQueries operator list cost =>
    rw [reorder, reorderStatements_eq_map]
    exact .customQueries operator (forall₂_map h) cost
  | negation s cost =>
    rw [reorder]
    exact .negation (h s (List.mem_singleton_self s)) cost
  | traversal field s cost =>
    rw [reorder]
    exact .traversal field (h s (List.mem_singleton_self s)) cost
  | customQuery operator s cost =>
    rw [reorder]
    exact .customQuery operator (h s (List.mem_singleton_self s)) cost

theorem SortsInto.eq_reorder {e f : Expression} (hef : e.SortsInto f)
    (h : ∀ s ∈ e.statements, ∀ t, s.SortsInto t → t = s.reorder) : f = e.reorder := by
  cases hef with
  | check test cost | customValue operator operand cost => rw [reorder]
  | junction kind hwithin hsort cost =>
    rw [reorder, reorderStatements_eq_map]
    rw [eq_map_of_forall₂ hwithin h] at hsort
    rw [hsort.unique (Statement.sortByWeight_stableSort _)]
  | customQueries operator hwithin cost =>
    rw [reorder, reorderStatements_eq_map, eq_map_of_forall₂ hwithin h]
  | negation hst cost | traversal field hst cost | customQuery operator hst cost =>
    rw [reorder, h _ (List.mem_singleton_self _) _ hst]

end Expression

namespace Statement

theorem sortsInto_reorder (s : Statement) : s.SortsInto s.reorder := by
  induction s with
  | mk expressions key ih =>
    rw [reorder_mk]
    refine .mk key (forall₂_map ?_) (Expression.sortByCost_stableSort _)
    intro e he
    exact e.sortsInto_reorder (ih e he)

/-- There is only one statement that a statement sorts into. -/
theorem SortsInto.eq_reorder {s t : Statement} (h : s.SortsInto t) : t = s.reorder := by
  induction s generalizing t with
  | mk expressions key ih =>
    cases h with
    | mk _ hwithin hsort =>
      have hmiddle := eq_map_of_forall₂ hwithin fun e he f hef =>
        hef.eq_reorder fun s hs t hst => ih e he s hs hst
      rw [hmiddle] at hsort
      rw [reorder_mk, hsort.unique (Expression.sortByCost_stableSort _)]

theorem sortsInto_iff {s t : Statement} : s.SortsInto t ↔ t = s.reorder := by
  constructor
  · exact SortsInto.eq_reorder
  · rintro rfl
    exact s.sortsInto_reorder

end Statement

/-- The list of a built-in operator is ascending by weight. -/
def Expression.Ordered : Expression → Prop
  | junction _ statements _ => statements.Pairwise fun s t => s.weight ≤ t.weight
  | _ => True

/-- The expressions of the statement are ascending by cost, and so by weight are the
lists that its built-in operators ask. -/
structure Statement.Ordered (s : Statement) : Prop where
  expressions : s.expressions.Pairwise fun e f => e.cost ≤ f.cost
  lists : ∀ e ∈ s.expressions, e.Ordered

theorem Expression.ordered_reorder (e : Expression) : e.reorder.Ordered := by
  cases e with
  | junction kind list cost =>
    rw [reorder]
    exact (Statement.sortByWeight_stableSort _).sorted
  | _ =>
    rw [reorder]
    trivial

namespace Statement

theorem mem_expressions_reorder {s : Statement} {e : Expression} :
    e ∈ s.reorder.expressions ↔ ∃ f ∈ s.expressions, f.reorder = e := by
  obtain ⟨expressions, key⟩ := s
  rw [reorder_mk]
  exact (Expression.sortByCost_perm _).mem_iff.trans List.mem_map

theorem key_reorder (s : Statement) : s.reorder.key = s.key := by
  obtain ⟨expressions, key⟩ := s
  rw [reorder_mk]
  rfl

theorem ordered_reorder (s : Statement) : s.reorder.Ordered := by
  constructor
  · obtain ⟨expressions, key⟩ := s
    rw [reorder_mk]
    exact (Expression.sortByCost_stableSort _).sorted
  · intro e he
    obtain ⟨f, -, rfl⟩ := mem_expressions_reorder.mp he
    exact f.ordered_reorder

/-- The statements within a reordered statement are those within the statement, each
of them reordered. -/
theorem within_reorder_iff {s t : Statement} :
    t.Within s.reorder ↔ ∃ u : Statement, u.Within s ∧ t = u.reorder := by
  induction s with
  | mk expressions key ih =>
    constructor
    · intro h
      rw [reorder_mk] at h
      rcases within_mk_iff.mp h with rfl | ⟨e, he, r, hr, hwithin⟩
      · exact ⟨_, .self _, (reorder_mk _ _).symm⟩
      · have hmem := (Expression.sortByCost_perm _).mem_iff.mp he
        obtain ⟨f, hf, rfl⟩ := List.mem_map.mp hmem
        obtain ⟨q, hq, rfl⟩ := List.mem_map.mp (f.statements_reorder_perm.mem_iff.mp hr)
        obtain ⟨u, hu, heq⟩ := (ih f hf q hq).mp hwithin
        exact ⟨u, .inner hf hq hu, heq⟩
    · rintro ⟨u, hu, rfl⟩
      rcases within_mk_iff.mp hu with rfl | ⟨f, hf, q, hq, hwithin⟩
      · exact .self _
      · have hinner := (ih f hf q hq).mpr ⟨u, hwithin, rfl⟩
        rw [reorder_mk]
        refine .inner ((Expression.sortByCost_perm _).mem_iff.mpr (List.mem_map_of_mem hf)) ?_ hinner
        exact f.statements_reorder_perm.mem_iff.mpr (List.mem_map_of_mem hq)

end Statement

section Fixed

private theorem StableSort.eq_self {α : Type} {measure : α → Nat} {list sorted : List α}
    (h : StableSort measure list sorted)
    (hlist : list.Pairwise fun a b => measure a ≤ measure b) : sorted = list :=
  h.unique ⟨.refl list, hlist, fun _ => rfl⟩

private theorem map_eq_self {α : Type} {f : α → α} {list : List α} (h : ∀ a ∈ list, f a = a) :
    list.map f = list := by
  rw [List.map_congr_left h]
  exact List.map_id list

theorem Expression.reorder_eq_self {e : Expression} (he : e.Ordered)
    (h : ∀ s ∈ e.statements, s.reorder = s) : e.reorder = e := by
  cases e with
  | check test cost | customValue operator operand cost => rw [reorder]
  | junction kind list cost =>
    have hlist : list.map Statement.reorder = list := map_eq_self h
    rw [reorder, reorderStatements_eq_map, hlist]
    rw [(Statement.sortByWeight_stableSort list).eq_self he]
  | customQueries operator list cost =>
    have hlist : list.map Statement.reorder = list := map_eq_self h
    rw [reorder, reorderStatements_eq_map, hlist]
  | negation s cost | traversal field s cost | customQuery operator s cost =>
    rw [reorder, h s (List.mem_singleton_self s)]

/-- A statement in which every level is in order is reordered into itself. -/
theorem Statement.reorder_eq_self {s : Statement}
    (h : ∀ t : Statement, t.Within s → t.Ordered) : s.reorder = s := by
  induction s with
  | mk expressions key ih =>
    obtain ⟨hself, hinner⟩ := forall_within_mk_iff.mp h
    have hmap : expressions.map Expression.reorder = expressions := by
      apply map_eq_self
      intro e he
      apply Expression.reorder_eq_self (hself.lists e he)
      intro s hs
      exact ih e he s hs (hinner e he s hs)
    rw [reorder_mk, hmap, (Expression.sortByCost_stableSort expressions).eq_self hself.expressions]

theorem Statement.ordered_of_within_reorder {s t : Statement} (h : t.Within s.reorder) :
    t.Ordered := by
  obtain ⟨u, -, rfl⟩ := within_reorder_iff.mp h
  exact u.ordered_reorder

theorem Statement.reorder_reorder (s : Statement) : s.reorder.reorder = s.reorder := by
  apply reorder_eq_self
  intro t ht
  exact ordered_of_within_reorder ht

end Fixed

/-- Reordering puts every level of a statement in order and does nothing else. The
result is the only statement that the statement sorts into; what is found within it are
the reordered forms of what was found within the statement, and these keep their keys
and weights, and their expressions keep their costs. Reordering again changes nothing. -/
theorem Statement.reorder_sorts_every_level (s : Statement) :
    (∀ t : Statement, t.Within s.reorder → t.Ordered) ∧
      (∀ t : Statement, s.SortsInto t ↔ t = s.reorder) ∧
      (∀ t : Statement, t.Within s.reorder ↔ ∃ u : Statement, u.Within s ∧ t = u.reorder) ∧
      (∀ u : Statement, u.Within s → u.reorder.key = u.key ∧ u.reorder.weight = u.weight ∧
        ∀ e ∈ u.expressions, e.reorder.cost = e.cost) ∧
      s.reorder.reorder = s.reorder := by
  refine ⟨?_, ?_, ?_, ?_, s.reorder_reorder⟩
  · intro t ht
    exact ordered_of_within_reorder ht
  · intro t
    exact sortsInto_iff
  · intro t
    exact within_reorder_iff
  · intro u _
    refine ⟨u.key_reorder, u.weight_reorder, ?_⟩
    intro e _
    exact e.cost_reorder

end DocQuery
