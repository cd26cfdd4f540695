import DocQuery.Proofs.Operator.Elements
import DocQuery.Proofs.Query.Membership

/-!
Queries of one test about an array. Queries for an order, a pattern, equality or membership
ask whether some element passes, each as a datum of its own, and their denials whether all
do; arrays among the elements are passed over, as long as none is asked for. The query for
a remainder is asked of these as well, and so of every number that is reached through
arrays alone.
-/

namespace DocQuery.Query

/-- The operators that look at the elements of an array have their built-in meanings. -/
structure ElementOperators (registry : Registry) : Prop extends MembershipOperators registry where
  order : ∀ r : Relation, registry.HasBuiltIn r.builtin
  regex : registry.HasBuiltIn .regex
  modulo : registry.HasBuiltIn .modulo

/-- The queries that look for an element: for an order to any value, for a pattern, for a
value or for members that are no arrays. -/
inductive SeeksElement : Value → Prop
  | order (r : Relation) (v : Value) : SeeksElement (.singleton r.builtin.name v)
  | regex (p : Pattern) : SeeksElement (.singleton "$regex" (.regex p))
  | eq {v : Value} (harray : ¬v.IsArray) (hpredicate : ∀ p, v ≠ .predicate p) :
      SeeksElement (.singleton "$eq" v)
  | isIn {members : List Value} (h : ∀ v ∈ members, ¬v.IsArray) :
      SeeksElement (.singleton "$in" (.array members))

/-- The queries that deny that there is such an element. -/
inductive ExcludesElement : Value → Prop
  | ne {v : Value} (harray : ¬v.IsArray) (hpredicate : ∀ p, v ≠ .predicate p) :
      ExcludesElement (.singleton "$ne" v)
  | notIn {members : List Value} (h : ∀ v ∈ members, ¬v.IsArray) :
      ExcludesElement (.singleton "$nin" (.array members))

section Meanings

variable (answers : Answers) {registry : Registry} (h : ElementOperators registry) (limit : Nat)

theorem equality_seeks {v : Value} (harray : ¬v.IsArray) (hpredicate : ∀ p, v ≠ .predicate p) :
    Existential fun datum =>
      ((Matcher.ofValue v.normalize).run answers datum.normalize datum).value :=
  equality_existential answers (mt v.isArray_normalize.mp harray) (normalize_ne_predicate hpredicate)

theorem membership_seeks {members : List Value} (h : ∀ v ∈ members, ¬v.IsArray) :
    Existential fun datum => isAmong (members.map Value.normalize) datum.normalize := by
  refine (members_existential ?_).normalized
  rw [List.forall_mem_map]
  exact fun v hv => mt v.isArray_normalize.mp (h v hv)

include h

theorem SeeksElement.means {query : Value} (hquery : SeeksElement query) :
    ∃ holds, Means answers registry limit query holds ∧ Existential holds := by
  cases hquery with
  | order r v =>
    exact ⟨_, Means.relation answers limit r (h.order r) v,
      (relation_existential r v.normalize).normalized⟩
  | regex p =>
    exact ⟨_, Means.pattern answers limit h.regex rfl, pattern_existential p⟩
  | eq harray hpredicate =>
    exact ⟨_, Means.equality answers h.toMembershipOperators limit _,
      equality_seeks answers harray hpredicate⟩
  | isIn hmembers =>
    exact ⟨_, Means.membership answers h.toMembershipOperators limit _, membership_seeks hmembers⟩

theorem ExcludesElement.means {query : Value} (hquery : ExcludesElement query) :
    ∃ holds, Means answers registry limit query holds ∧ Universal holds := by
  cases hquery with
  | ne harray hpredicate =>
    exact ⟨_, Means.difference answers h.toMembershipOperators limit _,
      (equality_seeks answers harray hpredicate).universal_not⟩
  | notIn hmembers =>
    exact ⟨_, Means.exclusion answers h.toMembershipOperators limit _,
      (membership_seeks hmembers).universal_not⟩

end Meanings

/-- How far queries of one test reach into an array. Those that look for an element find
it one level down, and those that deny it are about all elements there, in both cases
apart from the elements that are arrays. The query for a remainder holds if it holds for
some element, which may be an array; these are all numbers at any depth of arrays, the
milliseconds of instants among them. -/
theorem queries_reach_elements (answers : Answers) {registry : Registry}
    (h : ElementOperators registry) (options : CompileOptions) :
    (∀ query, SeeksElement query →
      ∃ s, compile registry options query = .ok s ∧ Existential (s.test answers)) ∧
    (∀ query, ExcludesElement query →
      ∃ s, compile registry options query = .ok s ∧ Universal (s.test answers)) ∧
    ∀ {d r : Value} {divisor remainder : Number}, d.normalize.number? = some divisor →
      divisor.isZero = false → r.normalize.number? = some remainder →
      ∃ s, compile registry options (.singleton "$mod" (.array [d, r])) = .ok s ∧
        ∀ items : List Value,
          (s.test answers (.array items) = true ↔ ∃ v ∈ items, s.test answers v = true) ∧
          (s.test answers (.array items) = true ↔
            ∃ (v : Value) (n : Number), v.ArrayPart (.array items) ∧
              v.normalize.number? = some n ∧ (n.remainder divisor == remainder) = true) := by
  refine ⟨fun query hquery => ?_, fun query hquery => ?_, fun hd hzero hr => ?_⟩
  · obtain ⟨holds, hmeans, hexists⟩ := hquery.means answers h options.depthLimit
    obtain ⟨s, hs, htest⟩ := hmeans.compile options.reorder
    refine ⟨s, hs, fun items => ?_⟩
    simp only [htest, hexists items]
  · obtain ⟨holds, hmeans, hall⟩ := hquery.means answers h options.depthLimit
    obtain ⟨s, hs, htest⟩ := hmeans.compile options.reorder
    refine ⟨s, hs, fun items => ?_⟩
    simp only [htest, hall items]
  · obtain ⟨s, hs, htest⟩ :=
      (Means.division answers options.depthLimit h.modulo hd hzero hr).compile options.reorder
    refine ⟨s, hs, fun items => ⟨?_, ?_⟩⟩
    · simp only [htest]
      rw [Value.normalize_array, leavesRemainder_array, List.any_map, List.any_eq_true]
      rfl
    · rw [htest, leavesRemainder_iff]

/-- An instant one array further down: an order passes it over and so does a denial of
equality, but its milliseconds leave their remainder. -/
theorem nested_instant_leaves_remainder :
    let answers : Answers := fun _ _ => false
    let seven : Instant := ⟨0, 7000000, by decide, by decide⟩
    let datum : Value := .array [.array [.date seven], .number (.ofInt 5)]
    ∃ above other divided,
      compile .standard {} (.singleton "$gt" (.number (.ofInt 6))) = .ok above ∧
      compile .standard {} (.singleton "$ne" (.date seven)) = .ok other ∧
      compile .standard {} (.singleton "$mod" (.array [.number (.ofInt 4), .number (.ofInt 3)])) =
        .ok divided ∧
      above.test answers datum = false ∧ other.test answers datum = true ∧
        divided.test answers datum = true := by
  intro answers seven datum
  have hregistry : ElementOperators .standard :=
    ⟨⟨rfl, rfl, rfl, rfl⟩, fun r => Registry.standard_hasBuiltIn r.builtin, rfl, rfl⟩
  obtain ⟨hseeks, hexcludes, hdivides⟩ := queries_reach_elements answers hregistry {}
  obtain ⟨above, habove, hsome⟩ := hseeks _ (.order .gt (.number (.ofInt 6)))
  obtain ⟨other, hother, hall⟩ := hexcludes _ (.ne id (v := .date seven) (by rintro p ⟨⟩))
  have hfour : (Number.ofInt 4).isZero = false := by decide +kernel
  have hcounted (n : Number) : (Value.number n).normalize.number? = some n := rfl
  obtain ⟨divided, hdivided, hreach⟩ := hdivides (hcounted (.ofInt 4)) hfour (hcounted (.ofInt 3))
  refine ⟨above, other, divided, habove, hother, hdivided, ?_, ?_, ?_⟩
  · have hmeans := Means.relation answers 0 .gt (hregistry.order .gt) (.number (.ofInt 6))
    have hfive : above.test answers (.number (.ofInt 5)) = false := by
      rw [(Means.of_compile answers habove).unique hmeans]
      decide +kernel
    rw [Bool.eq_false_iff, Ne, hsome]
    rintro ⟨v, hv, hitem, htest⟩
    simp only [List.mem_cons, List.not_mem_nil, or_false] at hv
    rcases hv with rfl | rfl
    · exact hitem trivial
    · rw [hfive] at htest
      cases htest
  · have hmeans := Means.difference answers hregistry.toMembershipOperators 0 (.date seven)
    have hfive : other.test answers (.number (.ofInt 5)) = true := by
      rw [(Means.of_compile answers hother).unique hmeans]
      decide +kernel
    refine (hall _).mpr fun v hv hitem => ?_
    simp only [List.mem_cons, List.not_mem_nil, or_false] at hv
    rcases hv with rfl | rfl
    · exact absurd trivial hitem
    · exact hfive
  · refine (hreach _).2.mpr ⟨.date seven, seven.epochNumber, ?_, rfl, by decide +kernel⟩
    exact .item List.mem_cons_self (.item List.mem_cons_self (.self _))

end DocQuery.Query
