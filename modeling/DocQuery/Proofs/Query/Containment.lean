import DocQuery.Proofs.Query.Membership

/-!
To have all of a list. A datum has all members exactly if it is there and has each of them
by itself, so only which members there are counts. Where a member is neither a predicate
nor an array, to have it is to be equal to it in the sense of a query for equality; a
datum that is there and is no array is taken as the array of itself in both.
-/

namespace DocQuery.Query

theorem Means.containment (answers : Answers) {registry : Registry}
    (hall : registry.HasBuiltIn .all) (limit : Nat) (members : List Value) :
    Means answers registry limit (.singleton "$all" (.array members)) fun datum =>
      hasAllOf (members.map Value.normalize) datum.normalize :=
  Means.listed answers limit hall rfl (fun _ => rfl) members

theorem hasAllOf_normalize_iff (members : List Value) (datum : Value) :
    hasAllOf (members.map Value.normalize) datum.normalize = true ↔
      datum.isNullish = false ∧
        ∀ v ∈ members, hasAllOf ([v].map Value.normalize) datum.normalize = true := by
  rw [hasAllOf_eq_all, Bool.and_eq_true, Bool.not_eq_true', datum.isNullish_normalize,
    List.all_eq_true, List.forall_mem_map]
  rfl

/-- What is there has a value that is neither a predicate nor an array exactly if it is
equal to it. -/
theorem hasAllOf_eq_equality (answers : Answers) {v datum : Value} (hv : v.WellFormed)
    (harray : ¬v.IsArray) (hpredicate : ∀ p, v ≠ .predicate p) (hdatum : datum.WellFormed)
    (hpresent : datum.isNullish = false) :
    hasAllOf ([v].map Value.normalize) datum.normalize =
      ((Matcher.ofValue v.normalize).run answers datum.normalize datum).value := by
  have hequal := value_run_ofValue answers (normalize_ne_predicate hpredicate) hv.normalize hdatum
  rw [List.map_singleton, hasAllOf_singleton (mt v.isArray_normalize.mp harray),
    datum.isNullish_normalize, hpresent, hequal]
  rfl

/-- To have all of a list is to be there and to be equal to each member, as long as none
is a predicate or an array. Whatever the members are, it is to be there and to have each
of them, and so it does not depend on their order or on how often they are listed. -/
theorem having_all_is_equality_with_each (answers : Answers) {registry : Registry}
    (hall : registry.HasBuiltIn .all) (heq : registry.HasBuiltIn .eq)
    (options options' : CompileOptions) :
    ∃ (having : List Value → Statement) (equal : Value → Statement),
      (∀ members, compile registry options (.singleton "$all" (.array members)) =
        .ok (having members)) ∧
      (∀ v, compile registry options' (.singleton "$eq" v) = .ok (equal v)) ∧
      ∀ (members : List Value) (datum : Value),
        (datum.WellFormed →
          (∀ v ∈ members, v.WellFormed ∧ ¬v.IsArray ∧ ∀ p, v ≠ .predicate p) →
          ((having members).test answers datum = true ↔
            datum.isNullish = false ∧ ∀ v ∈ members, (equal v).test answers datum = true)) ∧
        ((having members).test answers datum = true ↔
          datum.isNullish = false ∧ ∀ v ∈ members, (having [v]).test answers datum = true) ∧
        ∀ others : List Value, (∀ v, v ∈ others ↔ v ∈ members) →
          (having others).test answers datum = (having members).test answers datum := by
  choose having hhaving htest using fun members =>
    (Means.containment answers hall options.depthLimit members).compile options.reorder
  choose equal hequal htesteq using fun v =>
    (Means.equal answers options'.depthLimit heq v).compile options'.reorder
  have heach : ∀ (members : List Value) (datum : Value),
      (having members).test answers datum = true ↔
        datum.isNullish = false ∧ ∀ v ∈ members, (having [v]).test answers datum = true := by
    intro members datum
    simp only [htest]
    exact hasAllOf_normalize_iff members datum
  refine ⟨having, equal, hhaving, hequal, fun members datum => ⟨?_, heach members datum, ?_⟩⟩
  · intro hdatum hmembers
    rw [heach]
    refine and_congr_right fun hpresent => forall₂_congr fun v hv => ?_
    obtain ⟨hwell, harray, hpredicate⟩ := hmembers v hv
    rw [htest, htesteq, hasAllOf_eq_equality answers hwell harray hpredicate hdatum hpresent]
  · intro others hsame
    rw [Bool.eq_iff_iff, heach others, heach members]
    simp only [hsame]

/-- An instant in the list is had as a number of milliseconds, and a pattern as a string. -/
theorem instant_and_pattern_are_had :
    let answers : Answers := fun _ _ => false
    let five : Instant := ⟨0, 5000000, by decide, by decide⟩
    let quote : Pattern := ⟨"^\"", "", .concat (.look .start) (.chars (.single '"')), rfl⟩
    let members : List Value := [.regex quote, .date five]
    ∃ having, compile .standard {} (.singleton "$all" (.array members)) = .ok having ∧
      having.test answers (.array [.number (.ofInt 5), .null, .string "\"a"]) = true ∧
      having.test answers .null = false := by
  intro answers five quote members
  have hmembers : ∀ v ∈ members, v.WellFormed ∧ ¬v.IsArray ∧ ∀ p, v ≠ .predicate p := by
    intro v hv
    simp only [members, List.mem_cons, List.not_mem_nil, or_false] at hv
    rcases hv with rfl | rfl <;> exact ⟨trivial, id, by rintro p ⟨⟩⟩
  have hregistry : MembershipOperators .standard := ⟨rfl, rfl, rfl, rfl⟩
  obtain ⟨having, equal, hhaving, hequal, hlaws⟩ := having_all_is_equality_with_each answers
    (Registry.standard_hasBuiltIn .all) (Registry.standard_hasBuiltIn .eq) {} ⟨false, 0⟩
  have hlisted : (Value.array [.number (.ofInt 5), .null, .string "\"a"]).WellFormed :=
    ⟨trivial, trivial, trivial, trivial⟩
  refine ⟨having members, hhaving members, ?_, ?_⟩
  · refine ((hlaws members _).1 hlisted hmembers).mpr ⟨rfl, fun v hv => ?_⟩
    rw [(Means.of_compile answers (hequal v)).unique (Means.equality answers hregistry 0 v)]
    simp only [members, List.mem_cons, List.not_mem_nil, or_false] at hv
    rcases hv with rfl | rfl <;> decide +kernel
  · rw [Bool.eq_false_iff, Ne, (hlaws members .null).2.1]
    rintro ⟨hpresent, -⟩
    cases hpresent

end DocQuery.Query
