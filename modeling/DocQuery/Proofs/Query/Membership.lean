import DocQuery.Proofs.Operator.Membership
import DocQuery.Proofs.Query.SingleTest

/-!
Queries for membership in a list. A datum is in a list exactly if it is equal to a member
in the sense of a query for equality, and it is in no list of which it differs from all
members.
-/

namespace DocQuery.Query

/-- A list of values means that the datum is among them or that it is not, and a value
that the datum is equal to it or differs from it. -/
structure MembershipOperators (registry : Registry) : Prop where
  isIn : registry.HasBuiltIn .isIn
  notIn : registry.HasBuiltIn .notIn
  eq : registry.HasBuiltIn .eq
  ne : registry.HasBuiltIn .ne

section Operators

variable (answers : Answers) {registry : Registry} (h : MembershipOperators registry) (limit : Nat)

include h

theorem Means.equality (v : Value) :
    Means answers registry limit (.singleton "$eq" v) fun datum =>
      ((Matcher.ofValue v.normalize).run answers datum.normalize datum).value :=
  Means.equal answers limit h.eq v

theorem Means.difference (v : Value) :
    Means answers registry limit (.singleton "$ne" v) fun datum =>
      !((Matcher.ofValue v.normalize).run answers datum.normalize datum).value :=
  Means.prepared answers limit h.ne rfl rfl

theorem Means.membership (members : List Value) :
    Means answers registry limit (.singleton "$in" (.array members)) fun datum =>
      isAmong (members.map Value.normalize) datum.normalize :=
  Means.listed answers limit h.isIn rfl (fun _ => rfl) members

theorem Means.exclusion (members : List Value) :
    Means answers registry limit (.singleton "$nin" (.array members)) fun datum =>
      !isAmong (members.map Value.normalize) datum.normalize :=
  Means.listed answers limit h.notIn rfl (fun _ => rfl) members

end Operators

theorem normalize_ne_predicate {v : Value} (h : ∀ p, v ≠ .predicate p) (p : Predicate) :
    v.normalize ≠ .predicate p := by
  cases v with
  | predicate q => exact absurd rfl (h q)
  | array items =>
    rw [Value.normalize_array]
    rintro ⟨⟩
  | _ => rintro ⟨⟩

/-- Whatever the members are, apart from predicates: patterns, instants, arrays. -/
theorem isAmong_normalize (answers : Answers) {members : List Value}
    (hmembers : ∀ v ∈ members, v.WellFormed ∧ ∀ p, v ≠ .predicate p) {datum : Value}
    (hdatum : datum.WellFormed) :
    isAmong (members.map Value.normalize) datum.normalize = members.any fun v =>
      ((Matcher.ofValue v.normalize).run answers datum.normalize datum).value := by
  rw [isAmong_eq_any, List.any_map, Bool.eq_iff_iff, List.any_eq_true, List.any_eq_true]
  refine exists_congr fun v => and_congr_right fun hv => ?_
  obtain ⟨hwell, hpredicate⟩ := hmembers v hv
  rw [value_run_ofValue answers (normalize_ne_predicate hpredicate) hwell.normalize hdatum]
  rfl

/-- To be in a list is to be equal to a member of it, and to be in none is to differ from
all members. The queries all compile, under any options. -/
theorem membership_is_equality_with_some (answers : Answers) {registry : Registry}
    (h : MembershipOperators registry) (options options' : CompileOptions) {members : List Value}
    (hmembers : ∀ v ∈ members, v.WellFormed ∧ ∀ p, v ≠ .predicate p) :
    ∃ (inside outside : Statement) (equal differs : Value → Statement),
      compile registry options (.singleton "$in" (.array members)) = .ok inside ∧
      compile registry options (.singleton "$nin" (.array members)) = .ok outside ∧
      (∀ v, compile registry options' (.singleton "$eq" v) = .ok (equal v)) ∧
      (∀ v, compile registry options' (.singleton "$ne" v) = .ok (differs v)) ∧
      ∀ datum : Value, datum.WellFormed →
        (inside.test answers datum = true ↔ ∃ v ∈ members, (equal v).test answers datum = true) ∧
        (outside.test answers datum = true ↔ ∀ v ∈ members, (differs v).test answers datum = true) := by
  obtain ⟨inside, hinside, htestin⟩ :=
    (Means.membership answers h options.depthLimit members).compile options.reorder
  obtain ⟨outside, houtside, htestout⟩ :=
    (Means.exclusion answers h options.depthLimit members).compile options.reorder
  choose equal hequal htesteq using fun v =>
    (Means.equality answers h options'.depthLimit v).compile options'.reorder
  choose differs hdiffers htestne using fun v =>
    (Means.difference answers h options'.depthLimit v).compile options'.reorder
  refine ⟨inside, outside, equal, differs, hinside, houtside, hequal, hdiffers, ?_⟩
  intro datum hdatum
  have hamong := isAmong_normalize answers hmembers hdatum
  constructor
  · rw [htestin, hamong, List.any_eq_true]
    simp only [htesteq]
  · rw [htestout, hamong, Bool.not_eq_true', List.any_eq_false]
    simp only [htestne, Bool.not_eq_true, Bool.not_eq_true']

/-- An instant in the list fits its milliseconds in the datum, and a pattern fits no number. -/
theorem instant_and_pattern_as_members :
    let answers : Answers := fun _ _ => false
    let five : Instant := ⟨0, 5000000, by decide, by decide⟩
    let quote : Pattern := ⟨"^\"", "", .concat (.look .start) (.chars (.single '"')), rfl⟩
    let members : List Value := [.regex quote, .date five]
    ∃ inside outside,
      compile .standard {} (.singleton "$in" (.array members)) = .ok inside ∧
      compile .standard {} (.singleton "$nin" (.array members)) = .ok outside ∧
      inside.test answers (.array [.null, .number (.ofInt 5)]) = true ∧
      outside.test answers (.array [.number (.ofInt 6)]) = true := by
  intro answers five quote members
  have hmembers : ∀ v ∈ members, v.WellFormed ∧ ∀ p, v ≠ .predicate p := by
    intro v hv
    simp only [members, List.mem_cons, List.not_mem_nil, or_false] at hv
    rcases hv with rfl | rfl <;> exact ⟨trivial, by rintro p ⟨⟩⟩
  have hregistry : MembershipOperators .standard := ⟨rfl, rfl, rfl, rfl⟩
  obtain ⟨inside, outside, equal, differs, hinside, houtside, hequal, hdiffers, htest⟩ :=
    membership_is_equality_with_some answers hregistry {} ⟨false, 0⟩ hmembers
  have hlisted : (Value.array [.null, .number (.ofInt 5)]).WellFormed := ⟨trivial, trivial, trivial⟩
  have hother : (Value.array [.number (.ofInt 6)]).WellFormed := ⟨trivial, trivial⟩
  refine ⟨inside, outside, hinside, houtside, ?_, ?_⟩
  · refine (htest _ hlisted).1.mpr ⟨.date five, by simp [members], ?_⟩
    rw [(Means.of_compile answers (hequal _)).unique (Means.equality answers hregistry 0 _)]
    decide +kernel
  · refine (htest _ hother).2.mpr fun v hv => ?_
    rw [(Means.of_compile answers (hdiffers _)).unique (Means.difference answers hregistry 0 _)]
    simp only [members, List.mem_cons, List.not_mem_nil, or_false] at hv
    rcases hv with rfl | rfl <;> decide +kernel

end DocQuery.Query
