import DocQuery.Proofs.Pattern
import DocQuery.Proofs.Query.Containment

/-!
Queries for a pattern. A pattern by itself, equality with it, the test for it, membership
in the list of it alone and having all of that list are five ways to ask one question:
whether the datum is a string that the pattern matches, or an array with such an element.
Difference, exclusion and negation give the opposite answer to it.
-/

namespace DocQuery

namespace Pattern

/-- The datum is a string that the pattern matches, or an array with such an element. -/
def FoundIn (p : Pattern) (datum : Value) : Prop :=
  (∃ text, datum = .string text ∧ p.isMatch text = true) ∨
    ∃ items text, datum = .array items ∧ .string text ∈ items ∧ p.isMatch text = true

theorem matchesValue_iff (p : Pattern) (datum : Value) :
    p.matchesValue datum = true ↔ p.FoundIn datum := by
  cases datum with
  | string text => simp [matchesValue, FoundIn]
  | array items =>
    simp only [matchesValue, FoundIn, List.any_eq_true]
    constructor
    · rintro ⟨item, hitem, hmatch⟩
      cases item with
      | string text => exact Or.inr ⟨items, text, rfl, hitem, hmatch⟩
      | _ => cases hmatch
    · rintro (⟨text, ⟨⟩, -⟩ | ⟨_, text, ⟨⟩, hitem, hmatch⟩)
      exact ⟨.string text, hitem, hmatch⟩
  | _ => simp [matchesValue, FoundIn]

/-- The queries that ask whether the pattern is found. -/
def spellings (p : Pattern) : List Value :=
  [.regex p, .singleton "$eq" (.regex p), .singleton "$regex" (.regex p),
    .singleton "$in" (.array [.regex p]), .singleton "$all" (.array [.regex p])]

/-- The queries of one test that deny it. -/
def denials (p : Pattern) : List Value :=
  [.singleton "$ne" (.regex p), .singleton "$nin" (.array [.regex p])]

end Pattern

namespace Query

/-- The operators that a pattern can be the operand of have their built-in meanings. -/
structure PatternOperators (registry : Registry) : Prop extends MembershipOperators registry where
  regex : registry.HasBuiltIn .regex
  all : registry.HasBuiltIn .all
  not : registry.HasBuiltIn .not

section Spellings

variable (answers : Answers) {registry : Registry} (h : PatternOperators registry) (limit : Nat)
  (p : Pattern)

include h

theorem Means.pattern_listed :
    Means answers registry limit (.singleton "$in" (.array [.regex p])) p.matchesValue := by
  have hmembership := Means.membership answers h.toMembershipOperators limit [.regex p]
  exact hmembership.congr (isAmong_regex_normalize p)

/-- A datum that is not there is neither a string nor an array, so that the pattern is not
found in it either. -/
theorem Means.pattern_contained :
    Means answers registry limit (.singleton "$all" (.array [.regex p])) p.matchesValue := by
  refine (Means.containment answers h.all limit [.regex p]).congr fun datum => ?_
  have harray : ¬(Value.regex p).IsArray := id
  have hsingle := hasAllOf_singleton harray datum.normalize
  rw [isAmong_regex_normalize, datum.isNullish_normalize] at hsingle
  refine hsingle.trans ?_
  cases datum <;> simp [Value.isNullish, Pattern.matchesValue]

theorem Means.spelling {query : Value} (hquery : query ∈ p.spellings) :
    Means answers registry limit query p.matchesValue := by
  have hequality : Means answers registry limit (.singleton "$eq" (.regex p)) p.matchesValue :=
    Means.equality answers h.toMembershipOperators limit (.regex p)
  simp only [Pattern.spellings, List.mem_cons, List.not_mem_nil, or_false] at hquery
  rcases hquery with rfl | rfl | rfl | rfl | rfl
  · exact hequality.bare (by rintro fields ⟨⟩)
  · exact hequality
  · exact Means.pattern answers limit h.regex rfl
  · exact Means.pattern_listed answers h limit p
  · exact Means.pattern_contained answers h limit p

theorem Means.denial {query : Value} (hquery : query ∈ p.denials) :
    Means answers registry limit query fun datum => !p.matchesValue datum := by
  simp only [Pattern.denials, List.mem_cons, List.not_mem_nil, or_false] at hquery
  rcases hquery with rfl | rfl
  · exact Means.difference answers h.toMembershipOperators limit (.regex p)
  · have hexclusion := Means.exclusion answers h.toMembershipOperators limit [.regex p]
    exact hexclusion.congr fun datum => congrArg Bool.not (isAmong_regex_normalize p datum)

end Spellings

/-- All ways to ask for a pattern answer whether it is found, and all ways to deny it
answer the opposite. They compile under any options, apart from a negation, which takes
one level. A pattern without flags can be replaced by its source. -/
theorem pattern_spellings_agree (answers : Answers) {registry : Registry}
    (h : PatternOperators registry) (options : CompileOptions) (p : Pattern) :
    (∀ query ∈ p.spellings, HoldsExactly answers registry options query p.FoundIn) ∧
      (∀ query ∈ p.denials,
        HoldsExactly answers registry options query fun datum => ¬p.FoundIn datum) ∧
      (0 < options.depthLimit →
        HoldsExactly answers registry options (.singleton "$not" (.regex p))
          fun datum => ¬p.FoundIn datum) ∧
      (options.depthLimit = 0 →
        compile registry options (.singleton "$not" (.regex p)) = .error (.nestingTooDeep 0)) ∧
      (p.flags = "" →
        HoldsExactly answers registry options (.singleton "$regex" (.string p.source)) p.FoundIn) := by
  have hnegatable : (Value.regex p).IsNegatable := trivial
  have hdenied : ∀ datum, (!p.matchesValue datum) = true ↔ ¬p.FoundIn datum := by
    intro datum
    rw [Bool.not_eq_true', ← Bool.not_eq_true, p.matchesValue_iff]
  refine ⟨fun query hquery => ?_, fun query hquery => ?_, fun hlimit => ?_, fun hlimit => ?_,
    fun hflags => ?_⟩
  · exact (Means.spelling answers h _ p hquery).holdsExactly p.matchesValue_iff
  · exact (Means.denial answers h _ p hquery).holdsExactly hdenied
  · have hbare : (Value.regex p) ∈ p.spellings := List.mem_cons_self
    have hnegation := (Means.spelling answers h (options.depthLimit - 1) p hbare).negation h.not hnegatable
    rw [Nat.sub_add_cancel hlimit] at hnegation
    exact hnegation.holdsExactly hdenied
  · have hrefused : compileStatement registry 0 1 (.singleton "$not" (.regex p)) none =
        .error (.nestingTooDeep 0) := compileStatement_negation 0 0 h.not hnegatable none
    rw [compile_eq, hlimit, hrefused]
    rfl
  · have hsource : Operand.pattern (.string p.source) = .ok p := by
      have hmake := p.make_source_flags
      rw [hflags] at hmake
      rw [Operand.pattern, hmake]
    have hasked : Means answers registry options.depthLimit
        (.singleton "$regex" (.string p.source)) p.matchesValue :=
      Means.pattern answers _ h.regex hsource
    exact hasked.holdsExactly p.matchesValue_iff

/-- Two strings in arrays, of which the pattern matches the one that is not nested. -/
theorem quoted_text_is_found :
    let answers : Answers := fun _ _ => false
    let quote : Pattern := ⟨"^\"", "", .concat (.look .start) (.chars (.single '"')), rfl⟩
    let datum : Value := .array [.array [.string "b"], .string "\"a"]
    PatternOperators .standard ∧
      ∃ s t u, compile .standard {} (.singleton "$all" (.array [.regex quote])) = .ok s ∧
        compile .standard {} (.singleton "$not" (.regex quote)) = .ok t ∧
        compile .standard {} (.singleton "$regex" (.string "^\"")) = .ok u ∧
        s.test answers datum = true ∧ t.test answers datum = false ∧
        u.test answers (.array [.array [.string "\"a"]]) = false := by
  intro answers quote datum
  have hregistry : PatternOperators .standard := ⟨⟨rfl, rfl, rfl, rfl⟩, rfl, rfl, rfl⟩
  obtain ⟨hasked, hdenied, hnegated, -, hsource⟩ :=
    pattern_spellings_agree answers hregistry {} quote
  obtain ⟨s, hs, htests⟩ :=
    hasked (.singleton "$all" (.array [.regex quote])) (by simp [Pattern.spellings])
  obtain ⟨t, ht, htestt⟩ := hnegated (by decide)
  obtain ⟨u, hu, htestu⟩ := hsource rfl
  have hfound : quote.FoundIn datum := by
    rw [← quote.matchesValue_iff]
    decide +kernel
  have hnested : ¬quote.FoundIn (.array [.array [.string "\"a"]]) := by
    rw [← quote.matchesValue_iff]
    decide +kernel
  refine ⟨hregistry, s, t, u, hs, ht, hu, (htests datum).mpr hfound, ?_, ?_⟩
  · rw [Bool.eq_false_iff, Ne, htestt]
    exact fun hnot => hnot hfound
  · rw [Bool.eq_false_iff, Ne, htestu]
    exact hnested

end Query
end DocQuery
